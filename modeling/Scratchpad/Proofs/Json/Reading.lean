import Scratchpad.Frame
import Scratchpad.Proofs.Json.Documents
import Scratchpad.Proofs.Json.Tokens
import Scratchpad.Proofs.Text

/-!
# Reading written JSON

The tokens of a value are those of its document, and the document means the value again, if that is
one that a reader makes. So a value is read back from its compact form and from its pretty form.
What a reader makes of texts are just the readable values, doubles left aside, and what is shown of
these can be read back unless it is a string.
-/

namespace Scratchpad.Json

mutual

/-- The document that a value is written as. -/
def document : Json → Document
  | .null => .null
  | .bool b => .bool b
  | .number n => .number n.literal
  | .string s => .string (some s)
  | .array items => .array (itemDocuments items)
  | .object members => .object (memberDocuments members)

def itemDocuments : List Json → List Document
  | [] => []
  | x :: rest => document x :: itemDocuments rest

def memberDocuments : List (String × Json) → Document.Members
  | [] => []
  | (k, x) :: rest => (some k, document x) :: memberDocuments rest

end

theorem itemDocuments_eq_map (items : List Json) : itemDocuments items = items.map document := by
  induction items with
  | nil => rfl
  | cons x rest ih => rw [itemDocuments, ih, List.map_cons]

theorem memberDocuments_eq_map (members : List (String × Json)) :
    memberDocuments members = members.map fun m => (some m.1, document m.2) := by
  induction members with
  | nil => rfl
  | cons m rest ih => rw [memberDocuments, ih, List.map_cons]

/-! ## Parsing -/

theorem itemTokens_documents {items : List Json} (h : ∀ x ∈ items, x.document.tokens = x.tokens) :
    Document.itemTokens (itemDocuments items) = itemTokens items := by
  induction items with
  | nil => rfl
  | cons x rest ih =>
    have hx := h x (by simp)
    have hrest := ih fun y hy => h y (by simp [hy])
    cases rest with
    | nil => exact congrArg (· ++ [.closeArray]) hx
    | cons y rest =>
      change x.document.tokens ++ .comma :: Document.itemTokens (itemDocuments (y :: rest)) = _
      rw [hx, hrest]
      rfl

theorem memberTokens_documents {members : List (String × Json)}
    (h : ∀ m ∈ members, m.2.document.tokens = m.2.tokens) :
    Document.memberTokens (memberDocuments members) = memberTokens members := by
  induction members with
  | nil => rfl
  | cons m rest ih =>
    obtain ⟨k, x⟩ := m
    have hx := h (k, x) (by simp)
    have hrest := ih fun m hm => h m (by simp [hm])
    cases rest with
    | nil => exact congrArg (.string (some k) :: .colon :: · ++ [.closeObject]) hx
    | cons m rest =>
      change .string (some k) :: .colon :: x.document.tokens ++
        .comma :: Document.memberTokens (memberDocuments (m :: rest)) = _
      rw [hx, hrest]
      rfl

/-- A value is written as the tokens of its document. -/
theorem document_tokens : (v : Json) → v.document.tokens = v.tokens
  | .null => rfl
  | .bool _ => rfl
  | .number _ => rfl
  | .string _ => rfl
  | .array items => by
    have ih : ∀ x ∈ items, x.document.tokens = x.tokens := fun x _ => document_tokens x
    rw [document, Document.tokens, itemTokens_documents ih, tokens]
  | .object members => by
    have ih : ∀ m ∈ members, m.2.document.tokens = m.2.tokens := by
      rintro ⟨k, x⟩ hm
      have hlt : sizeOf x < sizeOf members :=
        Nat.lt_of_le_of_lt (by simp) (List.sizeOf_lt_of_mem hm)
      exact document_tokens x
    rw [document, Document.tokens, memberTokens_documents ih, tokens]

/-! ## Values -/

theorem mapM_map_eq_some {α β : Type} {f : α → β} {g : β → Option α} {l : List α}
    (h : ∀ a ∈ l, g (f a) = some a) : (l.map f).mapM g = some l := by
  induction l with
  | nil => rfl
  | cons a l ih =>
    rw [List.map_cons, List.mapM_cons, h a (by simp), ih fun b hb => h b (by simp [hb])]
    rfl

theorem value?_literal {n : Int} (h : -(UInt64.size / 2 : Nat) ≤ n ∧ n < UInt64.size) :
    (Number.literal (.int n)).value? = some (.int n) := by
  have hint : (Number.literal (.int n)).int? = some n := by
    simp only [Number.literal, Literal.int?, Nat.ofDigitChars_ten_toDigits, decide_eq_true_eq]
    rw [if_neg (by simp)]
    split
    next hn =>
      rw [if_pos (by omega)]
      congr 1
      omega
    next hn =>
      rw [if_pos (by omega)]
      congr 1
      omega
  rw [Literal.value?, hint]

theorem insert_snoc {key : String} {v : Json} {members : List (String × Json)}
    (h : ∀ m ∈ members, m.1 < key) : insert key v members = members ++ [(key, v)] := by
  induction members with
  | nil => rfl
  | cons m rest ih =>
    have hlt : m.1 < key := h m (by simp)
    have hne : key ≠ m.1 := by
      rintro rfl
      exact String.lt_irrefl _ hlt
    rw [insert, if_neg (String.lt_asymm hlt), if_neg hne, ih fun m' hm => h m' (by simp [hm])]
    rfl

/-- Members that are sorted already stay in their order. -/
theorem foldl_insert {done members : List (String × Json)}
    (h : (done ++ members).Pairwise fun a b => a.1 < b.1) :
    members.foldl (fun sorted m => insert m.1 m.2 sorted) done = done ++ members := by
  induction members generalizing done with
  | nil => rw [List.append_nil]; rfl
  | cons m rest ih =>
    have hm : ∀ m' ∈ done, m'.1 < m.1 := by
      intro m' hm'
      exact (List.pairwise_append.mp h).2.2 m' hm' m (by simp)
    rw [List.foldl_cons, insert_snoc hm, ih (by rwa [List.append_assoc]), List.append_assoc]
    rfl

theorem ofDocument?_document {depth : Nat} {v : Json} (h : Readable depth v) :
    ofDocument? depth v.document = some v := by
  induction h with
  | @int depth n h =>
    cases depth <;> simp only [document, ofDocument?, value?_literal h, Option.map_some]
  | @array depth items _ ih =>
    rw [document, ofDocument?, itemDocuments_eq_map, mapM_map_eq_some ih]
    rfl
  | @object depth members sorted _ ih =>
    rw [document, ofDocument?, memberDocuments_eq_map, mapM_map_eq_some]
    · change some (Json.object (members.foldl _ [])) = _
      rw [foldl_insert (by simpa using sorted)]
      rfl
    · intro m hm
      rw [ih m hm]
      rfl
  | @null depth => cases depth <;> rfl
  | @bool depth b => cases depth <;> rfl
  | @string depth s => cases depth <;> rfl

/-! ## Both forms -/

variable {depth : Nat} {v : Json}

theorem Document.ofBytes?_compact (h : Readable depth v) :
    ofBytes? (Bytes.ofString v.compact) = some v.document := by
  rw [ofBytes?_eq_some_iff, Bytes.ofString, compact, String.toList_ofList, Text.Utf8.scan_encode,
    (Token.Scanner.Reads.compact h).scan_eq, document_tokens]

theorem Document.ofBytes?_pretty (h : Readable depth v) :
    ofBytes? (Bytes.ofString v.pretty) = some v.document := by
  rw [ofBytes?_eq_some_iff, Bytes.ofString, pretty, String.toList_ofList, Text.Utf8.scan_encode,
    (Token.Scanner.Reads.pretty h 0).scan_eq, document_tokens]

theorem ofBytes?_compact (h : Readable depthLimit v) :
    ofBytes? (Bytes.ofString v.compact) = some v := by
  rw [ofBytes?, Document.ofBytes?_compact h]
  exact ofDocument?_document h

theorem ofBytes?_pretty (h : Readable depthLimit v) :
    ofBytes? (Bytes.ofString v.pretty) = some v := by
  rw [ofBytes?, Document.ofBytes?_pretty h]
  exact ofDocument?_document h

/-! ## Values without doubles -/

/-- Every number in a value is an integer. -/
inductive Integral : Json → Prop
  | null : Integral .null
  | bool (b : Bool) : Integral (.bool b)
  | int (n : Int) : Integral (.number (.int n))
  | string (s : String) : Integral (.string s)
  | array {items : List Json} (h : ∀ x ∈ items, Integral x) : Integral (.array items)
  | object {members : List (String × Json)} (h : ∀ m ∈ members, Integral m.2) :
    Integral (.object members)

theorem Readable.integral {depth : Nat} {v : Json} (h : Readable depth v) : v.Integral := by
  induction h with
  | null => exact .null
  | bool b => exact .bool b
  | int => exact .int _
  | string s => exact .string s
  | array _ ih => exact .array ih
  | object _ _ ih => exact .object ih

/-! ## Sorted members -/

theorem mem_insert {key : String} {v : Json} {members : List (String × Json)} {m : String × Json}
    (h : m ∈ insert key v members) : m = (key, v) ∨ m ∈ members := by
  induction members with
  | nil => simpa [insert] using h
  | cons n rest ih =>
    rw [insert] at h
    split at h
    · simpa using h
    · split at h
      · exact (List.mem_cons.mp h).imp_right (.tail _)
      · obtain rfl | hm := List.mem_cons.mp h
        · exact .inr (.head _)
        · exact (ih hm).imp_right (.tail _)

theorem sorted_insert {key : String} {v : Json} {members : List (String × Json)}
    (h : members.Pairwise fun a b => a.1 < b.1) :
    (insert key v members).Pairwise fun a b => a.1 < b.1 := by
  induction members with
  | nil => exact List.pairwise_singleton _ _
  | cons n rest ih =>
    have hrest := List.pairwise_cons.mp h
    rw [insert]
    split
    next hlt =>
      refine List.pairwise_cons.mpr ⟨fun m hm => ?_, h⟩
      obtain rfl | hm := List.mem_cons.mp hm
      · exact hlt
      · exact String.lt_trans hlt (hrest.1 m hm)
    next hge =>
      split
      next heq => exact List.pairwise_cons.mpr ⟨fun m hm => heq ▸ hrest.1 m hm, hrest.2⟩
      next hne =>
        refine List.pairwise_cons.mpr ⟨fun m hm => ?_, ih hrest.2⟩
        obtain rfl | hm := mem_insert hm
        · exact Std.lt_of_le_of_ne (String.not_lt.mp hge) (Ne.symm hne)
        · exact hrest.1 m hm

theorem sorted_foldl_insert {done values : List (String × Json)}
    (h : done.Pairwise fun a b => a.1 < b.1) :
    (values.foldl (fun sorted m => insert m.1 m.2 sorted) done).Pairwise fun a b => a.1 < b.1 := by
  induction values generalizing done with
  | nil => exact h
  | cons m rest ih => exact ih (sorted_insert h)

theorem mem_foldl_insert {done values : List (String × Json)} {m : String × Json}
    (h : m ∈ values.foldl (fun sorted m => insert m.1 m.2 sorted) done) :
    m ∈ done ∨ m ∈ values := by
  induction values generalizing done with
  | nil => exact .inl h
  | cons n rest ih =>
    obtain hm | hm := ih h
    · obtain rfl | hm := mem_insert hm
      · exact .inr (.head _)
      · exact .inl hm
    · exact .inr (.tail _ hm)

/-! ## What documents mean -/

theorem forall_of_mapM {α β : Type} {f : α → Option β} {P : β → Prop} {l : List α} {l' : List β}
    (h : l.mapM f = some l') (hP : ∀ a ∈ l, ∀ b, f a = some b → P b) : ∀ b ∈ l', P b := by
  induction l generalizing l' with
  | nil =>
    cases h
    simp
  | cons a rest ih =>
    rw [List.mapM_cons] at h
    obtain ⟨b, hb, h⟩ := Option.bind_eq_some_iff.mp h
    obtain ⟨bs, hbs, h⟩ := Option.bind_eq_some_iff.mp h
    cases h
    rw [List.forall_mem_cons]
    exact ⟨hP a (.head _) b hb, ih hbs fun a' ha' => hP a' (.tail _ ha')⟩

/-- An integer is read only if it fits 64 bits. -/
theorem bounds_of_value? {l : Literal} {n : Int} (h : l.value? = some (.int n)) :
    -(UInt64.size / 2 : Nat) ≤ n ∧ n < UInt64.size := by
  rw [Literal.value?] at h
  split at h
  next m hm =>
    cases h
    rw [Literal.int?] at hm
    split at hm
    next => cases hm
    next =>
      dsimp only at hm
      split at hm
      next =>
        split at hm
        next hbounds =>
          cases hm
          omega
        next => cases hm
      next =>
        split at hm
        next hbound =>
          cases hm
          omega
        next => cases hm
  next =>
    rw [Literal.real?] at h
    obtain ⟨x, -, h⟩ := Option.bind_eq_some_iff.mp h
    obtain ⟨y, -, h⟩ := Option.bind_eq_some_iff.mp h
    cases h

/-- What a document means is readable if it has no double in it. -/
theorem readable_of_ofDocument? {depth : Nat} {d : Document} {v : Json}
    (h : ofDocument? depth d = some v) (hv : v.Integral) : Readable depth v := by
  cases d with
  | null =>
    rw [ofDocument?] at h
    cases h
    exact .null
  | bool b =>
    rw [ofDocument?] at h
    cases h
    exact .bool b
  | number l =>
    rw [ofDocument?] at h
    obtain ⟨n, hn, rfl⟩ := Option.map_eq_some_iff.mp h
    cases hv
    exact .int (bounds_of_value? hn)
  | string s =>
    rw [ofDocument?] at h
    obtain ⟨s, -, rfl⟩ := Option.map_eq_some_iff.mp h
    exact .string s
  | array items =>
    cases depth with
    | zero => cases h
    | succ depth =>
      rw [ofDocument?] at h
      obtain ⟨values, hvalues, rfl⟩ := Option.map_eq_some_iff.mp h
      cases hv with
      | array hv =>
        have hread : ∀ x ∈ values, x.Integral → Readable depth x :=
          forall_of_mapM hvalues fun d _ x hx hv => readable_of_ofDocument? hx hv
        exact .array fun x hx => hread x hx (hv x hx)
  | object members =>
    cases depth with
    | zero => cases h
    | succ depth =>
      rw [ofDocument?] at h
      obtain ⟨values, hvalues, h⟩ := Option.bind_eq_some_iff.mp h
      cases h
      cases hv with
      | object hv =>
        have hread : ∀ m ∈ values, m.2.Integral → Readable depth m.2 := by
          refine forall_of_mapM hvalues fun m _ value hm hv => ?_
          obtain ⟨name, -, hm⟩ := Option.bind_eq_some_iff.mp hm
          obtain ⟨x, hx, hm⟩ := Option.bind_eq_some_iff.mp hm
          cases hm
          exact readable_of_ofDocument? hx hv
        refine .object (sorted_foldl_insert .nil) fun m hm => ?_
        have hmem := (mem_foldl_insert hm).resolve_left List.not_mem_nil
        exact hread m hmem (hv m hm)
termination_by depth

/-- The values that are read from texts, of those without doubles. -/
theorem readable_iff {v : Json} :
    Readable depthLimit v ↔ v.Integral ∧ ∃ body, ofBytes? body = some v := by
  constructor
  · intro h
    exact ⟨h.integral, _, ofBytes?_pretty h⟩
  · rintro ⟨hv, body, hbody⟩
    obtain ⟨d, -, hd⟩ := Option.bind_eq_some_iff.mp hbody
    exact readable_of_ofDocument? hd hv

/-! ## What is shown -/

theorem display_eq_pretty {v : Json} (h : ∀ s, v ≠ .string s) : v.display = v.pretty := by
  cases v with
  | string s => exact absurd rfl (h s)
  | _ => rfl

/-- A string that was read is shown as it is. Any other value without doubles is shown as text from
which it is read back, so no other such value looks like it. -/
theorem ofBytes?_display {body : Bytes} {v : Json} (h : ofBytes? body = some v)
    (hv : v.Integral) :
    (∀ s, v = .string s → v.display = s) ∧
      ((∀ s, v ≠ .string s) → ofBytes? (Bytes.ofString v.display) = some v ∧
        ∀ body' v', ofBytes? body' = some v' → v'.Integral → (∀ s, v' ≠ .string s) →
          v'.display = v.display → v' = v) := by
  have hback {body : Bytes} {v : Json} (h : ofBytes? body = some v) (hv : v.Integral)
      (hs : ∀ s, v ≠ .string s) : ofBytes? (Bytes.ofString v.display) = some v := by
    rw [display_eq_pretty hs]
    exact ofBytes?_pretty (readable_iff.mpr ⟨hv, body, h⟩)
  refine ⟨?_, fun hs => ⟨hback h hv hs, fun body' v' h' hv' hs' heq => ?_⟩⟩
  · rintro s rfl
    rfl
  · have hv' := hback h' hv' hs'
    rw [heq, hback h hv hs] at hv'
    exact (Option.some.inj hv').symm

/-- An object with a repeated key, whose keys are not sorted, empty arrays and objects inside one
another, an escaped key and the integers at both ends of their range. -/
theorem ofBytes?_display_of_nested :
    let body := Bytes.ofString
      ("\x7b\"b\\t\":[[],-9223372036854775808,18446744073709551615,[\x7b\x7d]]," ++
        "\"a\":1,\"a\":null\x7d")
    let v : Json := .object [("a", .null), ("b\t", .array
      [.array [], .number (.int (-9223372036854775808)), .number (.int 18446744073709551615),
        .array [.object []]])]
    ofBytes? body = some v ∧ v.Integral ∧ (∀ s, v ≠ .string s) ∧
      ofBytes? (Bytes.ofString v.display) = some v := by
  intro body v
  have hbody : ofBytes? body = some v := by
    let d : Document := .object [(some "b\t", .array [.array [],
      .number ⟨true, "9223372036854775808".toList, [], none⟩,
      .number ⟨false, "18446744073709551615".toList, [], none⟩, .array [.object []]]),
      (some "a", .number ⟨false, ['1'], [], none⟩), (some "a", .null)]
    have hd : Document.ofBytes? body = some d := by
      rw [Document.ofBytes?_eq_some_iff, show Text.Utf8.scan body = _ from Text.Utf8.scan_encode _]
      decide
    rw [ofBytes?, hd]
    rfl
  have hv : v.Integral := by
    refine .object fun m hm => ?_
    simp only [List.mem_cons, List.not_mem_nil, or_false] at hm
    obtain rfl | rfl := hm
    · exact .null
    · refine .array fun x hx => ?_
      simp only [List.mem_cons, List.not_mem_nil, or_false] at hx
      obtain rfl | rfl | rfl | rfl := hx
      · exact .array (by simp)
      · exact .int _
      · exact .int _
      · exact .array (by simpa using .object (by simp))
  have hs : ∀ s, v ≠ .string s := nofun
  exact ⟨hbody, hv, hs, ((ofBytes?_display hbody hv).2 hs).1⟩

end Scratchpad.Json
