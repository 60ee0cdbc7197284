import Scratchpad.Proofs.Toml.Lines

/-!
# Entries of a document

What was read before matters neither to the scanner nor to the parser, so a text that may stand
alone is read alike after other lines. Entries on lines of their own, in any order and each spelled
in any way, are therefore read as the table of their keys and values, if no key comes twice.
-/

namespace Scratchpad.Toml

/-! ## Tokens -/

namespace Token.Scanner

/-- The scanner with some tokens in front of its own, last one first. -/
def after (s : Scanner) (ts : List Token) : Scanner :=
  ⟨s.tokens ++ ts, s.mode⟩

variable (tokens ts : List Token) (c : Char)

theorem begin_append : begin (tokens ++ ts) c = (begin tokens c).after ts := by
  unfold begin
  repeat' split
  all_goals rfl

theorem stepLine_append (literal : Bool) (acc : List Char) :
    stepLine (tokens ++ ts) literal acc c = (stepLine tokens literal acc c).map (after · ts) := by
  unfold stepLine
  repeat' split
  all_goals rfl

theorem stepBody_append (literal : Bool) (acc : List Char) :
    stepBody (tokens ++ ts) literal acc c = (stepBody tokens literal acc c).map (after · ts) := by
  unfold stepBody
  repeat' split
  all_goals rfl

theorem stepEscape_append (multiline : Bool) (acc : List Char) :
    stepEscape (tokens ++ ts) multiline acc c =
      (stepEscape tokens multiline acc c).map (after · ts) := by
  unfold stepEscape
  repeat' split
  all_goals rfl

theorem stepHex_append (multiline : Bool) (acc : List Char) (left code : Nat) :
    stepHex (tokens ++ ts) multiline acc left code c =
      (stepHex tokens multiline acc left code c).map (after · ts) := by
  unfold stepHex
  cases Text.hexValue? c with
  | none => rfl
  | some d =>
    simp only [Option.bind_eq_bind, Option.bind_some]
    repeat' split
    all_goals rfl

theorem stepClosing_append (literal : Bool) (acc : List Char) (count : Nat) :
    stepClosing (tokens ++ ts) literal acc count c =
      (stepClosing tokens literal acc count c).map (after · ts) := by
  simp only [stepClosing, stepBody_append, ← List.cons_append, begin_append]
  repeat' split
  all_goals rfl

/-- What was read before does not matter to a step. -/
theorem step_after (s : Scanner) : step (s.after ts) c = (step s c).map (after · ts) := by
  obtain ⟨tokens, mode⟩ := s
  cases mode <;>
    simp only [step, after, begin_append, stepLine_append, stepBody_append, stepEscape_append,
      stepHex_append, stepClosing_append, ← List.cons_append] <;>
    repeat' split
  all_goals rfl

theorem read_after (s : Scanner) (cs : List Char) :
    (s.after ts).read cs = (s.read cs).map (after · ts) := by
  induction cs generalizing s with
  | nil => rfl
  | cons c cs ih =>
    rw [read_cons, read_cons, step_after]
    cases step s c with
    | none => rfl
    | some s' => exact ih s'

theorem finish_after (s : Scanner) : (s.after ts).finish = s.finish.map (ts.reverse ++ ·) := by
  obtain ⟨tokens, mode⟩ := s
  unfold finish after
  dsimp only
  split
  case h_6 => split <;> simp
  all_goals simp

/-- Where a text may end, its line may end. -/
theorem step_newline_of_finish {s : Scanner} {l : List Token} (h : s.finish = some l) :
    step s '\n' = some ⟨.newline :: l.reverse, .between⟩ := by
  obtain ⟨tokens, mode⟩ := s
  unfold finish at h
  dsimp only at h
  split at h
  case h_6 literal acc count =>
    split at h
    next => cases h
    next hcount =>
      cases h
      have hquote : '\n' ≠ quoteOf literal := by cases literal <;> decide
      simp only [step, stepClosing, if_neg hquote, if_neg hcount, List.reverse_reverse]
      rfl
  case h_5 literal =>
    cases h
    cases literal <;> simp [step, quoteOf, begin, isMark, isBlank]
  case h_7 => cases h
  all_goals
    cases h
    simp [step, begin, isMark, isBlank, endsAtom]

end Token.Scanner

/-! ## Statements -/

namespace Statement.Parser

/-- The parser with some statements in front of its own, last one first. -/
def after (p : Parser) (done : List Statement) : Parser :=
  ⟨p.done ++ done, p.state⟩

theorem step_after (done : List Statement) (p : Parser) (t : Token) :
    step (p.after done) t = (step p t).map (after · done) := by
  simp only [step, after]
  cases stepState p.state t with
  | none => rfl
  | some r => simp

theorem foldlM_after (done : List Statement) (p : Parser) (tokens : List Token) :
    tokens.foldlM step (p.after done) = (tokens.foldlM step p).map (after · done) := by
  induction tokens generalizing p with
  | nil => rfl
  | cons t tokens ih =>
    rw [List.foldlM_cons, List.foldlM_cons, step_after]
    cases step p t with
    | none => rfl
    | some p' => exact ih p'

theorem finish_after (done : List Statement) (p : Parser) :
    (p.after done).finish = p.finish.map (done.reverse ++ ·) := by
  obtain ⟨own, state⟩ := p
  unfold finish after
  dsimp only
  split
  next => simp
  next => simp
  next => simp
  next target text => cases scalar? text <;> simp
  next target text => cases scalar? text <;> simp
  next => simp

/-- Where a text may end, its line may end. -/
theorem step_newline_of_finish {p : Parser} {l : List Statement} (h : p.finish = some l) :
    step p .newline = some ⟨l.reverse, .line⟩ := by
  obtain ⟨own, state⟩ := p
  unfold finish at h
  dsimp only at h
  split at h
  next => cases h; simp [step, stepState]
  next => cases h; simp [step, stepState]
  next => cases h; simp [step, stepState, stepAfter]
  next =>
    obtain ⟨e, he, h⟩ := Option.bind_eq_some_iff.mp h
    cases h
    simp [step, stepState, stepAfter, he]
  next =>
    obtain ⟨e, he, h⟩ := Option.bind_eq_some_iff.mp h
    cases h
    simp [step, stepState, stepAfter, he]
  next => cases h

end Statement.Parser

/-! ## Texts in a row -/

namespace Statement

theorem list?_of_noMark {cs : List Char} (h : cs.head? ≠ some '\uFEFF') : list? cs =
    (Token.scan cs).bind fun tokens => (tokens.foldlM Parser.step .start).bind Parser.finish := by
  unfold list?
  split
  next => exact absurd rfl h
  next => rfl

end Statement

open Statement (Parser)

/-- A text is read as these statements, and no byte order mark is in front of it. -/
structure Spells (text : List Char) (l : List Statement) : Prop where
  noMark : text.head? ≠ some '\uFEFF'
  list? : Statement.list? text = some l

namespace Spells
variable {text text' : List Char} {l l' : List Statement}

theorem nil : Spells [] [] :=
  ⟨nofun, rfl⟩

/-- A text is read alike on a line of its own. -/
theorem reads (h : Spells text l) : Reads (text ++ ['\n']) l := by
  have hlist := h.list?
  rw [Statement.list?_of_noMark h.noMark] at hlist
  obtain ⟨tokens, hscan, hlist⟩ := Option.bind_eq_some_iff.mp hlist
  obtain ⟨s, hs, htokens⟩ := Option.bind_eq_some_iff.mp hscan
  obtain ⟨p, hp, hl⟩ := Option.bind_eq_some_iff.mp hlist
  refine ⟨tokens ++ [.newline], fun ts => ?_, fun done => ?_⟩
  · change (Token.Scanner.start.after ts).read _ = _
    rw [Token.Scanner.read_after, Token.Scanner.read_append, Token.Scanner.read, hs,
      Option.bind_some, Token.Scanner.read_cons, Token.Scanner.step_newline_of_finish htokens]
    simp [Token.Scanner.after]
  · change (tokens ++ [Token.newline]).foldlM Parser.step (Parser.start.after done) = _
    rw [Parser.foldlM_after, List.foldlM_append, hp]
    change ((Parser.step p Token.newline).bind some).map _ = _
    rw [Parser.step_newline_of_finish hl]
    simp [Parser.after]

/-- What stands in front of a text is read first. -/
theorem append (h : Reads text l) (hmark : (text ++ text').head? ≠ some '\uFEFF')
    (h' : Spells text' l') : Spells (text ++ text') (l ++ l') := by
  refine ⟨hmark, ?_⟩
  obtain ⟨tokens, hread, hparse⟩ := h
  have hlist := h'.list?
  rw [Statement.list?_of_noMark h'.noMark] at hlist
  obtain ⟨tokens', hscan, hlist⟩ := Option.bind_eq_some_iff.mp hlist
  obtain ⟨s, hs, htokens⟩ := Option.bind_eq_some_iff.mp hscan
  obtain ⟨p, hp, hl⟩ := Option.bind_eq_some_iff.mp hlist
  have hscan : Token.scan (text ++ text') = some (tokens ++ tokens') := by
    change (Token.Scanner.read ⟨[], .between⟩ (text ++ text')).bind Token.Scanner.finish = _
    rw [Token.Scanner.read_append, hread, Option.bind_some]
    change ((Token.Scanner.start.after (tokens.reverse ++ [])).read text').bind _ = _
    rw [Token.Scanner.read_after, Token.Scanner.read, hs, Option.map_some, Option.bind_some,
      Token.Scanner.finish_after, htokens]
    simp
  have hparse : (tokens ++ tokens').foldlM Parser.step .start = some (p.after l.reverse) := by
    rw [List.foldlM_append, Parser.start, hparse]
    change tokens'.foldlM Parser.step (Parser.start.after (l.reverse ++ [])) = _
    rw [Parser.foldlM_after, hp, List.append_nil, Option.map_some]
  rw [Statement.list?_of_noMark hmark, hscan, Option.bind_some, hparse, Option.bind_some,
    Parser.finish_after, hl]
  simp

theorem of_reads (h : Reads text l) (hmark : text.head? ≠ some '\uFEFF') : Spells text l := by
  have happend : Spells (text ++ []) (l ++ []) := append h (by rwa [List.append_nil]) .nil
  rwa [List.append_nil, List.append_nil] at happend

/-- Texts on lines of their own are read one after the other. -/
theorem intercalate {parts : List (List Char × List Statement)}
    (h : ∀ p ∈ parts, Spells p.1 p.2) :
    Spells (['\n'].intercalate (parts.map Prod.fst)) (parts.flatMap Prod.snd) := by
  induction parts with
  | nil => exact .nil
  | cons p rest ih =>
    have hp := h p (.head _)
    have hrest := ih fun q hq => h q (.tail _ hq)
    cases rest with
    | nil => simpa using hp
    | cons q rest =>
      have hmark : (p.1 ++ ['\n'] ++ ['\n'].intercalate ((q :: rest).map Prod.fst)).head? ≠
          some '\uFEFF' := by
        have hp := hp.noMark
        cases hhead : p.1 with
        | nil => simp
        | cons c cs => simpa [hhead] using hp
      have happend := append hp.reads hmark hrest
      simpa [List.intercalate] using happend

end Spells

/-! ## Tables -/

namespace Table

variable {members members' : Members}

theorem set_of_new {key : String} (v : Value) (h : key ∉ members.map Prod.fst) :
    set key v members = members ++ [(key, v)] := by
  induction members with
  | nil => rfl
  | cons m members ih =>
    rw [List.map_cons, List.mem_cons, not_or] at h
    obtain ⟨k, w⟩ := m
    rw [set, if_neg (Ne.symm h.1), ih h.2, List.cons_append]

theorem get?_of_new {key : String} (h : key ∉ members.map Prod.fst) :
    get? members key = none := by
  rw [get?, List.lookup_eq_none_iff]
  intro m hm
  have hne : key ≠ m.1 := fun heq => h (heq ▸ List.mem_map_of_mem hm)
  simpa using hne

/-- An assignment that gives one key a value where there is nothing yet. -/
def Gives (path : Path) (e : Expr) (m : String × Value) : Prop :=
  Builder.step ⟨[], []⟩ (.assign path e) = some ⟨[m], []⟩

/-- A key that a table does not have is given the same value as in an empty one. -/
theorem step_of_gives {path : Path} {e : Expr} {m : String × Value} (h : Gives path e m)
    (hnew : m.1 ∉ members.map Prod.fst) :
    Builder.step ⟨members, []⟩ (.assign path e) = some ⟨members ++ [m], []⟩ := by
  obtain ⟨v, hv, h⟩ := Option.bind_eq_some_iff.mp h
  obtain ⟨root, hroot, h⟩ := Option.bind_eq_some_iff.mp h
  suffices hedit : edit false (assign path v) [] .header members = some (members ++ [m]) by
    rw [Builder.step, hv, Option.bind_eq_bind, Option.bind_some, hedit]
    rfl
  cases h
  change assign path v .header [] = _ at hroot
  change assign path v .header members = _
  rw [assign] at hroot ⊢
  cases hlast : path.getLast? with
  | none => simp [hlast] at hroot
  | some k =>
    simp only [hlast] at hroot ⊢
    cases hinit : path.dropLast with
    | nil =>
      obtain rfl : (k, v) = m := by simpa [hinit, edit, add, get?, set] using hroot
      simp [edit, add, get?_of_new hnew, set_of_new _ hnew]
    | cons k' rest =>
      simp only [hinit, edit] at hroot ⊢
      obtain ⟨inner, hinner, hset⟩ := Option.bind_eq_some_iff.mp hroot
      obtain rfl : (k', _) = m := by simpa [set] using hset
      simp only [get?_of_new hnew, hinner]
      exact congrArg some (set_of_new _ hnew)

/-- Assignments are carried out one after the other, if no key comes twice. -/
theorem foldlM_of_gives {α : Type} {path : α → Path} {e : α → Expr}
    {member : α → String × Value} (h : ∀ a, Gives (path a) (e a) (member a)) (members : Members)
    (l : List α)
    (hnodup : ((members ++ l.map member).map Prod.fst).Nodup) :
    (l.map fun a => Statement.assign (path a) (e a)).foldlM Builder.step ⟨members, []⟩ =
      some ⟨members ++ l.map member, []⟩ := by
  induction l generalizing members with
  | nil => simp
  | cons a rest ih =>
    have hnew : (member a).1 ∉ members.map Prod.fst := by
      rw [List.map_append, List.nodup_append] at hnodup
      exact fun hmem => hnodup.2.2 _ hmem _ (by simp) rfl
    have hrest := ih (members ++ [member a]) (by simpa using hnodup)
    simpa [step_of_gives (h a) hnew] using hrest

theorem read?_of_gives {α : Type} {path : α → Path} {e : α → Expr} {member : α → String × Value}
    (h : ∀ a, Gives (path a) (e a) (member a)) {text : List Char} {l : List α}
    (hspells : Spells text (l.map fun a => .assign (path a) (e a)))
    (hnodup : ((l.map member).map Prod.fst).Nodup) : read? text = some (l.map member) := by
  rw [read?, hspells.list?, Option.bind_eq_bind, Option.bind_some, foldlM_of_gives h [] l hnodup]
  rfl

/-! ### Keys -/

theorem keys_set (key : String) (v : Value) (members : Members) : (set key v members).map Prod.fst =
    members.map Prod.fst ++ if key ∈ members.map Prod.fst then [] else [key] := by
  induction members with
  | nil => simp [set]
  | cons m rest ih =>
    obtain ⟨k, w⟩ := m
    rw [set]
    by_cases hk : k = key
    · simp [hk]
    · have hk' : key ≠ k := Ne.symm hk
      simp only [if_neg hk, List.map_cons, ih, List.cons_append, List.mem_cons, hk', false_or]

theorem get?_of_mem {m : String × Value} (h : m ∈ members)
    (hnodup : (members.map Prod.fst).Nodup) : get? members m.1 = some m.2 := by
  induction members with
  | nil => cases h
  | cons m' rest ih =>
    obtain ⟨hnew, hrest⟩ := List.nodup_cons.mp hnodup
    rw [get?, List.lookup_cons]
    rcases List.mem_cons.mp h with rfl | hmem
    · rw [BEq.rfl]
    · have hne : (m.1 == m'.1) = false :=
        beq_false_of_ne fun heq => hnew (heq ▸ List.mem_map_of_mem hmem)
      rw [hne]
      exact ih hmem hrest

theorem nodup_set {key : String} {v : Value} (h : (members.map Prod.fst).Nodup) :
    ((set key v members).map Prod.fst).Nodup := by
  rw [keys_set]
  split
  next => rwa [List.append_nil]
  next hnew =>
    refine List.nodup_append.mpr ⟨h, by simp, fun k hk k' hk' => ?_⟩
    rintro rfl
    exact hnew (List.mem_singleton.mp hk' ▸ hk)

/-- A change that keeps the keys of every table apart. -/
def KeepsApart (change : Origin → Members → Option Members) : Prop :=
  ∀ origin members members', change origin members = some members' →
    (members.map Prod.fst).Nodup → (members'.map Prod.fst).Nodup

theorem keepsApart_edit {dotted : Bool} {change : Origin → Members → Option Members}
    (h : KeepsApart change) (path : Path) : KeepsApart (edit dotted change path) := by
  intro origin members members' hedit hmembers
  cases path with
  | nil => exact h origin members members' hedit hmembers
  | cons k rest =>
    rw [edit] at hedit
    split at hedit
    next =>
      obtain ⟨inner, -, hset⟩ := Option.bind_eq_some_iff.mp hedit
      cases hset
      exact nodup_set hmembers
    next =>
      split at hedit
      next => cases hedit
      next =>
        obtain ⟨inner, -, hset⟩ := Option.bind_eq_some_iff.mp hedit
        cases hset
        exact nodup_set hmembers
    next =>
      obtain ⟨inner, -, hset⟩ := Option.bind_eq_some_iff.mp hedit
      cases hset
      exact nodup_set hmembers
    next => cases hedit

theorem keepsApart_add (viaPath : Bool) (key : String) (v : Value) :
    KeepsApart (add viaPath key v) := by
  intro origin members members' hadd hmembers
  unfold add at hadd
  repeat' split at hadd
  all_goals cases hadd
  exact nodup_set hmembers

theorem keepsApart_assign (path : Path) (v : Value) : KeepsApart (assign path v) := by
  intro origin members members' hassign hmembers
  unfold assign at hassign
  split at hassign
  next => cases hassign
  next => exact keepsApart_edit (keepsApart_add _ _ v) _ origin members members' hassign hmembers

theorem keepsApart_openTable (key : String) : KeepsApart (openTable key) := by
  intro origin members members' hopen hmembers
  unfold openTable at hopen
  repeat' split at hopen
  all_goals cases hopen
  all_goals exact nodup_set hmembers

theorem keepsApart_openArrayTable (key : String) : KeepsApart (openArrayTable key) := by
  intro origin members members' hopen hmembers
  unfold openArrayTable at hopen
  repeat' split at hopen
  all_goals cases hopen
  all_goals exact nodup_set hmembers

theorem nodup_step {b b' : Builder} {s : Statement} (h : b.step s = some b')
    (hb : (b.root.map Prod.fst).Nodup) : (b'.root.map Prod.fst).Nodup := by
  cases s with
  | assign path e =>
    obtain ⟨v, -, h⟩ := Option.bind_eq_some_iff.mp h
    obtain ⟨root, hroot, h⟩ := Option.bind_eq_some_iff.mp h
    cases h
    exact keepsApart_edit (keepsApart_assign path v) _ _ _ _ hroot hb
  | table path =>
    obtain ⟨key, -, h⟩ := Option.bind_eq_some_iff.mp h
    obtain ⟨root, hroot, h⟩ := Option.bind_eq_some_iff.mp h
    cases h
    exact keepsApart_edit (keepsApart_openTable key) _ _ _ _ hroot hb
  | arrayTable path =>
    obtain ⟨key, -, h⟩ := Option.bind_eq_some_iff.mp h
    obtain ⟨root, hroot, h⟩ := Option.bind_eq_some_iff.mp h
    cases h
    exact keepsApart_edit (keepsApart_openArrayTable key) _ _ _ _ hroot hb

theorem nodup_foldlM {b b' : Builder} {l : List Statement} (h : l.foldlM Builder.step b = some b')
    (hb : (b.root.map Prod.fst).Nodup) : (b'.root.map Prod.fst).Nodup := by
  induction l generalizing b with
  | nil =>
    cases h
    exact hb
  | cons s rest ih =>
    rw [List.foldlM_cons] at h
    obtain ⟨b'', hstep, hrest⟩ := Option.bind_eq_some_iff.mp h
    exact ih hrest (nodup_step hstep hb)

/-- No key comes twice in what is read. -/
theorem nodup_of_read? {cs : List Char} (h : read? cs = some members) :
    (members.map Prod.fst).Nodup := by
  obtain ⟨l, -, h⟩ := Option.bind_eq_some_iff.mp h
  obtain ⟨b, hb, h⟩ := Option.bind_eq_some_iff.mp h
  cases h
  exact nodup_foldlM hb List.nodup_nil

end Table

/-! ## Entries -/

/-- A text that gives one key a value, however it is spelled, and nothing else. -/
structure Entry where
  text : List Char
  path : Path
  expr : Expr
  member : String × Value
  spells : Spells text [.assign path expr]
  table : Table.read? text = some [member]

namespace Entry

/-- Entries on lines of their own. -/
def document (entries : List Entry) : List Char :=
  ['\n'].intercalate (entries.map text)

theorem spells_document (entries : List Entry) :
    Spells (document entries) (entries.map fun e => .assign e.path e.expr) := by
  have hparts : ∀ p ∈ entries.map fun e => (e.text, [Statement.assign e.path e.expr]),
      Spells p.1 p.2 := by
    intro p hp
    obtain ⟨e, -, rfl⟩ := List.mem_map.mp hp
    exact e.spells
  have hspells := Spells.intercalate hparts
  rw [List.map_map, List.flatMap_map] at hspells
  change Spells (document entries) (entries.flatMap fun e => [.assign e.path e.expr]) at hspells
  rwa [← List.map_eq_flatMap] at hspells

theorem gives (e : Entry) : Table.Gives e.path e.expr e.member := by
  have htable := e.table
  rw [Table.read?, e.spells.list?, Option.bind_eq_bind, Option.bind_some] at htable
  obtain ⟨b, hb, htable⟩ := Option.bind_eq_some_iff.mp htable
  obtain ⟨b', hstep, hb⟩ := Option.bind_eq_some_iff.mp hb
  obtain ⟨v, hv, hroot⟩ := Option.bind_eq_some_iff.mp hstep
  obtain ⟨root, hroot, hb'⟩ := Option.bind_eq_some_iff.mp hroot
  cases hb
  cases hb'
  cases htable
  exact hstep

/-- The entries make a table, if no key comes twice. -/
theorem read?_document {entries : List Entry}
    (h : ((entries.map member).map Prod.fst).Nodup) :
    Table.read? (document entries) = some (entries.map member) :=
  Table.read?_of_gives gives (spells_document entries) h

end Entry

end Scratchpad.Toml
