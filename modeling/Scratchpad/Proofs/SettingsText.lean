import Scratchpad.Proofs.Toml.Entries
import Scratchpad.Settings.Document

/-!
# Settings and their text

What is read from the members of a settings file are the defaults with the settings that are among
the members replaced, in whatever order they come and whatever else is there. The text of settings
is a document of five lines, one for each setting, so what is read from it are the settings that it
was written from, whatever texts and numbers they hold.
-/

namespace Scratchpad

/-- One setting, with a value for it. -/
inductive Setting
  | evalUrl (url : String)
  | examplesUrl (url : String)
  | redrawIntervalMs (n : UInt64)
  | requestTimeoutSecs (n : UInt64)
  | responsePolicy (p : Policy)
deriving DecidableEq, Repr

namespace Setting

open Toml (Scalar)

def key : Setting → String
  | .evalUrl _ => "eval_url"
  | .examplesUrl _ => "examples_url"
  | .redrawIntervalMs _ => "redraw_interval_ms"
  | .requestTimeoutSecs _ => "request_timeout_secs"
  | .responsePolicy _ => "response_policy"

def scalar : Setting → Scalar
  | .evalUrl url => .string url
  | .examplesUrl url => .string url
  | .redrawIntervalMs n => .integer n.toNat
  | .requestTimeoutSecs n => .integer n.toNat
  | .responsePolicy p => .string p.name

def member (e : Setting) : String × Toml.Value :=
  (e.key, .scalar e.scalar)

/-- The keys of settings. -/
def keys : List String :=
  ["eval_url", "examples_url", "redraw_interval_ms", "request_timeout_secs", "response_policy"]

theorem key_mem_keys (e : Setting) : e.key ∈ keys := by
  cases e <;> simp [key, keys]

/-- Replaces the setting. -/
def put (s : Settings) : Setting → Settings
  | .evalUrl url => { s with evalUrl := url }
  | .examplesUrl url => { s with examplesUrl := url }
  | .redrawIntervalMs n => { s with redrawIntervalMs := n }
  | .requestTimeoutSecs n => { s with requestTimeoutSecs := n }
  | .responsePolicy p => { s with responsePolicy := p }

/-! ## A line for each setting -/

def text : Setting → List Char
  | .evalUrl url => Toml.writeString url
  | .examplesUrl url => Toml.writeString url
  | .redrawIntervalMs n => Nat.toDigits 10 n.toNat
  | .requestTimeoutSecs n => Nat.toDigits 10 n.toNat
  | .responsePolicy p => Toml.writeString p.name

theorem written (e : Setting) : Toml.Written e.text e.scalar := by
  cases e with
  | evalUrl url => exact Toml.written_string url
  | examplesUrl url => exact Toml.written_string url
  | redrawIntervalMs n => exact Toml.written_number n.toNat_lt_size
  | requestTimeoutSecs n => exact Toml.written_number n.toNat_lt_size
  | responsePolicy p => exact Toml.written_string p.name

theorem isBareKey_key (e : Setting) :
    Toml.Statement.Parser.isBareKey e.key.toList = true := by
  have hkeys : ∀ key ∈ keys, Toml.Statement.Parser.isBareKey key.toList = true := by decide
  exact hkeys _ e.key_mem_keys

theorem reads_line (e : Setting) :
    Toml.Reads (Settings.line e.key e.text) [.assign [e.key] (.scalar e.scalar)] :=
  .line e.isBareKey_key e.written

theorem gives (e : Setting) : Toml.Table.Gives [e.key] (.scalar e.scalar) e.member :=
  rfl

theorem noMark_line (e : Setting) (text : List Char) :
    (Settings.line e.key text).head? ≠ some '\uFEFF' := by
  cases e <;> simp [key, Settings.line]

/-- The line of a setting as an entry of a document. -/
def entry (e : Setting) : Toml.Entry where
  text := Settings.line e.key e.text
  path := [e.key]
  expr := .scalar e.scalar
  member := e.member
  spells := .of_reads e.reads_line (e.noMark_line _)
  table := Toml.Table.read?_of_gives (l := [e]) gives
    (.of_reads e.reads_line (e.noMark_line _)) (by simp)

end Setting

namespace Settings

/-! ## Members -/

theorem number?_toNat (n : UInt64) : number? (.scalar (.integer n.toNat)) = some n := by
  have hn : 0 ≤ (n.toNat : Int) ∧ (n.toNat : Int) < UInt64.size :=
    ⟨Int.natCast_nonneg _, Int.ofNat_lt.mpr n.toNat_lt⟩
  rw [number?, if_pos hn, Int.toNat_natCast, UInt64.ofNat_toNat]

theorem policy?_name (p : Policy) : policy? (.scalar (.string p.name)) = some p :=
  Policy.ofName?_name p

/-- Settings with some of them replaced, one after the other. -/
def overlay (s : Settings) (l : List Setting) : Settings :=
  l.foldl Setting.put s

/-- The members that are settings are these. -/
def Among (l : List Setting) (members : Toml.Members) : Prop :=
  (members.filter fun m => m.1 ∈ Setting.keys).Perm (l.map Setting.member)

theorem among_map_member (l : List Setting) : Among l (l.map Setting.member) := by
  have hfilter : (l.map Setting.member).filter (fun m => m.1 ∈ Setting.keys) =
      l.map Setting.member := by
    refine List.filter_eq_self.mpr fun m hm => ?_
    obtain ⟨e, -, rfl⟩ := List.mem_map.mp hm
    exact decide_eq_true e.key_mem_keys
  rw [Among, hfilter]

namespace Among
variable {l : List Setting} {members : Toml.Members}

theorem mem (h : Among l members) {e : Setting} (he : e ∈ l) : e.member ∈ members :=
  List.mem_of_mem_filter (h.mem_iff.mpr (List.mem_map_of_mem he))

theorem nodup (h : Among l members) (hnodup : (members.map Prod.fst).Nodup) :
    (l.map Setting.key).Nodup := by
  have hfilter : ((members.filter fun m => m.1 ∈ Setting.keys).map Prod.fst).Nodup :=
    hnodup.sublist (List.filter_sublist.map Prod.fst)
  have hkeys := (h.map Prod.fst).nodup_iff.mp hfilter
  rwa [List.map_map] at hkeys

theorem exists_of_mem (h : Among l members) {key : String} (hkey : key ∈ Setting.keys)
    (hmem : key ∈ members.map Prod.fst) : ∃ e ∈ l, e.key = key := by
  obtain ⟨m, hm, rfl⟩ := List.mem_map.mp hmem
  have hfilter : m ∈ members.filter fun m => m.1 ∈ Setting.keys := by
    simpa using ⟨hm, hkey⟩
  obtain ⟨e, he, rfl⟩ := List.mem_map.mp (h.mem_iff.mp hfilter)
  exact ⟨e, he, rfl⟩

end Among

/-- A part of the settings is what is read of one key. -/
structure IsGivenBy {α : Type} (part : Settings → α) (key : String)
    (read : Toml.Value → Option α) : Prop where
  key_mem : key ∈ Setting.keys
  own : ∀ e : Setting, e.key = key → ∀ s, read (.scalar e.scalar) = some (part (e.put s))
  other : ∀ e : Setting, e.key ≠ key → ∀ s, part (e.put s) = part s

namespace IsGivenBy
variable {α : Type} {part : Settings → α} {key : String} {read : Toml.Value → Option α}
  {l : List Setting} {members : Toml.Members}

theorem overlay_of_other (hpart : IsGivenBy part key read) (hl : ∀ e ∈ l, e.key ≠ key)
    (s : Settings) : part (s.overlay l) = part s := by
  induction l generalizing s with
  | nil => rfl
  | cons e rest ih =>
    obtain ⟨he, hrest⟩ := List.forall_mem_cons.mp hl
    exact (ih hrest (e.put s)).trans (hpart.other e he s)

/-- The part is read from the members, and is left as it was where the key is missing. -/
theorem field_eq (hpart : IsGivenBy part key read) (h : Among l members)
    (hnodup : (members.map Prod.fst).Nodup) (s : Settings) :
    field members key read (part s) = some (part (s.overlay l)) := by
  by_cases hmem : key ∈ members.map Prod.fst
  · obtain ⟨e, he, rfl⟩ := h.exists_of_mem hpart.key_mem hmem
    obtain ⟨before, later, rfl⟩ := List.append_of_mem he
    have hlater : ∀ e' ∈ later, e'.key ≠ e.key := by
      have hkeys := h.nodup hnodup
      rw [List.map_append, List.map_cons, List.nodup_append] at hkeys
      intro e' he' heq
      exact (List.nodup_cons.mp hkeys.2.1).1 (heq ▸ List.mem_map_of_mem he')
    have hget : Toml.Table.get? members e.key = some (.scalar e.scalar) :=
      Toml.Table.get?_of_mem (h.mem he) hnodup
    have hlast : s.overlay (before ++ e :: later) = (e.put (s.overlay before)).overlay later := by
      rw [overlay, List.foldl_append, List.foldl_cons]
      rfl
    rw [field, hget, hlast, hpart.overlay_of_other hlater]
    exact hpart.own e rfl _
  · have hl : ∀ e ∈ l, e.key ≠ key := by
      rintro e he rfl
      exact hmem (List.mem_map_of_mem (h.mem he))
    rw [field, Toml.Table.get?_of_new hmem, hpart.overlay_of_other hl]

end IsGivenBy

theorem isGivenBy_evalUrl : IsGivenBy evalUrl "eval_url" string? where
  key_mem := by decide
  own e he s := by
    cases e with
    | evalUrl url => exact rfl
    | _ => exact absurd he (by simp [Setting.key])
  other e he s := by
    cases e with
    | evalUrl url => exact absurd rfl he
    | _ => rfl

theorem isGivenBy_examplesUrl : IsGivenBy examplesUrl "examples_url" string? where
  key_mem := by decide
  own e he s := by
    cases e with
    | examplesUrl url => exact rfl
    | _ => exact absurd he (by simp [Setting.key])
  other e he s := by
    cases e with
    | examplesUrl url => exact absurd rfl he
    | _ => rfl

theorem isGivenBy_redrawIntervalMs : IsGivenBy redrawIntervalMs "redraw_interval_ms" number? where
  key_mem := by decide
  own e he s := by
    cases e with
    | redrawIntervalMs n => exact number?_toNat n
    | _ => exact absurd he (by simp [Setting.key])
  other e he s := by
    cases e with
    | redrawIntervalMs n => exact absurd rfl he
    | _ => rfl

theorem isGivenBy_requestTimeoutSecs :
    IsGivenBy requestTimeoutSecs "request_timeout_secs" number? where
  key_mem := by decide
  own e he s := by
    cases e with
    | requestTimeoutSecs n => exact number?_toNat n
    | _ => exact absurd he (by simp [Setting.key])
  other e he s := by
    cases e with
    | requestTimeoutSecs n => exact absurd rfl he
    | _ => rfl

theorem isGivenBy_responsePolicy : IsGivenBy responsePolicy "response_policy" policy? where
  key_mem := by decide
  own e he s := by
    cases e with
    | responsePolicy p => exact policy?_name p
    | _ => exact absurd he (by simp [Setting.key])
  other e he s := by
    cases e with
    | responsePolicy p => exact absurd rfl he
    | _ => rfl

/-- What is read from members are the defaults with the settings among them replaced. -/
theorem ofMembers?_of_among {l : List Setting} {members : Toml.Members} (h : Among l members)
    (hnodup : (members.map Prod.fst).Nodup) : ofMembers? members = some (default.overlay l) := by
  rw [ofMembers?, isGivenBy_evalUrl.field_eq h hnodup, isGivenBy_examplesUrl.field_eq h hnodup,
    isGivenBy_redrawIntervalMs.field_eq h hnodup, isGivenBy_requestTimeoutSecs.field_eq h hnodup,
    isGivenBy_responsePolicy.field_eq h hnodup]
  rfl

/-! ## Texts -/

/-- All settings. -/
def assigned (s : Settings) : List Setting :=
  [.evalUrl s.evalUrl, .examplesUrl s.examplesUrl, .redrawIntervalMs s.redrawIntervalMs,
    .requestTimeoutSecs s.requestTimeoutSecs, .responsePolicy s.responsePolicy]

theorem toChars_eq (s : Settings) :
    s.toChars = (s.assigned.flatMap fun e => line e.key e.text) ++ ['\n'] := by
  simp only [toChars, assigned, List.flatMap_cons, List.flatMap_nil, List.append_nil,
    List.append_assoc]
  rfl

theorem spells_toChars (s : Settings) : Toml.Spells s.toChars
    (s.assigned.map fun e => .assign [e.key] (.scalar e.scalar)) := by
  have hreads := (Toml.Reads.flatMap Setting.reads_line s.assigned).append .newline
  rw [List.append_nil, ← toChars_eq] at hreads
  have hfirst : s.toChars.head? = some 'e' := rfl
  exact .of_reads hreads (by simp [hfirst])

/-- Settings are read back from their text. -/
theorem ofText?_toText (s : Settings) : ofText? s.toText = some s := by
  have hkeys : ((s.assigned.map Setting.member).map Prod.fst).Nodup := by
    change Setting.keys.Nodup
    decide
  rw [ofText?, toText, String.toList_ofList, Toml.Table.read?_of_gives Setting.gives
    s.spells_toChars hkeys, Option.bind_eq_bind, Option.bind_some,
    ofMembers?_of_among (among_map_member s.assigned) hkeys]
  rfl

end Settings
end Scratchpad
