import Mathlib.Data.List.DropRight
import Scratchpad.Proofs.SettingsStore

/-!
# Loaded settings

Loading lays the settings that a file holds over the defaults, in whatever order and spelling they
come and whatever else the file holds, and what is loaded is usable. A server replaces both
endpoints of what was loaded; but the endpoints of the file are looked at before that, so a file
whose endpoints are blank is refused even where a server replaces them.
-/

namespace Scratchpad.Settings

open Files (Path System)
open Files.System (ok_of_bind)

variable {fs fs' : System} {path : Path} {text text' : String} {s s' : Settings}
  {bytes : Bytes} {l : List Setting}

/-! ## Usable settings -/

/-- Settings if they are usable, and otherwise what is wrong with them. -/
def checked (s : Settings) : Except LoadError Settings :=
  match s.fault? with
  | none => .ok s
  | some f => .error (.invalid f)

theorem map_validate (s : Settings) :
    ((s.validate.mapError .invalid).map fun _ => s) = s.checked := by
  rw [validate, checked]
  cases s.fault? <;> rfl

theorem checked_eq_ok_iff : s.checked = .ok s' ↔ s = s' ∧ s.fault? = none := by
  unfold checked
  cases s.fault? <;> simp

theorem checked_of_fault? (h : s.fault? = none) : s.checked = .ok s :=
  checked_eq_ok_iff.mpr ⟨rfl, h⟩

theorem fault?_of_checked (h : s.checked = .ok s') : s'.fault? = none := by
  obtain ⟨rfl, hfault⟩ := checked_eq_ok_iff.mp h
  exact hfault

/-- Neither endpoint is blank. -/
def Pointed (s : Settings) : Prop :=
  Text.isBlankText s.evalUrl = false ∧ Text.isBlankText s.examplesUrl = false

instance (s : Settings) : Decidable s.Pointed :=
  inferInstanceAs (Decidable (_ ∧ _))

theorem fault?_eq_none_iff :
    s.fault? = none ↔ s.Pointed ∧ s.redrawIntervalMs ≠ 0 ∧ s.requestTimeoutSecs ≠ 0 := by
  unfold fault? Pointed
  repeat' split
  all_goals simp_all

theorem toNat_pos {n : UInt64} (h : n ≠ 0) : 0 < n.toNat :=
  Nat.pos_of_ne_zero fun hzero => h (UInt64.toNat_inj.mp hzero)

theorem times_pos (h : s.fault? = none) : 0 < s.redrawMillis ∧ 0 < s.requestTimeoutMillis := by
  obtain ⟨-, hredraw, htimeout⟩ := fault?_eq_none_iff.mp h
  exact ⟨toNat_pos hredraw, Nat.mul_pos (toNat_pos htimeout) (by decide)⟩

/-! ## Loading -/

theorem pathExists_of_readText (h : fs.readText path = .ok text) : fs.pathExists path = true := by
  obtain ⟨bytes, hread, -⟩ := ok_of_bind h
  exact pathExists_of_read hread

theorem load_of_readText (h : fs.readText path = .ok text) (hs : ofText? text = some s) :
    load fs path = s.checked := by
  rw [load, if_pos (pathExists_of_readText h), h]
  simp only [hs, map_validate]

theorem fault?_of_load (h : load fs path = .ok s) : s.fault? = none := by
  have hchecked : ∃ s' : Settings, s'.checked = .ok s := by
    unfold load at h
    repeat' split at h
    all_goals first | cases h; done | exact ⟨_, (map_validate _).symm.trans h⟩
  obtain ⟨s', hs'⟩ := hchecked
  exact fault?_of_checked hs'

/-- What a text holds of settings are these, whatever else it holds. -/
def Holds (text : String) (l : List Setting) : Prop :=
  ∃ members, Toml.Table.read? text.toList = some members ∧ Among l members

theorem ofText?_of_holds (h : Holds text l) : ofText? text = some (default.overlay l) := by
  obtain ⟨members, hread, hamong⟩ := h
  rw [ofText?, hread, Option.bind_eq_bind, Option.bind_some,
    ofMembers?_of_among hamong (Toml.Table.nodup_of_read? hread)]

/-- Entries on lines of their own, of different keys, hold the settings that are among them. -/
theorem holds_document {entries : List Toml.Entry}
    (hnodup : ((entries.map Toml.Entry.member).map Prod.fst).Nodup)
    (h : Among l (entries.map Toml.Entry.member)) :
    Holds (String.ofList (Toml.Entry.document entries)) l := by
  refine ⟨_, ?_, h⟩
  rw [String.toList_ofList, Toml.Entry.read?_document hnodup]

/-- The settings of a file, or those of a server in their place. -/
theorem resolve_of_load {server : Option String} (h : load fs path = .ok s) :
    resolve fs path server = checked (server.elim s s.setServer) := by
  rw [resolve, h]
  cases server <;> simp only [bind, Except.bind, map_validate, Option.elim]

theorem resolve_of_error {e : LoadError} {server : Option String} (h : load fs path = .error e) :
    resolve fs path server = .error e := by
  rw [resolve, h]
  rfl

theorem fault?_of_resolve {server : Option String} (h : resolve fs path server = .ok s) :
    s.fault? = none := by
  cases hload : load fs path with
  | error e => cases (resolve_of_error hload).symm.trans h
  | ok loaded => exact fault?_of_checked ((resolve_of_load hload).symm.trans h)

/-- A file loads as the defaults with the settings that it holds replaced, if these are usable; and
entries hold their settings however they are spelled and ordered. What was loaded is usable, with a
server or without, so neither time is zero. -/
theorem load_overlay (fs : System) (path : Path) :
    (∀ text l, fs.readText path = .ok text → Holds text l →
      load fs path = (default.overlay l).checked) ∧
    (∀ (entries : List Toml.Entry) (l : List Setting),
      ((entries.map Toml.Entry.member).map Prod.fst).Nodup →
      Among l (entries.map Toml.Entry.member) →
      Holds (String.ofList (Toml.Entry.document entries)) l) ∧
    (∀ e : Setting, ∃ entry : Toml.Entry, entry.member = e.member) ∧
    ∀ server s, load fs path = .ok s ∨ resolve fs path server = .ok s →
      s.validate = .ok () ∧ 0 < s.redrawMillis ∧ 0 < s.requestTimeoutMillis := by
  refine ⟨fun text l htext hholds => ?_, fun entries l hnodup hamong => ?_,
    fun e => ⟨e.entry, rfl⟩, fun server s hs => ?_⟩
  · exact load_of_readText htext (ofText?_of_holds hholds)
  · exact holds_document hnodup hamong
  · have hfault : s.fault? = none := hs.elim fault?_of_load fault?_of_resolve
    exact ⟨validate_eq_ok_iff.mpr hfault, times_pos hfault⟩

theorem read_file (b : Bytes) :
    (directory [file "p" b]).read (Path.ofString "p") = .ok b := by
  cbv

theorem readText_file (text : String) :
    (directory [file "p" (Bytes.ofString text)]).readText (Path.ofString "p") = .ok text := by
  rw [readText_of_read (read_file _), Bytes.text?_ofString]

/-- An entry that is no setting. -/
def theme : Toml.Entry where
  text := "theme = [\"dark\"]  # not a setting".toList
  path := ["theme"]
  expr := .array [.scalar (.string "dark")]
  member := ("theme", .array [.scalar (.string "dark")])
  spells := ⟨by decide, rfl⟩
  table := rfl

/-- An interval that is spelled in its own way. -/
def interval : Toml.Entry where
  text := "'redraw_interval_ms'=0x1_F5".toList
  path := ["redraw_interval_ms"]
  expr := .scalar (.integer 501)
  member := (Setting.redrawIntervalMs 501).member
  spells := ⟨by decide, rfl⟩
  table := rfl

/-- Settings are loaded from among other entries, in another order and spelling; if one of them is
zero they are not. -/
theorem load_overlay_of_theme :
    (∃ s, load (directory [file "p" (Bytes.ofString (String.ofList (Toml.Entry.document
        [theme, (Setting.responsePolicy .lastArrival).entry, interval])))]) (Path.ofString "p") =
          .ok s ∧
      s = { default with redrawIntervalMs := 501, responsePolicy := .lastArrival } ∧
      s.validate = .ok () ∧ 0 < s.redrawMillis ∧ 0 < s.requestTimeoutMillis) ∧
    load (directory [file "p" (Bytes.ofString (String.ofList (Toml.Entry.document
      [theme, (Setting.requestTimeoutSecs 0).entry])))]) (Path.ofString "p") =
        .error (.invalid .zeroRequestTimeout) := by
  constructor
  · have hamong : Among [.redrawIntervalMs 501, .responsePolicy .lastArrival]
        ([theme, (Setting.responsePolicy .lastArrival).entry, interval].map Toml.Entry.member) :=
      .swap _ _ _
    obtain ⟨hoverlay, hholds, -, husable⟩ := load_overlay (directory [file "p" (Bytes.ofString
      (String.ofList (Toml.Entry.document
        [theme, (Setting.responsePolicy .lastArrival).entry, interval])))]) (Path.ofString "p")
    have hload := (hoverlay _ _ (readText_file _) (hholds _ _ (by decide) hamong)).trans
      (checked_of_fault? (by decide))
    exact ⟨_, hload, rfl, husable none _ (.inl hload)⟩
  · have hamong : Among [.requestTimeoutSecs 0]
        ([theme, (Setting.requestTimeoutSecs 0).entry].map Toml.Entry.member) :=
      .refl _
    obtain ⟨hoverlay, hholds, -, -⟩ := load_overlay (directory [file "p" (Bytes.ofString
      (String.ofList (Toml.Entry.document [theme, (Setting.requestTimeoutSecs 0).entry])))])
      (Path.ofString "p")
    have hload := hoverlay _ _ (readText_file _) (hholds _ _ (by decide) hamong)
    exact hload.trans (by decide)

/-! ## Servers -/

/-- Some slashes. -/
def slashes (n : Nat) : String :=
  String.ofList (List.replicate n '/')

/-- A server is its base and the slashes at its end. -/
structure IsBase (base server : String) : Prop where
  eq_append : ∃ n, server = base ++ slashes n
  not_slash : base.toList.getLast? ≠ some '/'

theorem isBase_serverBase (server : String) : IsBase (serverBase server) server where
  eq_append := by
    have hslashes : server.toList.rtakeWhile (· = '/') =
        List.replicate (server.toList.rtakeWhile (· = '/')).length '/' := by
      refine List.eq_replicate_of_mem fun c hc => ?_
      simpa using List.mem_rtakeWhile_imp hc
    refine ⟨(server.toList.rtakeWhile (· = '/')).length, String.toList_inj.mp ?_⟩
    rw [slashes, ← hslashes, String.toList_append, String.toList_ofList, serverBase,
      String.toList_ofList]
    exact List.rdropWhile_append_rtakeWhile.symm
  not_slash := by
    intro hlast
    rw [serverBase, String.toList_ofList] at hlast
    obtain ⟨hne, hlast⟩ := List.mem_getLast?_eq_getLast hlast
    exact List.rdropWhile_last_not _ _ hne (decide_eq_true hlast.symm)

theorem serverBase_append_slashes (server : String) (n : Nat) :
    serverBase (server ++ slashes n) = serverBase server := by
  have hdrop : ∀ c ∈ List.replicate n '/', decide (c = '/') = true := fun c hc =>
    decide_eq_true (List.eq_of_mem_replicate hc)
  rw [serverBase, serverBase, String.toList_append, slashes, String.toList_ofList,
    List.reverse_append, List.reverse_replicate, List.dropWhile_append_of_pos hdrop]

theorem setServer_append_slashes (s : Settings) (server : String) (n : Nat) :
    s.setServer (server ++ slashes n) = s.setServer server := by
  rw [setServer, setServer, serverBase_append_slashes]

theorem not_isBlankText_append {base tail : String} (h : Text.isBlankText tail = false) :
    Text.isBlankText (base ++ tail) = false := by
  rw [Text.isBlankText, String.toList_append, List.all_append, Bool.and_eq_false_iff]
  exact .inr h

/-- A server's endpoints are not blank. -/
theorem pointed_setServer (s : Settings) (server : String) : (s.setServer server).Pointed :=
  ⟨not_isBlankText_append (by decide), not_isBlankText_append (by decide)⟩

/-- Once settings were loaded they are not refused for the endpoints of a server. -/
theorem resolve_eq (fs : System) (path : Path) (server : Option String) :
    resolve fs path server = (load fs path).map fun s => server.elim s s.setServer := by
  cases hload : load fs path with
  | error e => exact resolve_of_error hload
  | ok s =>
    have hfault := fault?_of_load hload
    rw [resolve_of_load hload]
    cases server with
    | none => exact checked_of_fault? hfault
    | some server =>
      obtain ⟨-, htimes⟩ := fault?_eq_none_iff.mp hfault
      exact checked_of_fault? (fault?_eq_none_iff.mpr ⟨pointed_setServer s server, htimes⟩)

theorem checked_map_eq_iff {f : Settings → Settings} (h : f s = f s') :
    s.checked.map f = s'.checked.map f ↔ s.fault? = s'.fault? := by
  unfold checked
  cases s.fault? <;> cases s'.fault? <;> simp [Except.map, h]

theorem fault?_eq_of_pointed (h : s.Pointed) (h' : s'.Pointed)
    (hredraw : s.redrawIntervalMs = s'.redrawIntervalMs)
    (htimeout : s.requestTimeoutSecs = s'.requestTimeoutSecs) : s.fault? = s'.fault? := by
  simp only [fault?, h.1, h.2, h'.1, h'.2, hredraw, htimeout]

/-- With a server two files that differ in their endpoints give the same if nothing else is wrong
with one than with the other, so in any case if no endpoint is blank. If the settings are usable
then the endpoints are the server's, and more slashes at its end are no difference. -/
theorem resolve_override (fs : System) (path : Path) (server : String) :
    (∀ fs' text text' s url url', fs.readText path = .ok text →
      fs'.readText path = .ok text' → ofText? text = some s →
      ofText? text' = some { s with evalUrl := url, examplesUrl := url' } →
      (resolve fs path (some server) = resolve fs' path (some server) ↔
        s.fault? = { s with evalUrl := url, examplesUrl := url' }.fault?) ∧
      (s.Pointed → { s with evalUrl := url, examplesUrl := url' }.Pointed →
        resolve fs path (some server) = resolve fs' path (some server))) ∧
    (∀ s, resolve fs path (some server) = .ok s →
      ∃ base, IsBase base server ∧ s.evalUrl = base ++ "/eval" ∧
        s.examplesUrl = base ++ "/examples") ∧
    ∀ n, resolve fs path (some (server ++ slashes n)) = resolve fs path (some server) := by
  refine ⟨fun fs' text text' s url url' htext htext' hs hs' => ?_, fun s hs => ?_, fun n => ?_⟩
  · have hiff : s.checked.map (setServer · server) =
        { s with evalUrl := url, examplesUrl := url' }.checked.map (setServer · server) ↔
          s.fault? = { s with evalUrl := url, examplesUrl := url' }.fault? :=
      checked_map_eq_iff rfl
    rw [resolve_eq, resolve_eq, load_of_readText htext hs, load_of_readText htext' hs']
    exact ⟨hiff, fun h h' => hiff.mpr (fault?_eq_of_pointed h h' rfl rfl)⟩
  · rw [resolve_eq] at hs
    cases hload : load fs path with
    | error e => rw [hload] at hs; cases hs
    | ok loaded =>
      rw [hload] at hs
      cases hs
      exact ⟨serverBase server, isBase_serverBase server, rfl, rfl⟩
  · rw [resolve_eq, resolve_eq]
    simp only [Option.elim_some, setServer_append_slashes]

theorem ofText?_blank : ofText? "eval_url = \"\"\n" = some { default with evalUrl := "" } := by
  decide

theorem ofText?_pointed :
    ofText? "eval_url = \"http://a\"\n" = some { default with evalUrl := "http://a" } := by
  decide

/-- A server replaces the endpoints of both files, whatever slashes are at its end. -/
theorem resolve_override_of_pointed :
    resolve (directory [file "p" (Bytes.ofString "eval_url = \"http://a\"\n")]) (Path.ofString "p")
        (some ("http://b" ++ slashes 2)) =
      resolve (directory [file "p" (Bytes.ofString "")]) (Path.ofString "p") (some "http://b") := by
  obtain ⟨halike, -, hslashes⟩ := resolve_override
    (directory [file "p" (Bytes.ofString "eval_url = \"http://a\"\n")]) (Path.ofString "p")
    "http://b"
  have hresolve := (halike _ _ _ _ default.evalUrl default.examplesUrl (readText_file _)
    (readText_file "") ofText?_pointed ofText?_empty).2 (by decide) (by decide)
  exact (hslashes 2).trans hresolve

/-- A file whose endpoint is blank is refused although a server replaces it. -/
theorem not_resolve_override :
    ofText? "eval_url = \"\"\n" = some { default with evalUrl := "" } ∧
      ofText? "eval_url = \"http://a\"\n" = some { default with evalUrl := "http://a" } ∧
      resolve (directory [file "p" (Bytes.ofString "eval_url = \"\"\n")]) (Path.ofString "p")
        (some "http://b") = .error (.invalid .blankEvalUrl) ∧
      resolve (directory [file "p" (Bytes.ofString "eval_url = \"http://a\"\n")])
        (Path.ofString "p") (some "http://b") = .ok (default.setServer "http://b") := by
  refine ⟨ofText?_blank, ofText?_pointed, ?_, ?_⟩
  · rw [resolve_eq, load_of_readText (readText_file _) ofText?_blank]
    decide
  · rw [resolve_eq, load_of_readText (readText_file _) ofText?_pointed]
    decide

end Scratchpad.Settings
