import Scratchpad.Proofs.Pad

/-!
# What the result pane holds

A value is *heeded* if, where its completion is processed, the policy lets it be shown: under
`latestIssued` its ticket must be the last one that was taken before, under `lastArrival` nothing is
asked. The pane holds the value of the last completion that was heeded. Under `latestIssued` the
tickets of heeded completions never decrease, and a completion is not heeded any more once a later
ticket was taken, whatever becomes of that one.
-/

namespace Scratchpad.Pad
variable {policy : Policy} {ms : List Message}

/-- The result pane after some messages to the empty pad. -/
def resultAfter (policy : Policy) (ms : List Message) : Option Json :=
  ((empty policy).run ms).1.editor.result

/-- Completions carry only tickets that were taken before them. -/
def Issued (policy : Policy) (ms : List Message) : Prop :=
  ∀ before t outcome, before ++ [.evalFinished t outcome] <+: ms → t ∈ tickets policy before

def Heeded (policy : Policy) (before : List Message) (t : Ticket) : Prop :=
  policy = .latestIssued → (tickets policy before).getLast? = some t

/-- The completion of `t` with the value `v`, which comes in `ms` after the messages `before`, is
heeded, and no later one is. -/
structure LastHeeded (policy : Policy) (ms before : List Message) (t : Ticket) (v : Json) :
    Prop where
  occurs : before ++ [.evalFinished t (.ok v)] <+: ms
  heeded : Heeded policy before t
  last : ∀ later t' v', before.length < later.length →
    later ++ [.evalFinished t' (.ok v')] <+: ms → ¬ Heeded policy later t'

theorem Issued.mono {ms' : List Message} (h : Issued policy ms) (hp : ms' <+: ms) :
    Issued policy ms' :=
  fun before t outcome hb => h before t outcome (hb.trans hp)

theorem issued_nil : Issued policy [] := by
  intro before t outcome hb
  simp at hb

/-! ## One more message -/

theorem occurs_snoc_iff {before : List Message} {m m' : Message} :
    before ++ [m'] <+: ms ++ [m] ↔ (before = ms ∧ m' = m) ∨ before ++ [m'] <+: ms := by
  rw [List.prefix_concat_iff, List.append_singleton_inj]

theorem Issued.snoc {m : Message} (h : Issued policy ms)
    (hm : ∀ t outcome, m = .evalFinished t outcome → t ∈ tickets policy ms) :
    Issued policy (ms ++ [m]) := by
  intro before t outcome hb
  rcases occurs_snoc_iff.mp hb with ⟨rfl, hv⟩ | hb
  · exact hm t outcome hv.symm
  · exact h before t outcome hb

theorem not_superseded_of_heeded {t : Ticket} (h : Heeded policy ms t) :
    ((empty policy).run ms).1.editor.supersededBy? t = none := by
  rw [Editor.supersededBy?_eq_none_iff, run_policy]
  intro hpol hpos
  have hlast := h hpol
  rw [getLast?_tickets, Editor.latest?_eq_some_iff] at hlast
  exact hlast.2

theorem superseded_of_not_heeded {t : Ticket} (ht : t ∈ tickets policy ms)
    (h : ¬ Heeded policy ms t) :
    ∃ latest, ((empty policy).run ms).1.editor.supersededBy? t = some latest := by
  rw [← Option.isSome_iff_exists, Option.isSome_iff_ne_none]
  intro hnone
  rw [Editor.supersededBy?_eq_none_iff, run_policy] at hnone
  apply h
  intro hpol
  rw [getLast?_tickets, Editor.latest?_eq_some_iff]
  rw [mem_tickets_iff] at ht
  have hpos : 0 < ((empty policy).run ms).1.editor.issued := by omega
  exact ⟨hpos, hnone hpol hpos⟩

theorem resultAfter_snoc_of_heeded {t : Ticket} (v : Json) (h : Heeded policy ms t) :
    resultAfter policy (ms ++ [.evalFinished t (.ok v)]) = some v := by
  rw [resultAfter, run_snoc, update_editor]
  dsimp only
  rw [Editor.finish_ok_of_current _ _ _ (not_superseded_of_heeded h)]

theorem resultAfter_snoc_of_not_heeded {m : Message}
    (h : ∀ t v, m = .evalFinished t (.ok v) → t ∈ tickets policy ms ∧ ¬ Heeded policy ms t) :
    resultAfter policy (ms ++ [m]) = resultAfter policy ms := by
  rw [resultAfter, run_snoc]
  cases hm : m.completion? with
  | none => exact update_result_of_not_completion _ _ hm
  | some c =>
    cases m with
    | evalFinished t outcome =>
      rw [update_editor]
      cases outcome with
      | error f => rfl
      | ok v =>
        obtain ⟨ht, hn⟩ := h t v rfl
        obtain ⟨latest, hl⟩ := superseded_of_not_heeded ht hn
        dsimp only
        rw [Editor.finish_ok_of_superseded _ _ _ _ hl, resultAfter]
    | _ => cases hm

/-! ## The last heeded completion -/

theorem LastHeeded.snoc {t : Ticket} (v : Json) (h : Heeded policy ms t) :
    LastHeeded policy (ms ++ [.evalFinished t (.ok v)]) ms t v where
  occurs := List.prefix_refl _
  heeded := h
  last later t' v' hlen hp := by
    have hle := hp.length_le
    simp only [List.length_append, List.length_singleton] at hle
    omega

theorem LastHeeded.unique {b b' : List Message} {t t' : Ticket} {v v' : Json}
    (h : LastHeeded policy ms b t v) (h' : LastHeeded policy ms b' t' v') :
    b = b' ∧ t = t' ∧ v = v' := by
  have hlen : b.length = b'.length := by
    rcases Nat.lt_trichotomy b.length b'.length with hlt | heq | hgt
    · exact absurd h'.heeded (h.last b' t' v' hlt h'.occurs)
    · exact heq
    · exact absurd h.heeded (h'.last b t v hgt h.occurs)
  have heq : b ++ [Message.evalFinished t (.ok v)] = b' ++ [.evalFinished t' (.ok v')] := by
    have hle : (b ++ [Message.evalFinished t (.ok v)]).length ≤
        (b' ++ [Message.evalFinished t' (.ok v')]).length := by simp [hlen]
    exact (List.prefix_of_prefix_length_le h.occurs h'.occurs hle).eq_of_length (by simp [hlen])
  simpa using heq

/-- A message whose value is not heeded leaves the last heeded completion where it was. -/
theorem lastHeeded_snoc_iff {m : Message} {b : List Message} {t : Ticket} {v : Json}
    (h : ∀ t v, m = .evalFinished t (.ok v) → ¬ Heeded policy ms t) :
    LastHeeded policy (ms ++ [m]) b t v ↔ LastHeeded policy ms b t v := by
  constructor
  · rintro ⟨hocc, hheed, hlast⟩
    refine ⟨?_, hheed, fun later t' v' hlen hp => hlast later t' v' hlen ?_⟩
    · rcases occurs_snoc_iff.mp hocc with ⟨rfl, hm⟩ | hp
      · exact absurd hheed (h t v hm.symm)
      · exact hp
    · exact hp.trans (List.prefix_append _ _)
  · rintro ⟨hocc, hheed, hlast⟩
    refine ⟨hocc.trans (List.prefix_append _ _), hheed, fun later t' v' hlen hp => ?_⟩
    rcases occurs_snoc_iff.mp hp with ⟨rfl, hm⟩ | hp
    · exact h t' v' hm.symm
    · exact hlast later t' v' hlen hp

theorem resultAfter_eq_some_iff (h : Issued policy ms) (v : Json) :
    resultAfter policy ms = some v ↔ ∃ before t, LastHeeded policy ms before t v := by
  induction ms using List.reverseRecOn generalizing v with
  | nil =>
    constructor
    · intro hr
      cases hr
    · rintro ⟨before, t, hl⟩
      have hle := hl.occurs.length_le
      simp at hle
  | append_singleton ms m ih =>
    have ih := ih (h.mono (List.prefix_append _ _))
    by_cases hm : ∃ t v, m = .evalFinished t (.ok v) ∧ Heeded policy ms t
    · obtain ⟨t, w, rfl, hw⟩ := hm
      rw [resultAfter_snoc_of_heeded w hw]
      constructor
      · intro hv
        obtain rfl := Option.some.inj hv
        exact ⟨ms, t, .snoc w hw⟩
      · rintro ⟨before, t', hl⟩
        rw [(LastHeeded.snoc w hw).unique hl |>.2.2]
    · have hn : ∀ t v, m = .evalFinished t (.ok v) → ¬ Heeded policy ms t :=
        fun t v hv hh => hm ⟨t, v, hv, hh⟩
      have hi : ∀ t v, m = .evalFinished t (.ok v) →
          t ∈ tickets policy ms ∧ ¬ Heeded policy ms t :=
        fun t v hv => ⟨h ms t (.ok v) (hv ▸ List.prefix_refl _), hn t v hv⟩
      rw [resultAfter_snoc_of_not_heeded hi, ih]
      simp only [lastHeeded_snoc_iff hn]

theorem exists_lastHeeded {before : List Message} {t : Ticket} {v : Json}
    (hp : before ++ [.evalFinished t (.ok v)] <+: ms) (hh : Heeded policy before t) :
    ∃ before t v, LastHeeded policy ms before t v := by
  induction ms using List.reverseRecOn with
  | nil => simp at hp
  | append_singleton ms m ih =>
    by_cases hm : ∃ t v, m = .evalFinished t (.ok v) ∧ Heeded policy ms t
    · obtain ⟨t, w, rfl, hw⟩ := hm
      exact ⟨ms, t, w, .snoc w hw⟩
    · have hn : ∀ t v, m = .evalFinished t (.ok v) → ¬ Heeded policy ms t :=
        fun t v hv hh => hm ⟨t, v, hv, hh⟩
      rcases occurs_snoc_iff.mp hp with ⟨rfl, hv⟩ | hp
      · exact absurd hh (hn t v hv.symm)
      · obtain ⟨b, t', v', hl⟩ := ih hp
        exact ⟨b, t', v', (lastHeeded_snoc_iff hn).mpr hl⟩

theorem resultAfter_eq_none_iff (h : Issued policy ms) :
    resultAfter policy ms = none ↔ ∀ before t v,
      before ++ [.evalFinished t (.ok v)] <+: ms → ¬ Heeded policy before t := by
  constructor
  · intro hr before t v hp hh
    obtain ⟨b, t', v', hl⟩ := exists_lastHeeded hp hh
    have hv := (resultAfter_eq_some_iff h v').mpr ⟨b, t', hl⟩
    rw [hr] at hv
    cases hv
  · intro hn
    cases hr : resultAfter policy ms with
    | none => rfl
    | some v =>
      obtain ⟨b, t, hl⟩ := (resultAfter_eq_some_iff h v).mp hr
      exact absurd hl.heeded (hn b t v hl.occurs)

/-! ## Order of tickets -/

theorem index_eq_of_heeded {before : List Message} {t : Ticket}
    (h : Heeded .latestIssued before t) :
    t.index = ((empty .latestIssued).run before).1.editor.issued := by
  have hlast := h rfl
  rw [getLast?_tickets, Editor.latest?_eq_some_iff] at hlast
  rw [hlast.2]

theorem issued_mono {before later : List Message} (h : before <+: later) :
    ((empty policy).run before).1.editor.issued ≤ ((empty policy).run later).1.editor.issued := by
  obtain ⟨rest, rfl⟩ := h
  rw [run_append]
  exact issued_le_run _ rest

theorem mem_tickets_mono {before later : List Message} {t : Ticket} (h : before <+: later)
    (ht : t ∈ tickets policy before) : t ∈ tickets policy later := by
  rw [mem_tickets_iff] at ht ⊢
  exact ⟨ht.1, Nat.le_trans ht.2 (issued_mono h)⟩

/-- The ticket whose value is shown never decreases. -/
theorem LastHeeded.index_le {ms' b b' : List Message} {t t' : Ticket} {v v' : Json}
    (hp : ms <+: ms') (h : LastHeeded .latestIssued ms b t v)
    (h' : LastHeeded .latestIssued ms' b' t' v') : t.index ≤ t'.index := by
  have hocc : b ++ [.evalFinished t (.ok v)] <+: ms' := h.occurs.trans hp
  have hlen : b.length ≤ b'.length := by
    by_contra hlt
    exact h'.last b t v (Nat.lt_of_not_le hlt) hocc h.heeded
  have hb : b <+: b' := List.prefix_of_prefix_length_le
    ((List.prefix_append _ _).trans hocc) ((List.prefix_append _ _).trans h'.occurs) hlen
  rw [index_eq_of_heeded h.heeded, index_eq_of_heeded h'.heeded]
  exact issued_mono hb

/-- Once a later ticket was taken, a ticket is not heeded any more. -/
theorem not_heeded_of_submit {before between : List Message} {t : Ticket}
    (ht : t ∈ tickets .latestIssued before) :
    ¬ Heeded .latestIssued (before ++ .submit :: between) t := by
  intro hh
  have hindex := index_eq_of_heeded hh
  have hmono : ((empty .latestIssued).run (before ++ [.submit])).1.editor.issued ≤
      ((empty .latestIssued).run (before ++ .submit :: between)).1.editor.issued :=
    issued_mono ⟨between, by simp⟩
  rw [run_snoc, update_issued] at hmono
  rw [mem_tickets_iff] at ht
  simp only [Message.isSubmit, if_true] at hmono
  omega

theorem resultAfter_snoc_of_noted {m : Message} {n : Note}
    (hn : (((empty policy).run ms).1.update m).2.note = some n) :
    resultAfter policy (ms ++ [m]) = resultAfter policy ms := by
  rw [resultAfter, run_snoc]
  exact update_result_of_noted _ _ hn

/-! ## The pane along a run -/

/-- What the pane holds after any messages whose completions carry issued tickets, and what never
changes it. A ticket may even be completed several times. -/
theorem result_eq_last_heeded (policy : Policy) (ms : List Message) (h : Issued policy ms) :
    (∀ v, resultAfter policy ms = some v ↔ ∃ before t, LastHeeded policy ms before t v) ∧
    (resultAfter policy ms = none ↔ ∀ before t v,
      before ++ [.evalFinished t (.ok v)] <+: ms → ¬ Heeded policy before t) ∧
    (policy = .latestIssued → ∀ earlier b t v b' t' v', earlier <+: ms →
      LastHeeded policy earlier b t v → LastHeeded policy ms b' t' v' → t.index ≤ t'.index) ∧
    (policy = .latestIssued → ∀ before between t outcome, t ∈ tickets policy before →
      resultAfter policy (before ++ .submit :: between ++ [.evalFinished t outcome]) =
        resultAfter policy (before ++ .submit :: between)) ∧
    (∀ before t f,
      resultAfter policy (before ++ [.evalFinished t (.error f)]) = resultAfter policy before) ∧
    (∀ before t outcome latest,
      (((empty policy).run before).1.update (.evalFinished t outcome)).2.note =
        some (.staleResponse t latest) →
      resultAfter policy (before ++ [.evalFinished t outcome]) = resultAfter policy before) := by
  refine ⟨resultAfter_eq_some_iff h, resultAfter_eq_none_iff h, ?_, ?_, ?_, ?_⟩
  · rintro rfl earlier b t v b' t' v' hp hl hl'
    exact hl.index_le hp hl'
  · rintro rfl before between t outcome ht
    apply resultAfter_snoc_of_not_heeded
    intro t' v hv
    obtain ⟨rfl, rfl⟩ := Message.evalFinished.inj hv
    exact ⟨mem_tickets_mono (List.prefix_append _ _) ht, not_heeded_of_submit ht⟩
  · intro before t f
    exact resultAfter_snoc_of_noted (n := .evalFailed t f) rfl
  · intro before t outcome latest hn
    exact resultAfter_snoc_of_noted hn

/-- Two requests overlap and the second is answered first: its value is shown, that of the first
one is not. -/
theorem result_eq_last_heeded_of_overlap :
    Issued .latestIssued [.submit, .submit, .evalFinished ⟨2⟩ (.ok (.string "B")),
      .evalFinished ⟨1⟩ (.ok (.string "A"))] ∧
    ∃ before t, LastHeeded .latestIssued [.submit, .submit,
      .evalFinished ⟨2⟩ (.ok (.string "B")), .evalFinished ⟨1⟩ (.ok (.string "A"))]
      before t (.string "B") := by
  have h₁ : Issued .latestIssued [.submit] :=
    issued_nil.snoc (by rintro t outcome ⟨⟩)
  have h₂ : Issued .latestIssued [.submit, .submit] :=
    h₁.snoc (by rintro t outcome ⟨⟩)
  have h₃ : Issued .latestIssued [.submit, .submit, .evalFinished ⟨2⟩ (.ok (.string "B"))] :=
    h₂.snoc (by rintro t outcome ⟨⟩; decide)
  have h : Issued .latestIssued [.submit, .submit, .evalFinished ⟨2⟩ (.ok (.string "B")),
      .evalFinished ⟨1⟩ (.ok (.string "A"))] :=
    h₃.snoc (by rintro t outcome ⟨⟩; decide)
  exact ⟨h, ((result_eq_last_heeded _ _ h).1 _).mp rfl⟩

end Scratchpad.Pad
