import RequestValidation.Proofs.Chain.Alone
/-!
# Walks later on

What some steps do to a walk: it stays at its place, and its errors stay in front of those that come
later, which are errors at that place. This is said once of a single step and holds of every run.

Results:
* `advance_eq_ok_iff`: what a step does.
* `runSteps_cons_inv`: what a run does first.
* `runSteps_of_takes`: what every step does to a walk, a run does to all of them.
* `Step.Takes.later`, `runSteps_later`: a step, and a run, leaves walks later on.
* `errors_of_start`: the errors of a walk from the start are errors at its place.
* `run_eq_ok_iff`: the outcome of a chain is that of its walks.
-/
namespace RequestValidation

/-- Whether an error is one at the place of an occurrence. -/
def Violation.IsAt (e : Violation) (o : Occurrence) : Prop :=
  e.location = o.location ∧ e.path = o.path

/-- The second walk is the first one later on. -/
structure Walk.Later (w w' : Walk) : Prop where
  location : w'.current.location = w.current.location
  path : w'.current.path = w.current.path
  field : w'.current.field = w.current.field
  errors : ∃ more, w'.errors = w.errors ++ more ∧ ∀ e ∈ more, e.IsAt w.current

namespace Walk.Later

theorem refl (w : Walk) : w.Later w := ⟨rfl, rfl, rfl, [], by simp, by simp⟩

theorem trans {w w' w'' : Walk} (h : w.Later w') (h' : w'.Later w'') : w.Later w'' := by
  obtain ⟨more, hmore, hat⟩ := h.errors
  obtain ⟨more', hmore', hat'⟩ := h'.errors
  refine ⟨h'.location.trans h.location, h'.path.trans h.path, h'.field.trans h.field,
    more ++ more', ?_, fun e he => ?_⟩
  · rw [hmore', hmore, List.append_assoc]
  · rcases List.mem_append.mp he with he | he
    · exact hat e he
    · obtain ⟨hl, hp⟩ := hat' e he
      exact ⟨hl.trans h.location, hp.trans h.path⟩

theorem errors_of_start {o : Occurrence} {w : Walk} (h : (Walk.start o).Later w) :
    ∀ e ∈ w.errors, e.IsAt o := by
  obtain ⟨more, hmore, hat⟩ := h.errors
  rw [hmore]
  exact hat

end Walk.Later

section
variable {request : Request} {chain : Option Message}

/-! ## One step -/

variable (request chain) in
/-- What a step takes a walk to. A walk that has stopped stays as it is. -/
inductive Step.Takes : Step → Walk → Walk → Prop
  | stopped {s : Step} {w : Walk} (hw : w.stopped = true) : Takes s w w
  | checked {v : Validation} {w : Walk} {es : List Violation} (hw : w.stopped = false)
      (hes : v.complaints request chain w.current = .ok es) :
      Takes (.validation v) w { w with errors := w.errors ++ es }
  | changed {s : Sanitization} {w : Walk} {o : Occurrence} (hw : w.stopped = false)
      (ho : s.sanitized w.current = .ok o) :
      Takes (.sanitization s) w { w with current := o }
  | judged {c : Condition} {w : Walk} {proceed : Bool} (hw : w.stopped = false)
      (hc : c.holds request w = .ok proceed) :
      Takes (.condition c) w { w with stopped := !proceed }
  | passed {w : Walk} (hw : w.stopped = false) : Takes .bail w w

theorem advance_eq_ok_iff {s : Step} {w w' : Walk} :
    s.advance request chain w = .ok w' ↔ s.Takes request chain w w' := by
  constructor
  · intro h
    cases hw : w.stopped with
    | true =>
      rw [advance_stopped request chain s w hw] at h
      exact Except.ok.inj h ▸ .stopped hw
    | false =>
      have hgoing : ¬ w.stopped = true := by simp [hw]
      cases s with
      | validation v =>
        rw [Step.advance, if_neg hgoing, validate_eq, map_ok_iff] at h
        obtain ⟨es, hes, rfl⟩ := h
        exact .checked hw hes
      | sanitization s =>
        rw [Step.advance, if_neg hgoing, change_eq, map_ok_iff] at h
        obtain ⟨o, ho, rfl⟩ := h
        exact .changed hw ho
      | condition c =>
        rw [Step.advance, if_neg hgoing, bind_ok_iff] at h
        obtain ⟨proceed, hc, h⟩ := h
        exact Except.ok.inj h ▸ .judged hw hc
      | bail =>
        rw [Step.advance] at h
        exact Except.ok.inj h ▸ .passed hw
  · intro h
    cases h with
    | stopped hw => exact advance_stopped request chain s w hw
    | checked hw hes => simp [Step.advance, hw, validate_eq, hes, Except.map]
    | changed hw ho => simp [Step.advance, hw, change_eq, ho, Except.map]
    | judged hw hc => simp [Step.advance, hw, hc, bind, Except.bind]
    | passed => rw [Step.advance]

theorem complaints_isAt {v : Validation} {o : Occurrence} {es : List Violation}
    (h : v.complaints request chain o = .ok es) : ∀ e ∈ es, e.IsAt o := by
  obtain ⟨verdicts, -, rfl⟩ := complaints_ok_iff.mp h
  intro e he
  obtain ⟨d, -, rfl⟩ := List.mem_map.mp he
  exact ⟨rfl, rfl⟩

theorem sanitized_place {s : Sanitization} {o o' : Occurrence} (h : s.sanitized o = .ok o') :
    o'.location = o.location ∧ o'.path = o.path ∧ o'.field = o.field := by
  obtain ⟨value, -, rfl⟩ := sanitized_ok_iff.mp h
  exact ⟨rfl, rfl, rfl⟩

/-- A step leaves a walk later on. -/
theorem Step.Takes.later {s : Step} {w w' : Walk} (h : s.Takes request chain w w') :
    w.Later w' := by
  cases h with
  | stopped | passed => exact .refl w
  | checked _ hes => exact ⟨rfl, rfl, rfl, _, rfl, complaints_isAt hes⟩
  | changed _ ho =>
    obtain ⟨hl, hp, hf⟩ := sanitized_place ho
    exact ⟨hl, hp, hf, [], by simp, by simp⟩
  | judged => exact ⟨rfl, rfl, rfl, [], by simp, by simp⟩

/-- What has stopped stays so. -/
theorem Step.Takes.stopped_of {s : Step} {w w' : Walk} (h : s.Takes request chain w w')
    (hw : w.stopped = true) : w'.stopped = true := by
  cases h with
  | stopped => exact hw
  | checked hgoing | changed hgoing | judged hgoing | passed hgoing =>
    rw [hw] at hgoing
    cases hgoing

/-- Only a condition that does not hold stops a walk. -/
theorem Step.Takes.stops {s : Step} {w w' : Walk} (h : s.Takes request chain w w')
    (hw : w.stopped = false) (hw' : w'.stopped = true) :
    ∃ c, s = .condition c ∧ c.holds request w = .ok false := by
  cases h with
  | judged _ hc =>
    refine ⟨_, rfl, ?_⟩
    rw [hc]
    simpa using hw'
  | stopped | checked | changed | passed =>
    rw [hw] at hw'
    cases hw'

/-! ## A run -/

/-- What a step takes walks to, one by one. -/
theorem mapM_advance_eq_ok_iff {s : Step} {walks next : List Walk} :
    walks.mapM (s.advance request chain) = .ok next ↔
      List.Forall₂ (s.Takes request chain) walks next := by
  simp only [mapM_eq_ok_iff, advance_eq_ok_iff]

theorem isBail_iff {s : Step} : s.isBail = true ↔ s = .bail := by
  cases s <;> simp [Step.isBail]

/-- What a run does first: a bail that finds an error ends it, and any other step takes every walk
on. -/
theorem runSteps_cons_inv {s : Step} {rest : List Step} {walks done : List Walk}
    (h : runSteps request chain (s :: rest) walks = .ok done) :
    s = .bail ∧ anyErrors walks = true ∧ done = walks ∨
      ¬ (s = .bail ∧ anyErrors walks = true) ∧ ∃ next,
        List.Forall₂ (s.Takes request chain) walks next ∧
          runSteps request chain rest next = .ok done := by
  rw [runSteps_cons] at h
  split at h
  · rename_i hends
    rw [Bool.and_eq_true, isBail_iff] at hends
    exact .inl ⟨hends.1, hends.2, (Except.ok.inj h).symm⟩
  · rename_i hgoes
    rw [Bool.and_eq_true, isBail_iff] at hgoes
    obtain ⟨next, hnext, hrest⟩ := bind_ok_iff.mp h
    exact .inr ⟨hgoes, next, mapM_advance_eq_ok_iff.mp hnext, hrest⟩

/-- A step that every walk can take is taken. -/
theorem runSteps_cons_of_takes {s : Step} {rest : List Step} {walks next : List Walk}
    (hgoes : ¬ (s = .bail ∧ anyErrors walks = true))
    (hnext : List.Forall₂ (s.Takes request chain) walks next) :
    runSteps request chain (s :: rest) walks = runSteps request chain rest next := by
  rw [runSteps_cons, if_neg, mapM_advance_eq_ok_iff.mpr hnext]
  · rfl
  · rw [Bool.and_eq_true, isBail_iff]
    exact hgoes

/-- What holds between the walks in front of a step and behind it holds between those in front of a
run and behind it. -/
theorem runSteps_of_takes {r : Walk → Walk → Prop} (hrefl : ∀ w, r w w)
    (htrans : ∀ u v w, r u v → r v w → r u w)
    (hstep : ∀ s w w', Step.Takes request chain s w w' → r w w') {steps : List Step}
    {walks done : List Walk} (h : runSteps request chain steps walks = .ok done) :
    List.Forall₂ r walks done := by
  induction steps generalizing walks with
  | nil =>
    rw [runSteps_nil] at h
    obtain rfl := Except.ok.inj h
    exact List.forall₂_same.mpr fun w _ => hrefl w
  | cons s rest ih =>
    rcases runSteps_cons_inv h with ⟨-, -, rfl⟩ | ⟨-, next, hnext, hrest⟩
    · exact List.forall₂_same.mpr fun w _ => hrefl w
    · exact forall₂_trans htrans (hnext.imp (hstep s)) (ih hrest)

/-- A run leaves walks later on. -/
theorem runSteps_later {steps : List Step} {walks done : List Walk}
    (h : runSteps request chain steps walks = .ok done) : List.Forall₂ Walk.Later walks done :=
  runSteps_of_takes Walk.Later.refl (fun _ _ _ => .trans) (fun _ _ _ => Step.Takes.later) h

end

theorem Chain.isEmpty_outcome (c : Chain) (walks : List Walk) :
    (c.outcome walks).isEmpty = !anyErrors walks := by
  rw [ChainOutcome.isEmpty, Chain.outcome, Bool.eq_iff_iff]
  simp [anyErrors, List.flatMap_eq_nil_iff]

/-- The outcome of a chain is that of the walks of its occurrences. -/
theorem run_eq_ok_iff {request : Request} {c : Chain} {outcome : ChainOutcome} :
    c.run request = .ok outcome ↔ ∃ done,
      runSteps request c.message c.steps ((c.targets request).map Walk.start) = .ok done ∧
        outcome = c.outcome done := by
  rw [run_eq_map, map_ok_iff]
  simp only [eq_comm]

end RequestValidation
