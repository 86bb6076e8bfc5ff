import RequestValidation.Proofs.Chain.Alignment
import RequestValidation.Proofs.Chain.Gates
import RequestValidation.Proofs.Chain.Queue
/-!
# Checks leave values alone

A step takes a walk on by its value alone: the errors that are there take no part in it, and what it
adds to them does not depend on them. Only validators add any. So without bails, which do look at
errors, the validators of a chain may be deleted and the values stay as they are, and two of them
next to each other may change places at the price of the order of errors.

Results:
* `Step.Takes.frame`: the errors of a walk take no part in a step.
* `runSteps_unchecked`: a run without its validators.
* `runSteps_shuffled`: errors in another order do not change a run.
* `runSteps_swapped`: a run with two validators in the other order.
* `checks_keep_data`: what becomes of a chain in both cases.
-/
namespace RequestValidation

section
variable {request : Request} {chain : Option Message}

/-! ## The frame of a step -/

/-- The walk with other errors. -/
def Walk.withErrors (w : Walk) (es : List Violation) : Walk := { w with errors := es }

/-- A step takes a walk on in the same way whatever errors it has, and puts the same ones behind
them: none, unless it is a validator. -/
theorem Step.Takes.frame {s : Step} {w w' : Walk} (h : s.Takes request chain w w') :
    ∃ new, w'.errors = w.errors ++ new ∧ (s.kind ≠ .validation → new = []) ∧
      ∀ es, s.Takes request chain (w.withErrors es) (w'.withErrors (es ++ new)) := by
  -- all but a validator leave the errors as they are
  have quiet : w'.errors = w.errors →
      (∀ es, s.Takes request chain (w.withErrors es) (w'.withErrors es)) →
      ∃ new, w'.errors = w.errors ++ new ∧ (s.kind ≠ .validation → new = []) ∧
        ∀ es, s.Takes request chain (w.withErrors es) (w'.withErrors (es ++ new)) := by
    intro herrors htakes
    refine ⟨[], by rw [herrors, List.append_nil], fun _ => rfl, fun es => ?_⟩
    rw [List.append_nil]
    exact htakes es
  cases h with
  | stopped hw => exact quiet rfl fun es => .stopped hw
  | checked hw hes => exact ⟨_, rfl, fun hkind => absurd rfl hkind, fun es => .checked hw hes⟩
  | changed hw ho => exact quiet rfl fun es => .changed hw ho
  | judged hw hc =>
    rw [holds_eq_judge] at hc
    exact quiet rfl fun es => .judged hw ((holds_eq_judge request _ (w.withErrors es)).trans hc)
  | passed hw => exact quiet rfl fun es => .passed hw

/-- A validator changes nothing but the errors. -/
theorem Step.Takes.withErrors_eq {v : Validation} {w w' : Walk}
    (h : (Step.validation v).Takes request chain w w') (es : List Violation) :
    w'.withErrors es = w.withErrors es := by
  cases h <;> rfl

/-! ## Without validators -/

/-- The steps without the validators. The chains of conditions keep theirs. -/
def unchecked (steps : List Step) : List Step := steps.filter (·.kind != .validation)

/-- Without its validators a run takes walks without errors to the same values. -/
theorem runSteps_unchecked {steps : List Step} (hbails : .bail ∉ steps) {walks done : List Walk}
    (h : runSteps request chain steps walks = .ok done) :
    runSteps request chain (unchecked steps) (walks.map (·.withErrors [])) =
      .ok (done.map (·.withErrors [])) := by
  induction steps generalizing walks with
  | nil =>
    rw [runSteps_nil] at h
    obtain rfl := Except.ok.inj h
    exact runSteps_nil request chain _
  | cons s rest ih =>
    have hrest : .bail ∉ rest := fun hb => hbails (List.mem_cons_of_mem s hb)
    rcases runSteps_cons_inv h with ⟨rfl, -⟩ | ⟨-, next, hnext, h⟩
    · exact absurd List.mem_cons_self hbails
    · have ih := ih hrest h
      by_cases hkind : s.kind = .validation
      · -- the validator is gone, and it would have left walks without errors as they are
        have hdrop : unchecked (s :: rest) = unchecked rest := by simp [unchecked, hkind]
        have hsame : next.map (·.withErrors []) = walks.map (·.withErrors []) := by
          refine map_eq_map_of_forall₂ (hnext.flip.imp fun w' w hw => ?_)
          cases s with
          | validation v => exact hw.withErrors_eq []
          | sanitization | condition | bail => cases hkind
        rwa [hdrop, ← hsame]
      · have hkeep : unchecked (s :: rest) = s :: unchecked rest := by simp [unchecked, hkind]
        have htake : List.Forall₂ (s.Takes request chain) (walks.map (·.withErrors []))
            (next.map (·.withErrors [])) := by
          rw [List.forall₂_map_left_iff, List.forall₂_map_right_iff]
          refine hnext.imp fun w w' hw => ?_
          obtain ⟨new, -, hnew, htakes⟩ := hw.frame
          rw [hnew hkind] at htakes
          exact htakes []
        have hgoes : ¬ (s = .bail ∧ anyErrors (walks.map (·.withErrors [])) = true) :=
          fun hb => hbails (hb.1 ▸ List.mem_cons_self)
        rw [hkeep, runSteps_cons_of_takes hgoes htake]
        exact ih

/-! ## Errors in another order -/

/-- The second walk is the first one with its errors in another order. -/
structure Walk.Shuffled (w w' : Walk) : Prop where
  current : w'.current = w.current
  stopped : w'.stopped = w.stopped
  errors : w.errors.Perm w'.errors

namespace Walk.Shuffled

theorem refl (w : Walk) : w.Shuffled w := ⟨rfl, rfl, .refl _⟩

theorem symm {w w' : Walk} (h : w.Shuffled w') : w'.Shuffled w :=
  ⟨h.current.symm, h.stopped.symm, h.errors.symm⟩

end Walk.Shuffled

/-- A step takes walks alike but for the order of errors to such walks. -/
theorem Step.Takes.shuffled {s : Step} {v w v' : Walk} (h : s.Takes request chain v w)
    (hv : v.Shuffled v') : ∃ w', s.Takes request chain v' w' ∧ w.Shuffled w' := by
  obtain ⟨new, hnew, -, htakes⟩ := h.frame
  have hsame : v.withErrors v'.errors = v' := by
    obtain ⟨current, errors, stopped⟩ := v'
    obtain ⟨rfl, rfl, -⟩ := hv
    rfl
  refine ⟨w.withErrors (v'.errors ++ new), hsame ▸ htakes v'.errors, rfl, rfl, ?_⟩
  rw [hnew]
  exact hv.errors.append_right new

theorem anyErrors_shuffled {walks walks' : List Walk}
    (h : List.Forall₂ Walk.Shuffled walks walks') : anyErrors walks' = anyErrors walks := by
  have hempty : walks'.map (·.errors.isEmpty) = walks.map (·.errors.isEmpty) :=
    map_eq_map_of_forall₂ (h.flip.imp fun w' w hw => hw.errors.symm.isEmpty_eq)
  have hany : ∀ ws : List Walk, anyErrors ws = (ws.map (·.errors.isEmpty)).any (!·) := by
    intro ws
    rw [List.any_map]
    rfl
  rw [hany, hany, hempty]

/-- Errors in another order do not change a run but for their own order. -/
theorem runSteps_shuffled {steps : List Step} {walks walks' done : List Walk}
    (h : runSteps request chain steps walks = .ok done)
    (hwalks : List.Forall₂ Walk.Shuffled walks walks') :
    ∃ done', runSteps request chain steps walks' = .ok done' ∧
      List.Forall₂ Walk.Shuffled done done' := by
  induction steps generalizing walks walks' with
  | nil =>
    rw [runSteps_nil] at h
    obtain rfl := Except.ok.inj h
    exact ⟨walks', runSteps_nil request chain walks', hwalks⟩
  | cons s rest ih =>
    rcases runSteps_cons_inv h with ⟨rfl, herrors, rfl⟩ | ⟨hgoes, next, hnext, h⟩
    · refine ⟨walks', ?_, hwalks⟩
      rw [runSteps_cons, anyErrors_shuffled hwalks, herrors]
      rfl
    · have hpairs : List.Forall₂
          (fun w v' => ∃ w', w.Shuffled w' ∧ s.Takes request chain v' w') next walks' := by
        refine (forall₂_comp hnext.flip hwalks).imp fun w v' hv => ?_
        obtain ⟨v, hvw, hvv'⟩ := hv
        obtain ⟨w', hw', hww'⟩ := Step.Takes.shuffled hvw hvv'
        exact ⟨w', hww', hw'⟩
      obtain ⟨next', hshuffled, hnext'⟩ := exists_between_forall₂ hpairs
      have hgoes' : ¬ (s = .bail ∧ anyErrors walks' = true) := by
        rwa [anyErrors_shuffled hwalks]
      rw [runSteps_cons_of_takes hgoes' hnext'.flip]
      exact ih h hshuffled

/-! ## Validators in the other order -/

/-- Two validators take a walk to the same, but for the order of errors, in either order. -/
theorem takes_swapped {u v : Validation} {w₀ w₁ w₂ : Walk}
    (hu : (Step.validation u).Takes request chain w₀ w₁)
    (hv : (Step.validation v).Takes request chain w₁ w₂) :
    ∃ w₁' w₂', (Step.validation v).Takes request chain w₀ w₁' ∧
      (Step.validation u).Takes request chain w₁' w₂' ∧ w₂.Shuffled w₂' := by
  obtain ⟨es, hes, -, htakes⟩ := hu.frame
  obtain ⟨fs, hfs, -, htakes'⟩ := hv.frame
  have hfirst : (Step.validation v).Takes request chain w₀ (w₀.withErrors (w₀.errors ++ fs)) := by
    have h := htakes' w₀.errors
    rw [hv.withErrors_eq, hu.withErrors_eq, hu.withErrors_eq] at h
    exact h
  have hsecond : (Step.validation u).Takes request chain (w₀.withErrors (w₀.errors ++ fs))
      (w₂.withErrors (w₀.errors ++ fs ++ es)) := by
    rw [hv.withErrors_eq]
    exact htakes (w₀.errors ++ fs)
  have herrors : w₂.errors = w₀.errors ++ (es ++ fs) := by rw [hfs, hes, List.append_assoc]
  have hperm : (w₀.errors ++ (es ++ fs)).Perm (w₀.errors ++ fs ++ es) := by
    rw [List.append_assoc]
    exact List.perm_append_comm.append_left w₀.errors
  exact ⟨_, _, hfirst, hsecond, rfl, rfl, herrors ▸ hperm⟩

/-- A run with two validators in the other order comes to the same, but for the order of errors. -/
theorem runSteps_swapped {front rest : List Step} {u v : Validation} {walks done : List Walk}
    (h : runSteps request chain (front ++ .validation u :: .validation v :: rest) walks =
      .ok done) :
    ∃ done', runSteps request chain (front ++ .validation v :: .validation u :: rest) walks =
      .ok done' ∧ List.Forall₂ Walk.Shuffled done done' := by
  induction front generalizing walks with
  | nil =>
    have hgoes : ∀ (w : Validation) (ws : List Walk),
        ¬ (Step.validation w = .bail ∧ anyErrors ws = true) := fun _ _ hb => nomatch hb.1
    rcases runSteps_cons_inv h with ⟨hb, -⟩ | ⟨-, first, hfirst, h⟩
    · cases hb
    rcases runSteps_cons_inv h with ⟨hb, -⟩ | ⟨-, second, hsecond, h⟩
    · cases hb
    -- the walks behind both validators in the other order, and then those between them
    have hpairs : List.Forall₂ (fun w₀ w₂ => ∃ w₂',
        (∃ w₁', (Step.validation v).Takes request chain w₀ w₁' ∧
          (Step.validation u).Takes request chain w₁' w₂') ∧ w₂'.Shuffled w₂) walks second := by
      refine (forall₂_comp hfirst hsecond).imp fun w₀ w₂ hw => ?_
      obtain ⟨w₁, hu, hv⟩ := hw
      obtain ⟨w₁', w₂', hv', hu', hw₂⟩ := takes_swapped hu hv
      exact ⟨w₂', ⟨w₁', hv', hu'⟩, hw₂.symm⟩
    obtain ⟨second', hboth, hsame⟩ := exists_between_forall₂ hpairs
    obtain ⟨first', hfirst', hsecond'⟩ := exists_between_forall₂ hboth
    rw [List.nil_append, runSteps_cons_of_takes (hgoes v walks) hfirst',
      runSteps_cons_of_takes (hgoes u first') hsecond']
    exact runSteps_shuffled h (hsame.flip.imp fun _ _ => .symm)
  | cons s front ih =>
    rcases runSteps_cons_inv h with ⟨rfl, herrors, rfl⟩ | ⟨hgoes, next, hnext, h⟩
    · refine ⟨done, ?_, List.forall₂_same.mpr fun w _ => .refl w⟩
      rw [List.cons_append, runSteps_cons, herrors]
      rfl
    · rw [List.cons_append, runSteps_cons_of_takes hgoes hnext]
      exact ih h

end

/-! ## The outcome -/

/-- The second outcome is the first one with the errors of each occurrence in another order. -/
structure ChainOutcome.Shuffled (r r' : ChainOutcome) : Prop where
  fields : r'.fields = r.fields
  locations : r'.locations = r.locations
  data : r'.data = r.data
  errors : ∃ blocks blocks', r.InBlocks blocks ∧ r'.InBlocks blocks' ∧
    List.Forall₂ List.Perm blocks blocks'

/-- **Checks never change values.** If a chain succeeds, then so it does without its own validators,
provided that it has no bails: with the same data, and without errors. And it succeeds with two
adjacent validators in the other order: with the same data, and with the same errors at each
occurrence in another order. -/
theorem checks_keep_data {c : Chain} {request : Request} {r : ChainOutcome}
    (hrun : c.run request = .ok r) :
    (.bail ∉ c.steps → (c.withSteps (unchecked c.steps)).run request =
        .ok { r with errors := [] }) ∧
      ∀ front u v rest, c.steps = front ++ .validation u :: .validation v :: rest →
        ∃ r', (c.withSteps (front ++ .validation v :: .validation u :: rest)).run request = .ok r' ∧
          r.Shuffled r' := by
  obtain ⟨done, hdone, rfl⟩ := run_eq_ok_iff.mp hrun
  constructor
  · intro hbails
    have hstart : ((c.targets request).map Walk.start).map (·.withErrors []) =
        (c.targets request).map Walk.start := by
      rw [List.map_map]
      rfl
    have hunchecked := runSteps_unchecked hbails hdone
    rw [hstart] at hunchecked
    refine run_eq_ok_iff.mpr ⟨_, hunchecked, ?_⟩
    simp [Chain.withSteps, Chain.outcome, Walk.withErrors, List.flatMap_map, Function.comp_def]
  · intro front u v rest hsteps
    rw [hsteps] at hdone
    obtain ⟨done', hdone', hshuffled⟩ := runSteps_swapped hdone
    refine ⟨(c.withSteps _).outcome done', run_eq_ok_iff.mpr ⟨done', hdone', rfl⟩, rfl, rfl, ?_, ?_⟩
    · exact map_eq_map_of_forall₂ (hshuffled.flip.imp fun w' w hw => hw.current)
    · refine ⟨_, _, outcome_inBlocks c hdone, outcome_inBlocks (c.withSteps _) hdone', ?_⟩
      rw [List.forall₂_map_left_iff, List.forall₂_map_right_iff]
      exact hshuffled.imp fun w w' hw => hw.errors

/-- A chain that wants tags that are texts, checks them twice and keeps some of their characters. -/
def checksTags : Chain where
  fields := ["tags.*"]
  locations := [.body]
  message := none
  steps := .condition (.predicate fun view => view.value.any (·.string?.isSome)) ::
    .validation ⟨.isAlpha, [], false, some (.fixed "letters")⟩ ::
    .validation ⟨.equals, [.string "b"], false, some (.fixed "b")⟩ ::
    [.sanitization ⟨.whitelist, [.string "1"]⟩]
  optional := none
  negateNext := false

/-- What the chain comes to if one tag passes neither check and the other one is a number. -/
def checksTagsOutcome : ChainOutcome where
  fields := ["tags.*"]
  locations := [.body]
  errors := [⟨.body, "tags[0]", some (.string "a1"), "letters"⟩,
    ⟨.body, "tags[0]", some (.string "a1"), "b"⟩]
  data := [⟨.body, "tags[0]", "tags.*", some (.string "1")⟩,
    ⟨.body, "tags[1]", "tags.*", some (.int 2)⟩]

theorem checksTags_keep_data :
    checksTags.run { body := .object [("tags", .array [.string "a1", .int 2])] } =
        .ok checksTagsOutcome ∧
      .bail ∉ checksTags.steps ∧
      (checksTags.withSteps (unchecked checksTags.steps)).run
          { body := .object [("tags", .array [.string "a1", .int 2])] } =
        .ok { checksTagsOutcome with errors := [] } ∧
      ∃ r', (checksTags.withSteps (
          .condition (.predicate fun view => view.value.any (·.string?.isSome)) ::
          .validation ⟨.equals, [.string "b"], false, some (.fixed "b")⟩ ::
          .validation ⟨.isAlpha, [], false, some (.fixed "letters")⟩ ::
          [.sanitization ⟨.whitelist, [.string "1"]⟩])).run
          { body := .object [("tags", .array [.string "a1", .int 2])] } = .ok r' ∧
        checksTagsOutcome.Shuffled r' := by
  have hrun : checksTags.run { body := .object [("tags", .array [.string "a1", .int 2])] } =
      .ok checksTagsOutcome := by rfl
  have hbails : .bail ∉ checksTags.steps := by simp [checksTags]
  obtain ⟨hunchecked, hswapped⟩ := checks_keep_data hrun
  exact ⟨hrun, hbails, hunchecked hbails, hswapped [_] _ _ _ rfl⟩

end RequestValidation
