import Mathlib
import RequestValidation.Proofs.Chain.Progress
import RequestValidation.Proofs.Request.Places
/-!
# Bails only cut errors

A chain is compared with itself without bails, also in the chains of its conditions. Up to the
first bail that ends the run both have the same walks, provided that the conditions are judged
alike; from there on the chain without bails only adds errors to those that are there. So a chain
with errors has errors without its bails as well, and conditions are judged alike.

Results:
* `runSteps_withoutBails`: a run that bails cut short leaves walks from which the full run goes on.
* `errorsAt_later`: the errors at each place come in front of those there later on.
* `holds_of_withoutBails`: conditions are judged as without their bails.
* `run_of_withoutBails`: what a chain comes to, and what it comes to without bails.
-/
namespace RequestValidation

mutual

/-- The condition with all bails deleted. -/
def Condition.withoutBails : Condition → Condition
  | .predicate holds => .predicate holds
  | .chain c => .chain c.withoutBails

/-- The steps with all bails deleted, also those of conditions. -/
def withoutBails : List Step → List Step
  | [] => []
  | .validation v :: rest => .validation v :: withoutBails rest
  | .sanitization s :: rest => .sanitization s :: withoutBails rest
  | .condition c :: rest => .condition c.withoutBails :: withoutBails rest
  | .bail :: rest => withoutBails rest

/-- The chain with all bails deleted. -/
def Chain.withoutBails : Chain → Chain
  | ⟨fields, locations, message, steps, optional, negateNext⟩ =>
    ⟨fields, locations, message, RequestValidation.withoutBails steps, optional, negateNext⟩

end

/-- The errors of an outcome at a place. -/
def ChainOutcome.errorsAt (r : ChainOutcome) (l : Location) (path : String) : List Violation :=
  r.errors.filter fun e => e.location == l && e.path == path

/-- An outcome that has the occurrences of another one, and at each place the first of its errors
there; some error if that has any, and all values if that has none. -/
structure ChainOutcome.CutShort (part full : ChainOutcome) : Prop where
  places : part.data.map (fun o => (o.location, o.path, o.field)) =
    full.data.map fun o => (o.location, o.path, o.field)
  isEmpty : part.isEmpty = full.isEmpty
  errorsAt : ∀ l path, part.errorsAt l path <+: full.errorsAt l path
  eq_of_no_errors : full.errors = [] → part = full

/-! ## The steps -/

section
variable {request : Request} {chain : Option Message}

variable (request) in
/-- The conditions among the steps are judged as without their bails. -/
def GatesAgree (steps : List Step) : Prop :=
  ∀ c, .condition c ∈ steps → ∀ w b, c.withoutBails.holds request w = .ok b →
    c.holds request w = .ok b

/-- If a run without bails comes to an end, so does the run with them: with the same walks if there
are no errors, and otherwise with walks from which the full run goes on. -/
theorem runSteps_withoutBails {steps : List Step} (hgates : GatesAgree request steps)
    {walks full : List Walk}
    (h : runSteps request chain (withoutBails steps) walks = .ok full) :
    ∃ done, runSteps request chain steps walks = .ok done ∧ List.Forall₂ Walk.Later done full ∧
      (anyErrors done = false → done = full) := by
  -- on the steps, for all walks: both runs have the same walks until a bail ends the one
  induction steps generalizing walks with
  | nil =>
    rw [withoutBails, runSteps_nil] at h
    obtain rfl := Except.ok.inj h
    exact ⟨walks, runSteps_nil .., List.forall₂_same.mpr fun w _ => .refl w, fun _ => rfl⟩
  | cons s rest ih =>
    have hrest : GatesAgree request rest := fun c hc => hgates c (List.mem_cons_of_mem s hc)
    have together : ∀ s', s ≠ .bail →
        (∀ w w', s'.Takes request chain w w' → s.Takes request chain w w') → s' ≠ .bail →
        runSteps request chain (s' :: withoutBails rest) walks = .ok full →
        ∃ done, runSteps request chain (s :: rest) walks = .ok done ∧
          List.Forall₂ Walk.Later done full ∧ (anyErrors done = false → done = full) := by
      intro s' hs hst hs' h
      rcases runSteps_cons_inv h with ⟨hbail, -⟩ | ⟨-, next, hnext, h⟩
      · exact absurd hbail hs'
      · rw [runSteps_cons_of_takes (fun hb => hs hb.1) (hnext.imp hst)]
        exact ih hrest h
    cases s with
    | validation v => exact together _ (by simp) (fun _ _ => id) (by simp) h
    | sanitization s => exact together _ (by simp) (fun _ _ => id) (by simp) h
    | condition c =>
      refine together _ (by simp) (fun w w' hw => ?_) (by simp) h
      cases hw with
      | stopped hw => exact .stopped hw
      | judged hw hc => exact .judged hw (hgates c List.mem_cons_self w _ hc)
    | bail =>
      rw [withoutBails] at h
      cases herrors : anyErrors walks with
      | true =>
        refine ⟨walks, ?_, runSteps_later h, fun hnone => by simp [herrors] at hnone⟩
        simp [runSteps_cons, Step.isBail, herrors]
      | false =>
        have hsame : List.Forall₂ (Step.bail.Takes request chain) walks walks := by
          refine List.forall₂_same.mpr fun w _ => ?_
          cases hw : w.stopped with
          | true => exact .stopped hw
          | false => exact .passed hw
        rw [runSteps_cons_of_takes (by simp [herrors]) hsame]
        exact ih hrest h

/-! ## The outcome -/

namespace Chain

theorem withoutBails_message (c : Chain) : c.withoutBails.message = c.message := by
  cases c
  rfl

theorem withoutBails_steps (c : Chain) :
    c.withoutBails.steps = RequestValidation.withoutBails c.steps := by
  cases c
  rfl

theorem withoutBails_targets (c : Chain) (request : Request) :
    c.withoutBails.targets request = c.targets request := by
  cases c
  rfl

theorem withoutBails_outcome (c : Chain) (walks : List Walk) :
    c.withoutBails.outcome walks = c.outcome walks := by
  cases c
  rfl

end Chain

/-- Where there are errors, there are errors later on. -/
theorem anyErrors_later {walks walks' : List Walk} (h : List.Forall₂ Walk.Later walks walks')
    (herrors : anyErrors walks = true) : anyErrors walks' = true := by
  induction h with
  | nil => exact herrors
  | cons hw _ ih =>
    rw [anyErrors, List.any_cons, Bool.or_eq_true] at herrors ⊢
    refine herrors.imp (fun hne => ?_) ih
    obtain ⟨more, hmore, -⟩ := hw.errors
    rw [Bool.not_eq_true', List.isEmpty_eq_false_iff] at hne ⊢
    rw [hmore]
    exact List.append_ne_nil_of_left_ne_nil hne more

theorem places_later {walks walks' : List Walk} (h : List.Forall₂ Walk.Later walks walks') :
    walks.map (fun w => (w.current.location, w.current.path, w.current.field)) =
      walks'.map fun w => (w.current.location, w.current.path, w.current.field) := by
  refine map_eq_map_of_forall₂ (h.imp fun w w' hw => ?_)
  rw [hw.location, hw.path, hw.field]

section Places
variable {l : Location} {path : String} {targets : List Occurrence} {walks walks' : List Walk}

theorem errorsAt_cons (c : Chain) (w : Walk) (walks : List Walk) :
    (c.outcome (w :: walks)).errorsAt l path =
      (c.outcome [w]).errorsAt l path ++ (c.outcome walks).errorsAt l path := by
  simp [ChainOutcome.errorsAt, Chain.outcome]

/-- Walks from elsewhere have no errors at a place. -/
theorem errorsAt_elsewhere (c : Chain)
    (hwalks : List.Forall₂ (fun o w => (Walk.start o).Later w) targets walks)
    (helsewhere : ∀ o ∈ targets, ¬ (o.location = l ∧ o.path = path)) :
    (c.outcome walks).errorsAt l path = [] := by
  refine List.filter_eq_nil_iff.mpr fun e he => ?_
  obtain ⟨w, hw, he⟩ := List.mem_flatMap.mp he
  obtain ⟨o, ho, how⟩ := exists_of_forall₂ hwalks.flip hw
  obtain ⟨hel, hep⟩ := how.errors_of_start e he
  simpa [hel, hep] using helsewhere o ho

/-- A walk later on has its errors at a place in front. -/
theorem errorsAt_single (c : Chain) {w w' : Walk} (h : w.Later w') :
    (c.outcome [w]).errorsAt l path <+: (c.outcome [w']).errorsAt l path := by
  obtain ⟨more, hmore, -⟩ := h.errors
  simp [ChainOutcome.errorsAt, Chain.outcome, hmore]

/-- As targets are at different places, the errors at one of them are those of one walk, and they
come in front of those of this walk later on. -/
theorem errorsAt_later (c : Chain)
    (hplaces : targets.Pairwise fun a b => (a.location, a.path) ≠ (b.location, b.path))
    (hwalks : List.Forall₂ (fun o w => (Walk.start o).Later w) targets walks)
    (hlater : List.Forall₂ Walk.Later walks walks') :
    (c.outcome walks).errorsAt l path <+: (c.outcome walks').errorsAt l path := by
  -- on the targets: the first is at the place and then no other is, or else it counts for nothing
  induction hwalks generalizing walks' with
  | nil =>
    cases hlater
    exact List.prefix_rfl
  | @cons o w targets walks how hwalks ih =>
    obtain ⟨ho, hplaces⟩ := List.pairwise_cons.mp hplaces
    cases hlater with
    | @cons _ w' _ walks' hw hlater =>
      have hwalks' : List.Forall₂ Walk.Later (targets.map Walk.start) walks' :=
        forall₂_trans (fun _ _ _ => .trans) (List.forall₂_map_left_iff.mpr hwalks) hlater
      rw [errorsAt_cons, errorsAt_cons c w']
      by_cases hat : o.location = l ∧ o.path = path
      · have helsewhere : ∀ o' ∈ targets, ¬ (o'.location = l ∧ o'.path = path) := by
          intro o' ho' hat'
          exact ho o' ho' (by rw [hat.1, hat.2, hat'.1, hat'.2])
        rw [errorsAt_elsewhere c hwalks helsewhere,
          errorsAt_elsewhere c (List.forall₂_map_left_iff.mp hwalks') helsewhere,
          List.append_nil, List.append_nil]
        exact errorsAt_single c hw
      · have hsingle : ∀ {v : Walk}, (Walk.start o).Later v →
            (c.outcome [v]).errorsAt l path = [] := fun hv =>
          errorsAt_elsewhere c (.cons hv .nil) fun o' ho' =>
            List.mem_singleton.mp ho' ▸ hat
        rw [hsingle how, hsingle (how.trans hw)]
        exact ih hplaces hlater

end Places

/-- If the conditions of a chain are judged as without their bails, the chain is cut short only. -/
theorem run_of_gatesAgree {c : Chain} (hgates : GatesAgree request c.steps)
    {full : ChainOutcome} (h : c.withoutBails.run request = .ok full) :
    ∃ part, c.run request = .ok part ∧ part.CutShort full := by
  obtain ⟨walks, hwalks, rfl⟩ := run_eq_ok_iff.mp h
  rw [c.withoutBails_message, c.withoutBails_steps, c.withoutBails_targets] at hwalks
  rw [c.withoutBails_outcome]
  obtain ⟨done, hdone, hlater, hsame⟩ := runSteps_withoutBails hgates hwalks
  have hstart : List.Forall₂ (fun o w => (Walk.start o).Later w) (c.targets request) done :=
    List.forall₂_map_left_iff.mp (runSteps_later hdone)
  have hplaces : (c.targets request).Pairwise fun a b =>
      (a.location, a.path) ≠ (b.location, b.path) :=
    (pairwise_occurrences request c.fields c.locations).sublist List.filter_sublist
  have hisEmpty : anyErrors done = anyErrors walks := by
    cases herrors : anyErrors done with
    | true => exact (anyErrors_later hlater herrors).symm
    | false => rw [← hsame herrors, herrors]
  refine ⟨c.outcome done, run_eq_ok_iff.mpr ⟨done, hdone, rfl⟩, ?_, ?_, ?_, ?_⟩
  · simpa [Chain.outcome, Function.comp_def] using places_later hlater
  · rw [c.isEmpty_outcome, c.isEmpty_outcome, hisEmpty]
  · exact fun l path => errorsAt_later c hplaces hstart hlater
  · intro hnone
    have : anyErrors walks = false := by
      rw [← Bool.not_eq_true', ← c.isEmpty_outcome, ChainOutcome.isEmpty, hnone]
      rfl
    rw [hsame (hisEmpty.trans this)]

mutual

/-- A condition is judged as without its bails. -/
theorem holds_of_withoutBails : ∀ (c : Condition) (w : Walk) (b : Bool),
    c.withoutBails.holds request w = .ok b → c.holds request w = .ok b
  | .predicate _, _, _ => id
  | .chain ⟨fields, locations, message, steps, optional, negateNext⟩, w, b => fun h => by
    rw [Condition.withoutBails, Condition.holds, bind_ok_iff] at h
    obtain ⟨full, hfull, hb⟩ := h
    obtain ⟨part, hpart, hcut⟩ := run_of_gatesAgree (gatesAgree steps) hfull
    rw [Condition.holds, bind_ok_iff]
    exact ⟨part, hpart, hcut.isEmpty ▸ hb⟩

theorem gatesAgree : ∀ steps : List Step, GatesAgree request steps
  | [] => fun _ hc => absurd hc List.not_mem_nil
  | .condition d :: rest => fun c hc => by
    rcases List.mem_cons.mp hc with h | h
    · cases h
      exact holds_of_withoutBails d
    · exact gatesAgree rest c h
  | .validation _ :: rest | .sanitization _ :: rest | .bail :: rest => fun c hc =>
    gatesAgree rest c (by simpa using hc)

end

/-- **Bails only cut errors.** If a chain without all its bails succeeds, also without those of the
chains in its conditions, then so does the chain itself: with the same occurrences in the same
order, with errors just if there are errors without bails, at each place with some first errors of
those there without bails, and with the same outcome if there are no errors. -/
theorem run_of_withoutBails {c : Chain} {full : ChainOutcome}
    (h : c.withoutBails.run request = .ok full) :
    ∃ part, c.run request = .ok part ∧ part.CutShort full :=
  run_of_gatesAgree (gatesAgree c.steps) h

end

/-- A chain for tags other than `b`, of requests that have a kind other than `x`. -/
def kindTags : Chain where
  fields := ["tags.*"]
  locations := [.body]
  message := none
  steps := [
    .condition (.chain ⟨["kind"], [.body], none,
      [.validation ⟨.isString, [], false, none⟩, .bail,
        .validation ⟨.equals, [.string "x"], true, none⟩], none, false⟩),
    .validation ⟨.isString, [], false, none⟩, .bail,
    .validation ⟨.equals, [.string "b"], true, none⟩]
  optional := none
  negateNext := false

/-- A request whose first tag is no string. -/
def numberTag : Request :=
  { body := .object [("kind", .string "k"), ("tags", .array [.int 1, .string "b"])] }

/-- Without bails the second tag has an error as well. -/
def numberTagErrors : ChainOutcome where
  fields := ["tags.*"]
  locations := [.body]
  errors := [⟨.body, "tags[0]", some (.int 1), defaultMessage⟩,
    ⟨.body, "tags[1]", some (.string "b"), defaultMessage⟩]
  data := [⟨.body, "tags[0]", "tags.*", some (.int 1)⟩,
    ⟨.body, "tags[1]", "tags.*", some (.string "b")⟩]

theorem numberTag_cut_short :
    kindTags.withoutBails.run numberTag = .ok numberTagErrors ∧
      ∃ part, kindTags.run numberTag = .ok part ∧ part.CutShort numberTagErrors := by
  have hfull : kindTags.withoutBails.run numberTag = .ok numberTagErrors := by cbv
  exact ⟨hfull, run_of_withoutBails hfull⟩

end RequestValidation
