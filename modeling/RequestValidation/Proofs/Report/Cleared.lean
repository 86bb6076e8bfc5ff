import Mathlib
import RequestValidation.Proofs.Chain.Trace
import RequestValidation.Proofs.Report.Matched
import RequestValidation.Schema.Plan
/-!
# Are matched values checked?

A report matches the values at whose place there is no error. Here each of them is traced back to
the target of a chain that it comes from, to see whether this target has passed its checks. It has,
unless a bail has ended the run in front of a check because of errors of other targets.

Results:
* `map_occurrence_origins`: the data of a report have their origins one by one.
* `walk_of_origin`: the origin of a matched value comes to the end of its chain without an error.
* `matchedCleared_iff`: the matched values are checked just if no bail overtakes their targets.
* `cleared_of_outcome_ok`: the matched values of a report without errors are checked.
-/
namespace RequestValidation

/-- An occurrence in the data of a report, and which target of which chain it is. -/
structure Origin where
  chain : Chain
  index : Nat
  occurrence : Occurrence

/-- Where the data of a report come from, chain by chain. -/
def origins (chains : List Chain) (outcomes : List ChainOutcome) : List Origin :=
  (chains.zip outcomes).flatMap fun p => p.2.data.zipIdx.map fun q => ⟨p.1, q.2, q.1⟩

/-- Where the value comes from that the report on a plan matches with a path. -/
def SchemaPlan.origin? (plan : SchemaPlan) (outcomes : List ChainOutcome) (path : String) :
    Option Origin :=
  (origins plan.chains outcomes).find? fun x =>
    (Report.ofOutcomes outcomes).qualifies path x.occurrence

/-- Each matched value comes from a target that has passed all checks of its chain but those behind
a condition that has stopped it. -/
def MatchedCleared (plan : SchemaPlan) (request : Request) : Prop :=
  ∀ outcomes, plan.run request = .ok outcomes →
    ∀ path v, (path, v) ∈ (Report.ofOutcomes outcomes).matched →
      ∃ x, plan.origin? outcomes path = some x ∧ x.occurrence.value = some v ∧
        x.chain.Cleared request x.index

/-- No bail ends a run in front of a check of a target whose value is matched. -/
def NoneOvertaken (plan : SchemaPlan) (request : Request) : Prop :=
  ∀ outcomes, plan.run request = .ok outcomes →
    ∀ path x, plan.origin? outcomes path = some x → ¬ x.chain.Overtaken request x.index

/-! ## Origins -/

theorem map_occurrence_origins {chains : List Chain} {outcomes : List ChainOutcome}
    (hlength : outcomes.length = chains.length) :
    (origins chains outcomes).map (·.occurrence) = (Report.ofOutcomes outcomes).data := by
  have hone : ∀ p : Chain × ChainOutcome,
      (p.2.data.zipIdx.map fun q => Origin.mk p.1 q.2 q.1).map (·.occurrence) = p.2.data := by
    intro p
    rw [List.map_map]
    exact List.zipIdx_map_fst ..
  calc (origins chains outcomes).map (·.occurrence)
      = (chains.zip outcomes).flatMap fun p => p.2.data := by
        rw [origins, List.map_flatMap]
        exact congrArg (List.flatMap · _) (funext hone)
    _ = ((chains.zip outcomes).map Prod.snd).flatMap (·.data) := (List.flatMap_map ..).symm
    _ = outcomes.flatMap (·.data) := by rw [List.map_snd_zip (Nat.le_of_eq hlength)]

section
variable {plan : SchemaPlan} {request : Request} {outcomes : List ChainOutcome}

theorem length_outcomes (h : plan.run request = .ok outcomes) :
    outcomes.length = plan.chains.length :=
  (mapM_eq_ok_iff.mp h).length_eq.symm

/-- What is matched is what has an origin. -/
theorem mem_matched_iff_origin (h : plan.run request = .ok outcomes) (path : String) (v : Json) :
    (path, v) ∈ (Report.ofOutcomes outcomes).matched ↔
      ∃ x, plan.origin? outcomes path = some x ∧ x.occurrence.value = some v := by
  rw [Report.mem_matched_iff, ← map_occurrence_origins (length_outcomes h), List.find?_map]
  constructor
  · rintro ⟨o, ho, hv⟩
    obtain ⟨x, hx, rfl⟩ := Option.map_eq_some_iff.mp ho
    exact ⟨x, hx, hv⟩
  · rintro ⟨x, hx, hv⟩
    exact ⟨x.occurrence, Option.map_eq_some_iff.mpr ⟨x, hx, rfl⟩, hv⟩

theorem qualifies_of_origin {path : String} {x : Origin}
    (hx : plan.origin? outcomes path = some x) :
    (Report.ofOutcomes outcomes).qualifies path x.occurrence = true := by
  unfold SchemaPlan.origin? at hx
  have := List.find?_some hx
  exact this

theorem origin_matched {path : String} {x : Origin} (h : plan.run request = .ok outcomes)
    (hx : plan.origin? outcomes path = some x) :
    ∃ v, (path, v) ∈ (Report.ofOutcomes outcomes).matched := by
  obtain ⟨-, ⟨v, hv⟩, -⟩ := Report.qualifies_iff.mp (qualifies_of_origin hx)
  exact ⟨v, (mem_matched_iff_origin h path v).mpr ⟨x, hx, hv⟩⟩

/-- A walk has no errors if the report has none at its place. -/
theorem errors_of_not_failed {c : Chain} {done : List Walk} {w : Walk}
    (hdone : runSteps request c.message c.steps ((c.targets request).map Walk.start) = .ok done)
    (hmem : c.outcome done ∈ outcomes) (hw : w ∈ done)
    (hfailed : (Report.ofOutcomes outcomes).failed w.current = false) : w.errors = [] := by
  obtain ⟨start, hstart, hlater⟩ := exists_of_forall₂ (runSteps_later hdone).flip hw
  obtain ⟨o, -, rfl⟩ := List.mem_map.mp hstart
  refine List.eq_nil_iff_forall_not_mem.mpr fun e he => ?_
  have hreport : e ∈ (Report.ofOutcomes outcomes).errors :=
    List.mem_flatMap.mpr ⟨_, hmem, List.mem_flatMap.mpr ⟨w, hw, he⟩⟩
  obtain ⟨hl, hp⟩ := hlater.errors_of_start e he
  have hplace := List.any_eq_false.mp hfailed e hreport
  rw [hlater.location, hlater.path] at hplace
  simp [hl, hp, Walk.start] at hplace

/-- The origin of a matched value comes to the end of the run of its chain without an error. -/
theorem walk_of_origin {path : String} {x : Origin} (h : plan.run request = .ok outcomes)
    (hx : plan.origin? outcomes path = some x) :
    ∃ done w, runSteps request x.chain.message x.chain.steps
        ((x.chain.targets request).map Walk.start) = .ok done ∧
      x.chain.outcome done ∈ outcomes ∧ done[x.index]? = some w ∧ w.errors = [] := by
  obtain ⟨-, -, hfailed⟩ := Report.qualifies_iff.mp (qualifies_of_origin hx)
  obtain ⟨⟨c, r⟩, hzip, hx⟩ := List.mem_flatMap.mp (List.mem_of_find?_eq_some hx)
  obtain ⟨⟨o, i⟩, hindex, rfl⟩ := List.mem_map.mp hx
  obtain ⟨done, hdone, rfl⟩ := run_eq_ok_iff.mp (List.forall₂_zip (mapM_eq_ok_iff.mp h) hzip)
  have hmem : c.outcome done ∈ outcomes := (List.of_mem_zip hzip).2
  obtain ⟨w, hw, rfl⟩ := Option.map_eq_some_iff.mp
    (List.getElem?_map .. ▸ List.mem_zipIdx_iff_getElem?.mp hindex)
  exact ⟨done, w, hdone, hmem, hw,
    errors_of_not_failed hdone hmem (List.mem_of_getElem? hw) hfailed⟩

theorem cleared_or_overtaken_of_origin {path : String} {x : Origin}
    (h : plan.run request = .ok outcomes) (hx : plan.origin? outcomes path = some x) :
    x.chain.Cleared request x.index ∨ x.chain.Overtaken request x.index := by
  obtain ⟨done, w, hdone, -, hw, herrors⟩ := walk_of_origin h hx
  exact Chain.cleared_or_overtaken hdone hw herrors

/-- Where an origin is overtaken, the report has errors, though none at its place. -/
theorem errors_of_overtaken_origin {path : String} {x : Origin}
    (h : plan.run request = .ok outcomes) (hx : plan.origin? outcomes path = some x)
    (hovertaken : x.chain.Overtaken request x.index) :
    (Report.ofOutcomes outcomes).errors ≠ [] := by
  obtain ⟨done, w, hdone, houtcome, -⟩ := walk_of_origin h hx
  intro hnone
  have herrors : (x.chain.outcome done).errors = [] := List.flatMap_eq_nil_iff.mp hnone _ houtcome
  have hisEmpty : (x.chain.outcome done).isEmpty = false := by
    rw [Chain.isEmpty_outcome, Chain.anyErrors_of_overtaken hdone hovertaken]
    rfl
  rw [ChainOutcome.isEmpty, herrors] at hisEmpty
  cases hisEmpty

end

/-! ## Checks -/

/-- **When matched values are checked.** Each value that the report on a plan matches comes from a
target that has passed all checks of its chain, but those behind a condition that has stopped it,
exactly when none of these targets is overtaken by a bail, in front of a check that it had still to
pass, because of errors of others. -/
theorem matchedCleared_iff (plan : SchemaPlan) (request : Request) :
    MatchedCleared plan request ↔ NoneOvertaken plan request := by
  constructor
  · intro hcleared outcomes hrun path x hx hovertaken
    obtain ⟨v, hmem⟩ := origin_matched hrun hx
    obtain ⟨y, hy, -, hy'⟩ := hcleared outcomes hrun path v hmem
    obtain rfl := Option.some.inj (hx.symm.trans hy)
    exact Chain.not_cleared_of_overtaken hovertaken hy'
  · intro hnone outcomes hrun path v hmem
    obtain ⟨x, hx, hv⟩ := (mem_matched_iff_origin hrun path v).mp hmem
    have hcases := cleared_or_overtaken_of_origin hrun hx
    exact ⟨x, hx, hv, hcases.resolve_right (hnone outcomes hrun path x hx)⟩

/-- Tags of letters, at least three. The first error will do. -/
def letterTags : FieldSchema where
  locations := some (.many ["body"])
  rules := [("isAlpha", .modified { bail := true }),
    ("isLength", .modified { arguments := some (.object [("min", .int 3)]) })]

/-- A request whose first tag has a digit and whose second tag is too short. -/
def digitAndShort : Request :=
  { body := .object [("tags", .array [.string "ok1", .string "no"])] }

/-- The short tag as a target. -/
def shortTag : Occurrence := ⟨.body, "tags[1]", "tags.*", some (.string "no")⟩

/-- There is an error for the digit. -/
def digitError : Violation := ⟨.body, "tags[0]", some (.string "ok1"), defaultMessage⟩

def digitTag : Occurrence := ⟨.body, "tags[0]", "tags.*", some (.string "ok1")⟩

/-- The short tag is matched, although its length is not checked. -/
theorem short_tag_matched :
    ¬ MatchedCleared (Schema.plan ⟨[("tags.*", letterTags)]⟩ Location.all) digitAndShort := by
  intro h
  have hrun : (Schema.plan ⟨[("tags.*", letterTags)]⟩ Location.all).run digitAndShort =
      .ok [⟨["tags.*"], [.body], [digitError], [digitTag, shortTag]⟩] := by cbv
  have hmatched : (Report.ofOutcomes
      [⟨["tags.*"], [.body], [digitError], [digitTag, shortTag]⟩]).matched =
        [("tags[1]", .string "no")] := by cbv
  obtain ⟨x, hx, -, hcleared⟩ :=
    h _ hrun "tags[1]" (.string "no") (hmatched ▸ List.mem_singleton_self _)
  have horigin : (Schema.plan ⟨[("tags.*", letterTags)]⟩ Location.all).origin?
      [⟨["tags.*"], [.body], [digitError], [digitTag, shortTag]⟩] "tags[1]" =
        some ⟨letterTags.chain "tags.*" Location.all, 1, shortTag⟩ := by cbv
  obtain rfl := Option.some.inj (horigin.symm.trans hx)
  have hwalks : (letterTags.chain "tags.*" Location.all).walksBefore digitAndShort 1 =
      some [⟨digitTag, [digitError], false⟩, ⟨shortTag, [], false⟩] := by cbv
  exact Chain.not_cleared_of_overtaken
    ⟨1, 2, _, _, _, by decide, rfl, rfl, hwalks, rfl, rfl, rfl⟩ hcleared

/-- The matched values of a report without errors are checked. -/
theorem cleared_of_outcome_ok {plan : SchemaPlan} {request : Request}
    {outcomes : List ChainOutcome} (hrun : plan.run request = .ok outcomes) {ms : Members Json}
    (hok : (Report.ofOutcomes outcomes).outcome = .ok ms) {path : String} {v : Json}
    (hmem : (path, v) ∈ ms) :
    ∃ x, plan.origin? outcomes path = some x ∧ x.occurrence.value = some v ∧
      x.chain.Cleared request x.index := by
  have hnone : (Report.ofOutcomes outcomes).errors = [] :=
    (Report.outcome_isOk_iff _).mp (by rw [hok]; rfl)
  have hms : ms = (Report.ofOutcomes outcomes).matched := by
    unfold Report.outcome at hok
    split at hok
    · exact (Except.ok.inj hok).symm
    · cases hok
  obtain ⟨x, hx, hv⟩ := (mem_matched_iff_origin hrun path v).mp (hms ▸ hmem)
  have hcases := cleared_or_overtaken_of_origin hrun hx
  exact ⟨x, hx, hv, hcases.resolve_right fun h => errors_of_overtaken_origin hrun hx h hnone⟩

end RequestValidation
