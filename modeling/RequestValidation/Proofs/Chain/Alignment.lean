import RequestValidation.Proofs.Chain.Calls
import RequestValidation.Proofs.Chain.Progress
import RequestValidation.Proofs.Request.Places
/-!
# Outcomes beside the selection

A run works on the occurrences that were selected and not skipped, and on no others. Whatever the
steps do to their values, an occurrence stays where it is and stays missing or not, so the data of
an outcome stand beside the selection one by one, and the errors beside the data in blocks.

Results:
* `Step.Takes.keeps`, `runSteps_keeps`: a step, and a run, keeps what an occurrence is.
* `outcome_inBlocks`: the errors of an outcome come occurrence by occurrence.
* `outcome_aligned`: an outcome beside the selection.
-/
namespace RequestValidation

/-- The second occurrence is the first one, with a value of its own unless it is missing. -/
structure Occurrence.Keeps (o o' : Occurrence) : Prop where
  location : o'.location = o.location
  path : o'.path = o.path
  field : o'.field = o.field
  missing : o'.value = none ↔ o.value = none

namespace Occurrence.Keeps

theorem refl (o : Occurrence) : o.Keeps o := ⟨rfl, rfl, rfl, Iff.rfl⟩

theorem trans {o o' o'' : Occurrence} (h : o.Keeps o') (h' : o'.Keeps o'') : o.Keeps o'' :=
  ⟨h'.location.trans h.location, h'.path.trans h.path, h'.field.trans h.field,
    h'.missing.trans h.missing⟩

end Occurrence.Keeps

namespace ChainOutcome

/-- The errors come in blocks, one for each occurrence of the data, at the place of that. -/
structure InBlocks (r : ChainOutcome) (blocks : List (List Violation)) : Prop where
  errors : r.errors = blocks.flatten
  places : List.Forall₂ (fun o es => ∀ e ∈ es, Violation.IsAt e o) r.data blocks

/-- The data are the selected occurrences in their order, no two at one place, and the errors come
occurrence by occurrence. -/
structure AlignedWith (r : ChainOutcome) (selected : List Occurrence) : Prop where
  data : List.Forall₂ Occurrence.Keeps selected r.data
  apart : r.data.Pairwise fun a b => (a.location, a.path) ≠ (b.location, b.path)
  errors : ∃ blocks, r.InBlocks blocks

end ChainOutcome

section
variable {request : Request} {chain : Option Message}

/-! ## Steps and runs -/

theorem Step.Takes.keeps {s : Step} {w w' : Walk} (h : s.Takes request chain w w') :
    w.current.Keeps w'.current := by
  cases h with
  | stopped | checked | judged | passed => exact .refl w.current
  | changed _ ho =>
    obtain ⟨value, hvalue, rfl⟩ := sanitized_ok_iff.mp ho
    exact ⟨rfl, rfl, rfl, Rule.change_eq_none_iff hvalue⟩

theorem runSteps_keeps {steps : List Step} {walks done : List Walk}
    (h : runSteps request chain steps walks = .ok done) :
    List.Forall₂ (fun w w' => w.current.Keeps w'.current) walks done :=
  runSteps_of_takes (fun w => .refl w.current) (fun _ _ _ => .trans)
    (fun _ _ _ => Step.Takes.keeps) h

/-! ## The outcome -/

/-- The errors of an outcome are those of its walks, one walk after the other. -/
theorem outcome_inBlocks (c : Chain) {steps : List Step} {targets : List Occurrence}
    {done : List Walk} (h : runSteps request chain steps (targets.map Walk.start) = .ok done) :
    (c.outcome done).InBlocks (done.map (·.errors)) where
  errors := rfl
  places := by
    have hstart := List.forall₂_map_left_iff.mp (runSteps_later h)
    have hhere : ∀ w ∈ done, ∀ e ∈ w.errors, e.IsAt w.current := by
      intro w hw e he
      obtain ⟨o, -, how⟩ := exists_of_forall₂ hstart.flip hw
      obtain ⟨hl, hp⟩ := how.errors_of_start e he
      exact ⟨hl.trans how.location.symm, hp.trans how.path.symm⟩
    rw [Chain.outcome, List.forall₂_map_left_iff, List.forall₂_map_right_iff]
    exact List.forall₂_same.mpr hhere

/-- What keeps a list of occurrences keeps them apart. -/
theorem apart_of_keeps {selected data : List Occurrence}
    (h : List.Forall₂ Occurrence.Keeps selected data)
    (hapart : selected.Pairwise fun a b => (a.location, a.path) ≠ (b.location, b.path)) :
    data.Pairwise fun a b => (a.location, a.path) ≠ (b.location, b.path) := by
  have hplaces : data.map (fun o => (o.location, o.path)) =
      selected.map fun o => (o.location, o.path) :=
    map_eq_map_of_forall₂ (h.flip.imp fun o' o ho => by rw [ho.location, ho.path])
  rw [← List.pairwise_map] at hapart ⊢
  rwa [hplaces]

theorem aligned_with_targets {c : Chain} {r : ChainOutcome} (h : c.run request = .ok r) :
    r.AlignedWith (c.targets request) := by
  obtain ⟨done, hdone, rfl⟩ := run_eq_ok_iff.mp h
  have hdata : List.Forall₂ Occurrence.Keeps (c.targets request) (c.outcome done).data := by
    rw [Chain.outcome, List.forall₂_map_right_iff]
    exact List.forall₂_map_left_iff.mp (runSteps_keeps hdone)
  have hapart := (pairwise_occurrences request c.fields c.locations).sublist
    (List.filter_sublist (p := fun o => !c.optional.any (·.covers o.value)))
  exact ⟨hdata, apart_of_keeps hdata hapart, _, outcome_inBlocks c hdone⟩

end

/-- **Outcomes stay aligned with the selection.** Of a chain, built on by any calls, the data are
the selected occurrences in their order, but for those whose selected values the last mode skips,
wherever that was set: each at its place and missing just if it was, no two at one place, with the
errors one occurrence after the other. -/
theorem outcome_aligned {c : Chain} {calls : List Chain.Call} {request : Request}
    {r : ChainOutcome} (h : (c.build calls).run request = .ok r) :
    r.AlignedWith
      ((occurrences request (c.build calls).fields (c.build calls).locations).filter fun o =>
        !((Chain.lastOf Chain.Call.absence? calls).or c.optional).any (·.covers o.value)) := by
  have haligned := aligned_with_targets h
  rwa [Chain.targets, Chain.build_optional] at haligned

/-- A check of tags, which may be falsy; that is said behind a sanitizer. -/
def tagCalls : List Chain.Call :=
  [.rule .trim [], .rule .optional [.object [("checkFalsy", .bool true)]], .rule .isAlpha []]

/-- What the check comes to if the first tag is a blank, the second is nothing and the third is
well. -/
def tagOutcome : ChainOutcome where
  fields := ["tags.*"]
  locations := [.body]
  errors := [⟨.body, "tags[0]", some (.string ""), defaultMessage⟩]
  data := [⟨.body, "tags[0]", "tags.*", some (.string "")⟩,
    ⟨.body, "tags[2]", "tags.*", some (.string "b")⟩]

/-- The blank is not skipped, though it is nothing once it is trimmed. -/
theorem tags_aligned :
    ((Chain.new "tags.*" [.body] none).build tagCalls).run
        { body := .object [("tags", .array [.string " ", .string "", .string "b "])] } =
      .ok tagOutcome ∧
    tagOutcome.AlignedWith [⟨.body, "tags[0]", "tags.*", some (.string " ")⟩,
      ⟨.body, "tags[2]", "tags.*", some (.string "b ")⟩] := by
  have hrun : ((Chain.new "tags.*" [.body] none).build tagCalls).run
      { body := .object [("tags", .array [.string " ", .string "", .string "b "])] } =
        .ok tagOutcome := by rfl
  exact ⟨hrun, outcome_aligned hrun⟩

end RequestValidation
