import Mathlib.Data.List.Forall2
import RequestValidation.Proofs.Schema.Modifiers
/-!
# Uses that nothing is made of

A use of a rule counts if it is switched on and named for a rule. All others leave the chain of
their field as it is, wherever they stand among those that count and whatever modifiers they have.
The ones that are on and not reserved are reported.

Results:
* `addUse_of_not_counts`, `addUses_filter`: what does not count can be left out.
* `addUse_sameTargets`: the uses of rules only queue steps.
* `findings_eq_unknown_uses`: what is reported, in order.
* `ignored_uses_only_reported`: the plan of a schema, with and without such uses.
-/
namespace RequestValidation

/-- Whether the catalogue has a rule of that name. -/
def InCatalogue (key : String) : Prop := ∃ r ∈ Rule.all, r.name = key

/-- Whether a use in a field counts: it is on, and its name is that of a rule and not reserved. -/
def Counts (p : String × RuleUse) : Prop :=
  p.2.isOn = true ∧ p.1 ∉ reservedKeys ∧ InCatalogue p.1

/-- Whether a use would count if there were such a rule. -/
def NamesNoRule (p : String × RuleUse) : Prop :=
  p.2.isOn = true ∧ p.1 ∉ reservedKeys ∧ ¬ InCatalogue p.1

instance (key : String) : Decidable (InCatalogue key) :=
  inferInstanceAs (Decidable (∃ r ∈ Rule.all, r.name = key))

instance : DecidablePred Counts := fun p =>
  inferInstanceAs (Decidable (p.2.isOn = true ∧ p.1 ∉ reservedKeys ∧ InCatalogue p.1))

instance : DecidablePred NamesNoRule := fun p =>
  inferInstanceAs (Decidable (p.2.isOn = true ∧ p.1 ∉ reservedKeys ∧ ¬ InCatalogue p.1))

/-- The field without the uses that do not count. -/
def FieldSchema.pruned (f : FieldSchema) : FieldSchema :=
  { f with rules := f.rules.filter fun p => decide (Counts p) }

namespace Schema

/-- The schema without the uses that do not count. -/
def pruned (s : Schema) : Schema where
  fields := s.fields.map fun p => (p.1, p.2.pruned)

/-- All uses of rules in order, each with its field. -/
def uses (s : Schema) : List (String × String × RuleUse) :=
  s.fields.flatMap fun p => p.2.rules.map fun q => (p.1, q)

end Schema

theorem ofName?_eq_none_iff (key : String) : Rule.ofName? key = none ↔ ¬ InCatalogue key := by
  rw [Rule.ofName?, List.find?_eq_none, InCatalogue]
  simp

theorem isActive_iff (key : String) (u : RuleUse) :
    isActive key u = true ↔ u.isOn = true ∧ key ∉ reservedKeys := by
  rw [isActive, Bool.and_eq_true, and_comm]
  simp

theorem usedRule?_eq_none_iff (p : String × RuleUse) : usedRule? p = none ↔ ¬ Counts p := by
  unfold usedRule? Counts
  split
  · rename_i h
    obtain ⟨hon, hreserved⟩ := (isActive_iff p.1 p.2).mp h
    simp [ofName?_eq_none_iff, hon, hreserved]
  · rename_i h
    simp only [true_iff]
    rintro ⟨hon, hreserved, -⟩
    exact h ((isActive_iff p.1 p.2).mpr ⟨hon, hreserved⟩)

/-- Whether chains look for the same fields in the same locations, with the same message. -/
structure Chain.SameTargets (c d : Chain) : Prop where
  fields : d.fields = c.fields
  locations : d.locations = c.locations
  message : d.message = c.message

namespace Chain

theorem SameTargets.trans {c d e : Chain} (h : c.SameTargets d) (h' : d.SameTargets e) :
    c.SameTargets e :=
  ⟨h'.fields.trans h.fields, h'.locations.trans h.locations, h'.message.trans h.message⟩

theorem ready_sameTargets (c : Chain) (m : Modifiers) : c.SameTargets (c.ready m) := by
  unfold ready
  cases m.condition <;> cases m.negated <;> exact ⟨rfl, rfl, rfl⟩

theorem settled_sameTargets (c : Chain) (m : Modifiers) : c.SameTargets (c.settled m) := by
  unfold settled
  cases m.message <;> cases m.bail <;> exact ⟨rfl, rfl, rfl⟩

theorem rule_sameTargets (c : Chain) (r : Rule) (args : Arguments) :
    c.SameTargets (c.rule r args) := by
  unfold rule
  split
  · exact ⟨rfl, rfl, rfl⟩
  · cases r.role <;> exact ⟨rfl, rfl, rfl⟩

/-- A use of a rule changes nothing but steps. -/
theorem addUse_sameTargets (c : Chain) (p : String × RuleUse) :
    c.SameTargets (c.addUse p.1 p.2) := by
  rw [addUse_eq]
  cases usedRule? p with
  | none => exact ⟨rfl, rfl, rfl⟩
  | some r =>
    cases hr : r.role with
    | validator =>
      simp only [hr, addValidator_eq]
      exact ((ready_sameTargets c _).trans (rule_sameTargets _ r _)).trans
        (settled_sameTargets _ _)
    | sanitizer =>
      simp only [hr]
      exact rule_sameTargets c r _

theorem addUses_sameTargets (c : Chain) (uses : List (String × RuleUse)) :
    c.SameTargets (c.addUses uses) := by
  induction uses generalizing c with
  | nil => exact ⟨rfl, rfl, rfl⟩
  | cons p uses ih => exact (addUse_sameTargets c p).trans (ih _)

/-- A use that does not count leaves the whole chain as it is, what waits in it included. -/
theorem addUse_of_not_counts (c : Chain) {p : String × RuleUse} (h : ¬ Counts p) :
    c.addUse p.1 p.2 = c := by
  rw [addUse_eq, (usedRule?_eq_none_iff p).mpr h]

/-- Uses that do not count can be left out, wherever they stand. -/
theorem addUses_filter (c : Chain) {uses : List (String × RuleUse)} {keep : String × RuleUse → Bool}
    (h : ∀ p ∈ uses, Counts p → keep p = true) :
    c.addUses (uses.filter keep) = c.addUses uses := by
  induction uses generalizing c with
  | nil => rfl
  | cons p uses ih =>
    have hrest := ih (c.addUse p.1 p.2) fun q hq => h q (List.mem_cons_of_mem p hq)
    rw [List.filter_cons]
    split
    · exact hrest
    · rename_i hp
      have hskip := addUse_of_not_counts c (mt (h p List.mem_cons_self) hp)
      rw [hskip] at hrest
      rw [hrest, addUses, addUses, List.foldl_cons, hskip]

end Chain

/-! ## Fields and schemas -/

theorem chain_pruned (f : FieldSchema) (field : String) (defaults : List Location) :
    f.pruned.chain field defaults = f.chain field defaults :=
  Chain.addUses_filter (f.start field defaults) fun _ _ h => decide_eq_true h

theorem unknownRules_eq (f : FieldSchema) :
    f.unknownRules = (f.rules.filter fun p => decide (NamesNoRule p)).map Prod.fst := by
  rw [FieldSchema.unknownRules]
  congr 2
  funext p
  rw [Bool.eq_iff_iff, Bool.and_eq_true, isActive_iff, decide_eq_true_eq, Option.isNone_iff_eq_none,
    ofName?_eq_none_iff, NamesNoRule, and_assoc]

/-- What is reported: the uses that name no rule, field by field and one by one. -/
theorem findings_eq_unknown_uses (s : Schema) (defaults : List Location) :
    (s.plan defaults).findings =
      (s.uses.filter fun q => decide (NamesNoRule q.2)).map fun q => .unknownRule q.1 q.2.1 := by
  rw [Schema.uses, List.filter_flatMap, List.map_flatMap]
  refine congrArg (s.fields.flatMap ·) (funext fun p => ?_)
  rw [unknownRules_eq, List.filter_map, List.map_map, List.map_map]
  rfl

theorem findings_pruned (s : Schema) (defaults : List Location) :
    (s.pruned.plan defaults).findings = [] := by
  rw [findings_eq_unknown_uses, List.map_eq_nil_iff, List.filter_eq_nil_iff]
  rintro ⟨field, key, u⟩ hq
  simp only [Schema.uses, Schema.pruned, FieldSchema.pruned, List.mem_flatMap, List.mem_map] at hq
  obtain ⟨-, ⟨⟨field', f⟩, -, rfl⟩, q, hcounts, ⟨⟩⟩ := hq
  have hcounts := of_decide_eq_true (List.mem_filter.mp hcounts).2
  rw [decide_eq_true_eq]
  exact fun hno => hno.2.2 hcounts.2.2

/-- **Ignored uses.** A schema gives a chain per field in order, which looks for the field in the
locations that are resolved for it, with the message of the field. It reports the uses that are on
and not reserved but name no rule, in order, each once. Without all uses that are off, reserved or
name no rule it gives the very same chains, and reports nothing. -/
theorem ignored_uses_only_reported (s : Schema) (defaults : List Location) :
    List.Forall₂ (fun p c => c.fields = [p.1] ∧
        c.locations = LocationChoice.resolve p.2.locations defaults ∧ c.message = p.2.message)
      s.fields (s.plan defaults).chains ∧
    (s.plan defaults).findings =
      (s.uses.filter fun q => decide (NamesNoRule q.2)).map (fun q => .unknownRule q.1 q.2.1) ∧
    s.pruned.plan defaults = ⟨(s.plan defaults).chains, []⟩ := by
  refine ⟨?_, findings_eq_unknown_uses s defaults, ?_⟩
  · rw [Schema.plan, List.forall₂_map_right_iff, List.forall₂_same]
    intro p _
    have h := Chain.addUses_sameTargets (p.2.start p.1 defaults) p.2.rules
    exact ⟨h.fields, h.locations, h.message⟩
  · have hchains : (s.pruned.plan defaults).chains = (s.plan defaults).chains := by
      rw [Schema.plan, Schema.plan, Schema.pruned, List.map_map]
      exact List.map_congr_left fun p _ => chain_pruned p.2 p.1 defaults
    have hfindings := findings_pruned s defaults
    generalize s.pruned.plan defaults = plan at hchains hfindings
    obtain ⟨chains, findings⟩ := plan
    rw [← hchains, ← hfindings]

end RequestValidation
