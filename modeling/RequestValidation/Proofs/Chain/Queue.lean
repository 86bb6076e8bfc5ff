import RequestValidation.Chain.Basic
/-!
# How steps are queued

A chain is built by putting steps behind those that are there. The one call that changes a step
already queued is the one that gives a message: it goes to the last validator, however many other
steps stand behind it, and the last message given is the one that stays.

Results:
* `rule_validator`, `rule_sanitizer`: what a rule queues.
* `said_append`: a message goes to the later steps if there is a validator among them.
* `said_said`: a later message wins.
* `kind_said`, `mem_said`: a message changes no step into another kind of step, and of a validator
  nothing else.
-/
namespace RequestValidation

inductive StepKind where
  | validation
  | sanitization
  | condition
  | bail
deriving DecidableEq, Repr

namespace Step

def kind : Step → StepKind
  | .validation _ => .validation
  | .sanitization _ => .sanitization
  | .condition _ => .condition
  | .bail => .bail

theorem kind_eq_condition_iff {s : Step} : s.kind = .condition ↔ ∃ c, s = .condition c := by
  cases s <;> simp [kind]

theorem kind_eq_bail_iff {s : Step} : s.kind = .bail ↔ s = .bail := by
  cases s <;> simp [kind]

end Step

namespace Chain

theorem rule_validator {r : Rule} (hr : r.role = .validator) (hne : r ≠ .optional) (c : Chain)
    (args : Arguments) :
    c.rule r args =
      { c.addStep (.validation ⟨r, args, c.negateNext, none⟩) with negateNext := false } := by
  rw [rule, if_neg hne, hr]

theorem rule_sanitizer {r : Rule} (hr : r.role = .sanitizer) (c : Chain) (args : Arguments) :
    c.rule r args = c.addStep (.sanitization ⟨r, args⟩) := by
  have hne : r ≠ .optional := by
    rintro rfl
    cases hr
  rw [rule, if_neg hne, hr]

/-- Is there a validator among the steps? -/
def hasValidation (steps : List Step) : Bool := steps.any (·.kind == .validation)

/-- The steps after the last validator, if there is one, is given a message, if there is one. -/
def said (m : Option Message) (steps : List Step) : List Step :=
  match m with
  | none => steps
  | some text => (setLastMessage? text steps).getD steps

theorem hasValidation_iff (steps : List Step) :
    hasValidation steps = true ↔ .validation ∈ steps.map Step.kind := by
  simp [hasValidation]

theorem hasValidation_append (l k : List Step) :
    hasValidation (l ++ k) = (hasValidation l || hasValidation k) := List.any_append

theorem setLastMessage?_cons (m : Message) (s : Step) (rest : List Step) :
    setLastMessage? m (s :: rest) =
      ((setLastMessage? m rest).map (s :: ·)).or
        (match s with
          | .validation v => some (.validation { v with message := some m } :: rest)
          | _ => none) := by
  conv => lhs; unfold setLastMessage?
  cases setLastMessage? m rest with
  | some changed => rfl
  | none => cases s <;> rfl

theorem setLastMessage?_isSome (m : Message) (steps : List Step) :
    (setLastMessage? m steps).isSome = hasValidation steps := by
  induction steps with
  | nil => rfl
  | cons s rest ih =>
    rw [setLastMessage?_cons, Option.isSome_or, Option.isSome_map, ih, hasValidation,
      hasValidation, List.any_cons, Bool.or_comm]
    cases s <;> rfl

theorem setLastMessage?_append (m : Message) (l k : List Step) :
    setLastMessage? m (l ++ k) =
      ((setLastMessage? m k).map (l ++ ·)).or ((setLastMessage? m l).map (· ++ k)) := by
  induction l with
  | nil => cases h : setLastMessage? m k <;> simp [h, setLastMessage?]
  | cons s l ih =>
    rw [List.cons_append, setLastMessage?_cons, ih, setLastMessage?_cons]
    cases setLastMessage? m k with
    | some changed => rfl
    | none =>
      cases setLastMessage? m l with
      | some changed => rfl
      | none => cases s <;> rfl

theorem setLastMessage?_eq_none (m : Message) {steps : List Step}
    (h : hasValidation steps = false) : setLastMessage? m steps = none := by
  refine Option.isNone_iff_eq_none.mp ?_
  rw [← Option.not_isSome, setLastMessage?_isSome, h, Bool.not_false]

/-- A message goes to the later steps if there is a validator among them, else to the earlier. -/
theorem said_append (m : Option Message) (l k : List Step) :
    said m (l ++ k) = if hasValidation k then l ++ said m k else said m l ++ k := by
  cases m with
  | none => simp [said]
  | some text =>
    rw [said, setLastMessage?_append, ← setLastMessage?_isSome text k, said, said]
    cases setLastMessage? text k with
    | some changed => rfl
    | none => cases setLastMessage? text l <;> rfl

theorem said_of_no_validation (m : Option Message) {steps : List Step}
    (h : hasValidation steps = false) : said m steps = steps := by
  cases m with
  | none => rfl
  | some text => rw [said, setLastMessage?_eq_none text h, Option.getD_none]

/-- The validator behind which no other stands gets the message. -/
theorem said_last (m : Option Message) (l : List Step) (v : Validation) {k : List Step}
    (h : hasValidation k = false) :
    said m (l ++ .validation v :: k) =
      l ++ .validation { v with message := m.or v.message } :: k := by
  have hv : hasValidation (.validation v :: k) = true := rfl
  rw [said_append, if_pos hv]
  cases m with
  | none => rfl
  | some text => rw [said, setLastMessage?_cons, setLastMessage?_eq_none text h]; rfl

theorem exists_last_validation {steps : List Step} (h : hasValidation steps = true) :
    ∃ l v k, steps = l ++ .validation v :: k ∧ hasValidation k = false := by
  induction steps with
  | nil => cases h
  | cons s rest ih =>
    cases hrest : hasValidation rest with
    | true =>
      obtain ⟨l, v, k, rfl, hk⟩ := ih hrest
      exact ⟨s :: l, v, k, rfl, hk⟩
    | false =>
      cases s with
      | validation v => exact ⟨[], v, rest, rfl, hrest⟩
      | sanitization | condition | bail => exact absurd (h.symm.trans hrest) (by decide)

/-- A message makes no step one of another kind. -/
theorem kind_said (m : Option Message) (steps : List Step) :
    (said m steps).map Step.kind = steps.map Step.kind := by
  cases h : hasValidation steps with
  | false => rw [said_of_no_validation m h]
  | true =>
    obtain ⟨l, v, k, rfl, hk⟩ := exists_last_validation h
    rw [said_last m l v hk, List.map_append, List.map_append]
    rfl

/-- A message changes no step but a validator, and of that nothing but its message. -/
theorem mem_said {m : Option Message} {steps : List Step} {s : Step} (h : s ∈ said m steps) :
    s ∈ steps ∨
      ∃ v, .validation v ∈ steps ∧ s = .validation { v with message := m.or v.message } := by
  cases hv : hasValidation steps with
  | false =>
    rw [said_of_no_validation m hv] at h
    exact .inl h
  | true =>
    obtain ⟨l, v, k, rfl, hk⟩ := exists_last_validation hv
    rw [said_last m l v hk] at h
    rcases List.mem_append.mp h with h | h
    · exact .inl (List.mem_append_left _ h)
    · rcases List.mem_cons.mp h with rfl | h
      · exact .inr ⟨v, by simp, rfl⟩
      · exact .inl (List.mem_append_right _ (List.mem_cons_of_mem _ h))

theorem hasValidation_said (m : Option Message) (steps : List Step) :
    hasValidation (said m steps) = hasValidation steps := by
  rw [Bool.eq_iff_iff, hasValidation_iff, hasValidation_iff, kind_said]

/-- A later message wins. -/
theorem said_said (m k : Option Message) (steps : List Step) :
    said k (said m steps) = said (k.or m) steps := by
  cases h : hasValidation steps with
  | false => rw [said_of_no_validation m h, said_of_no_validation k h, said_of_no_validation _ h]
  | true =>
    obtain ⟨l, v, rest, rfl, hrest⟩ := exists_last_validation h
    rw [said_last m l v hrest, said_last k l _ hrest, said_last _ l v hrest, Option.or_assoc]

end Chain

end RequestValidation
