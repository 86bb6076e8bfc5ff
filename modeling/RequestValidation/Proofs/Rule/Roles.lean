import RequestValidation.Proofs.Rule.Items
/-!
# Rules in their roles

A rule is looked up in three places: among the checks of whole values, among the tests of texts and
among the changes. Each of them knows its own rules only, and of another rule it says that this does
not belong there. Together they know the whole catalogue, so that is never said of a validator that
checks or of a sanitizer that changes, whatever else is wrong with its arguments.

Results:
* `message_mem_roleTexts_iff`: no other fault has the text of one that blames the role of a rule.
* `spares_checker_iff`, `spares_ofRule_iff`: the rules whose role is not blamed when they check, and
  when they change.
-/
namespace RequestValidation

namespace ArgumentError

/-- Whether a fault lies not in the arguments of a rule but in where the rule stands. -/
def BlamesRole : ArgumentError → Prop
  | notTextValidator => True
  | sanitizerAsValidator => True
  | validatorAsSanitizer => True
  | _ => False

/-- The texts of the faults that blame the role of a rule. -/
def roleTexts : List String :=
  ["sanitizers cannot be used as validators", "not a text validator",
    "validators cannot be used as sanitizers"]

theorem not_mem_roleTexts {front : String} (h : ∀ t ∈ roleTexts, ¬ front.toList <+: t.toList)
    (rest : String) : front ++ rest ∉ roleTexts := fun hmem =>
  h _ hmem ⟨rest.toList, String.toList_append.symm⟩

/-- The texts of all other faults begin in another way. -/
theorem message_mem_roleTexts_iff (e : ArgumentError) : e.message ∈ roleTexts ↔ e.BlamesRole := by
  delta message
  cases e with
  | notTextValidator | sanitizerAsValidator | validatorAsSanitizer =>
    exact iff_of_true (by simp [roleTexts]) trivial
  | negativeLength | invalidPattern => exact iff_of_false (by simp [roleTexts]) id
  | _ =>
    refine iff_of_false ?_ id
    simp only [String.append_assoc]
    exact not_mem_roleTexts (by decide) _

end ArgumentError

/-! ## Readers of arguments -/

/-- Whether a computation does not fail with the role of a rule to blame. -/
def Spares {α : Type} (x : Except ArgumentError α) : Prop := ∀ e, x = .error e → ¬ e.BlamesRole

theorem spares_ok {α : Type} (a : α) : Spares (.ok a) := nofun

theorem spares_error {α : Type} {e : ArgumentError} (h : ¬ e.BlamesRole) :
    Spares (.error e : Except ArgumentError α) := by
  rintro _ ⟨⟩
  exact h

theorem Spares.bind {α β : Type} {x : Except ArgumentError α} {f : α → Except ArgumentError β}
    (hx : Spares x) (hf : ∀ a, Spares (f a)) : Spares (x >>= f) := by
  intro e he
  rcases bind_error_iff.mp he with he | ⟨a, -, he⟩
  · exact hx e he
  · exact hf a e he

theorem Spares.map {α β : Type} {x : Except ArgumentError α} (hx : Spares x) (f : α → β) :
    Spares (x.map f) := fun e he =>
  hx e (map_error_iff.mp he)

section
variable (args : Arguments) (i : Nat) (o : Options) (key : String)

theorem spares_text? : Spares (args.text? i) := by
  unfold Arguments.text?
  split
  · exact spares_ok _
  · exact spares_ok _
  · exact spares_ok _
  · exact spares_ok _
  · exact spares_error id

theorem spares_text : Spares (args.text i) := by
  refine (spares_text? args i).bind fun s => ?_
  cases s with
  | some s => exact spares_ok s
  | none => exact spares_error id

theorem spares_array : Spares (args.array i) := by
  unfold Arguments.array
  split
  · exact spares_ok _
  · exact spares_error id
  · exact spares_error id

theorem spares_options : Spares (args.options i) := by
  unfold Arguments.options
  split
  · exact spares_ok _
  · exact spares_ok _
  · exact spares_error id

theorem spares_flag : Spares (o.flag key) := by
  unfold Options.flag
  split
  · exact spares_ok _
  · exact spares_ok _
  · exact spares_error id

theorem spares_bound? : Spares (o.bound? key) := by
  unfold Options.bound?
  split
  · exact spares_ok _
  · exact spares_ok _
  · split
    · exact spares_ok _
    · exact spares_error id
  · exact spares_error id

theorem spares_texts? : Spares (o.texts? key) := by
  unfold Options.texts?
  split
  · exact spares_ok _
  · exact spares_ok _
  · exact spares_error id

theorem spares_bounds : Spares (Bounds.read o) :=
  (spares_bound? o _).bind fun _ => (spares_bound? o _).bind fun _ =>
    (spares_bound? o _).bind fun _ => (spares_bound? o _).bind fun _ => spares_ok _

end

/-! ## What rules make of their arguments -/

section
variable (args : Arguments) (o : Options)

theorem spares_uuidVersion? : Spares (TextTest.uuidVersion? args) := by
  refine (spares_text? args 0).bind fun v => ?_
  cases v with
  | none => exact spares_ok _
  | some v =>
    dsimp only
    split
    · exact spares_ok _
    · split
      · exact spares_ok _
      · exact spares_error id

theorem spares_radix? : Spares (Change.radix? args) := by
  refine (spares_text? args 0).bind fun s => ?_
  cases s with
  | none => exact spares_ok _
  | some s =>
    dsimp only
    split
    · exact spares_ok _
    · exact spares_error id

theorem spares_lengthTest : Spares (TextTest.lengthTest o) := by
  refine (spares_bound? o "min").bind fun min => (spares_bound? o "max").bind fun max => ?_
  split
  · exact spares_error id
  · exact spares_ok _

theorem spares_patternTest : Spares (TextTest.patternTest args) := by
  refine (spares_text args 0).bind fun source => (spares_text? args 1).bind fun flags => ?_
  dsimp only
  split
  · exact spares_ok _
  · exact spares_error id

theorem spares_presenceTest : Spares (Rule.presenceTest o) := by
  refine (spares_flag o _).bind fun falsy => ?_
  split
  · exact spares_ok _
  · refine (spares_flag o _).bind fun null => ?_
    split <;> exact spares_ok _

theorem spares_sizeTest : Spares (Rule.sizeTest o) :=
  (spares_bound? o _).bind fun _ => (spares_bound? o _).bind fun _ => spares_ok _

end

namespace Rule

variable {r : Rule} (args : Arguments)

/-- The tests of texts know all validators that do not judge values as a whole. -/
theorem spares_textTest (hr : r.role = .validator) (hwhole : ¬ r.JudgesWhole) :
    Spares (TextTest.ofRule r args) := by
  cases r with
  | notEmpty | isEmail | isIso8601 | isHexadecimal | isAlpha | isAlphanumeric | isLowercase
  | isUppercase => exact spares_ok _
  | isEmpty | isNumeric | isBoolean | isJson =>
    exact (spares_options args 0).bind fun o => (spares_flag o _).bind fun _ => spares_ok _
  | isInt | isFloat =>
    exact (spares_options args 0).bind fun o => (spares_bounds o).bind fun _ => spares_ok _
  | isUrl =>
    exact (spares_options args 0).bind fun o => (spares_texts? o _).bind fun _ => spares_ok _
  | isUuid => exact (spares_uuidVersion? args).bind fun _ => spares_ok _
  | isLength => exact (spares_options args 0).bind spares_lengthTest
  | isIn => exact (spares_array args 0).bind fun _ => spares_ok _
  | equals | contains => exact (spares_text args 0).bind fun _ => spares_ok _
  | matching => exact spares_patternTest args
  | present | optional | isArray | isObject | isString => exact absurd (by decide) hwhole
  | _ => cases hr

/-- What judges values as a whole is a validator. -/
theorem role_of_judgesWhole (h : r.JudgesWhole) : r.role = .validator := by
  simp only [JudgesWhole, List.mem_cons, List.not_mem_nil, or_false] at h
  rcases h with rfl | rfl | rfl | rfl | rfl <;> rfl

theorem spares_checker_of_judgesWhole (h : r.JudgesWhole) : Spares (r.checker args) := by
  simp only [JudgesWhole, List.mem_cons, List.not_mem_nil, or_false] at h
  rcases h with rfl | rfl | rfl | rfl | rfl
  · exact (spares_options args 0).bind fun o => (spares_presenceTest o).bind fun _ => spares_ok _
  · exact spares_ok _
  · exact (spares_options args 0).bind fun o => (spares_sizeTest o).bind fun _ => spares_ok _
  · exact spares_ok _
  · exact spares_ok _

/-- As a check the role of a rule is not blamed just if the rule is a validator. -/
theorem spares_checker_iff : Spares (r.checker args) ↔ r.role = .validator := by
  by_cases hwhole : r.JudgesWhole
  · exact iff_of_true (spares_checker_of_judgesWhole args hwhole) (role_of_judgesWhole hwhole)
  · rw [checker_eq_textVerdicts hwhole]
    cases hr : r.role with
    | validator =>
      rw [if_pos (by simp [checks, hr])]
      exact iff_of_true ((spares_textTest args hr hwhole).map _) rfl
    | sanitizer =>
      rw [if_neg (by simp [checks, hr])]
      exact iff_of_false (fun h => h _ rfl trivial) nofun

/-- As a change the role of a rule is not blamed just if the rule is a sanitizer. -/
theorem spares_ofRule_iff : Spares (Change.ofRule r args) ↔ r.role = .sanitizer := by
  cases r with
  | trim | trimLeft | trimRight | toBoolean =>
    exact iff_of_true ((spares_text? args 0).bind fun _ => spares_ok _) rfl
  | escape | toFloat | toLowerCase | toUpperCase | toDate => exact iff_of_true (spares_ok _) rfl
  | toInt => exact iff_of_true ((spares_radix? args).bind fun _ => spares_ok _) rfl
  | blacklist | whitelist =>
    exact iff_of_true ((spares_text args 0).bind fun _ => spares_ok _) rfl
  | _ => exact iff_of_false (fun h => h _ rfl trivial) nofun

end Rule

end RequestValidation
