import RequestValidation.Proofs.Chain.Alone
import RequestValidation.Proofs.Request.Lookup
/-!
# Required fields

A chain requires its field if it checks, under no condition, that the field is present. A missing
field stays missing whatever the sanitizers do, so it comes to the check, unless a bail ends the
run before, and then there is an error already.

Results:
* `isPresent_missing`: a missing field is not present, in whatever sense.
* `errors_of_required`: a missing field that takes all steps of such a chain has an error.
* `required_not_bypassed`: the chain does not pass a request without its field.
-/
namespace RequestValidation

/-- A check, under no condition, that the field is present. -/
structure Requires (steps : List Step) : Prop where
  unconditional : ∀ condition, .condition condition ∉ steps
  present : ∃ v, .validation v ∈ steps ∧ v.rule = .present ∧ v.negated = false

/-! ## One missing field -/

theorem Rule.isPresent_missing {o : Options} {passed : Bool}
    (h : isPresent o none = .ok passed) : passed = false := by
  unfold isPresent at h
  obtain ⟨falsy, -, h⟩ := bind_ok_iff.mp h
  split at h
  · exact (Except.ok.inj h).symm
  · obtain ⟨null, -, h⟩ := bind_ok_iff.mp h
    split at h
    · exact (Except.ok.inj h).symm
    · exact (Except.ok.inj h).symm

/-- A check for presence gives one verdict on a missing field, against it. -/
theorem Rule.verdicts_missing {args : Arguments} {verdicts : List Verdict}
    (h : present.verdicts args none = .ok verdicts) : verdicts = [⟨none, false⟩] := by
  simp only [Rule.verdicts] at h
  obtain ⟨o, -, h⟩ := bind_ok_iff.mp h
  obtain ⟨passed, hpassed, h⟩ := bind_ok_iff.mp h
  obtain rfl := isPresent_missing hpassed
  exact (Except.ok.inj h).symm

theorem complaints_of_present {v : Validation} (hrule : v.rule = .present)
    (hnegated : v.negated = false) {request : Request} {chain : Option Message} {o : Occurrence}
    (hmissing : o.value = none) {es : List Violation}
    (h : v.complaints request chain o = .ok es) : es ≠ [] := by
  obtain ⟨verdicts, hverdicts, rfl⟩ := complaints_ok_iff.mp h
  rw [hmissing, hrule] at hverdicts
  obtain rfl := Rule.verdicts_missing hverdicts
  simp [hnegated]

theorem sanitized_missing {s : Sanitization} {o o' : Occurrence} (hmissing : o.value = none)
    (h : s.sanitized o = .ok o') : o'.value = none := by
  obtain ⟨value, hvalue, rfl⟩ := sanitized_ok_iff.mp h
  rw [hmissing] at hvalue
  exact (Rule.change_eq_none_iff hvalue).mpr rfl

theorem Requires.tail {s : Step} {steps : List Step} (h : Requires (s :: steps))
    (hs : ∀ v, s = .validation v → ¬ (v.rule = .present ∧ v.negated = false)) :
    Requires steps where
  unconditional c hc := h.unconditional c (List.mem_cons_of_mem s hc)
  present := by
    obtain ⟨v, hv, hpresent⟩ := h.present
    rcases List.mem_cons.mp hv with hv | hv
    · exact absurd hpresent (hs v hv.symm)
    · exact ⟨v, hv, hpresent⟩

/-- A missing field that takes all steps of a chain that requires it has an error. -/
theorem errors_of_required {request : Request} {chain : Option Message} {steps : List Step}
    {o : Occurrence} {r : Remains} (hrequired : Requires steps) (hmissing : o.value = none)
    (h : walkAlone request chain steps steps.length o = .ok r) : r.errors ≠ [] := by
  -- on the steps up to the check: what is in front of it leaves the field missing
  induction steps generalizing o r with
  | nil =>
    obtain ⟨v, hv, -⟩ := hrequired.present
    cases hv
  | cons s steps ih =>
    rw [List.length_cons] at h
    cases s with
    | validation v =>
      simp only [walkAlone] at h
      obtain ⟨es, hes, h⟩ := bind_ok_iff.mp h
      obtain ⟨later, hlater, h⟩ := bind_ok_iff.mp h
      obtain rfl := Except.ok.inj h
      by_cases hv : v.rule = .present ∧ v.negated = false
      · exact List.append_ne_nil_of_left_ne_nil
          (complaints_of_present hv.1 hv.2 hmissing hes) _
      · refine List.append_ne_nil_of_right_ne_nil _ (ih (hrequired.tail ?_) hmissing hlater)
        rintro w ⟨⟩
        exact hv
    | sanitization s =>
      simp only [walkAlone] at h
      obtain ⟨o', ho', h⟩ := bind_ok_iff.mp h
      exact ih (hrequired.tail (by simp)) (sanitized_missing hmissing ho') h
    | condition c => exact absurd List.mem_cons_self (hrequired.unconditional c)
    | bail =>
      simp only [walkAlone] at h
      exact ih (hrequired.tail (by simp)) hmissing h

/-! ## The chain -/

/-- **A required field cannot be left out.** A chain for one field without wildcards, with some
locations, not optional, that requires the field, fails or finds an error in every request that
has the field in none of its locations. -/
theorem required_not_bypassed {request : Request} {c : Chain} {field : String}
    (hfields : c.fields = [field]) (hfree : WildcardFree field) (hlocations : c.locations ≠ [])
    (hoptional : c.optional = none) (hrequired : Requires c.steps)
    (hmissing : ∀ l ∈ c.locations, lookup? request field l = none) :
    (∃ e, c.run request = .error e) ∨
      ∃ outcome, c.run request = .ok outcome ∧ outcome.errors ≠ [] := by
  have htargets : c.targets request = occurrences request [field] c.locations := by
    unfold Chain.targets
    rw [hfields, hoptional]
    exact List.filter_eq_self.mpr fun _ _ => rfl
  obtain ⟨hsome, hnone⟩ := occurrences_of_no_lookup hfree hlocations hmissing
  rw [← htargets] at hsome hnone
  rw [run_eq_ends]
  have hcut := isCut_cut request c
  generalize cut c.steps (c.ends request) = k at hcut ⊢
  cases hends : c.ends request k with
  | error e => exact .inl ⟨e, rfl⟩
  | ok remains =>
    suffices h : ∃ r ∈ remains, r.errors ≠ [] by
      obtain ⟨r, hr, hne⟩ := h
      refine .inr ⟨c.gather remains, rfl, fun h => hne ?_⟩
      exact List.flatMap_eq_nil_iff.mp h r hr
    rcases hcut.here with rfl | ⟨-, remains', hends', herror⟩
    · -- no bail has ended the run, so every occurrence has come to the check
      obtain ⟨o, ho⟩ := List.exists_mem_of_ne_nil _ hsome
      obtain ⟨r, hr, hwalk⟩ := exists_of_mapM_ok hends ho
      exact ⟨r, hr, errors_of_required hrequired (hnone o ho) hwalk⟩
    · rw [hends] at hends'
      obtain rfl := Except.ok.inj hends'
      exact herror

/-- A chain that wants a field with any value but `null`, after it has been trimmed and checked. -/
def wantsToken : Chain where
  fields := ["Token"]
  locations := [.headers, .body]
  message := none
  steps := [.sanitization ⟨.trim, []⟩, .validation ⟨.isUuid, [], true, none⟩, .bail,
    .validation ⟨.present, [.object [("checkNull", .bool true)]], false, none⟩]
  optional := none
  negateNext := false

/-- A body whose member is spelled in small letters does not have the field. -/
theorem wantsToken_not_bypassed :
    wantsToken.fields = ["Token"] ∧ WildcardFree "Token" ∧ wantsToken.locations ≠ [] ∧
      wantsToken.optional = none ∧ Requires wantsToken.steps ∧
      (∀ l ∈ wantsToken.locations,
        lookup? { body := .object [("token", .int 1)] } "Token" l = none) ∧
      ((∃ e, wantsToken.run { body := .object [("token", .int 1)] } = .error e) ∨
        ∃ outcome, wantsToken.run { body := .object [("token", .int 1)] } = .ok outcome ∧
          outcome.errors ≠ []) := by
  have hrequired : Requires wantsToken.steps :=
    ⟨fun c hc => by simp [wantsToken] at hc, ⟨_, List.mem_of_getElem? (i := 3) rfl, rfl, rfl⟩⟩
  have hmissing : ∀ l ∈ wantsToken.locations,
      lookup? { body := .object [("token", .int 1)] } "Token" l = none := by
    intro l hl
    have : l = .headers ∨ l = .body := by simpa [wantsToken] using hl
    rcases this with rfl | rfl <;> rfl
  exact ⟨rfl, by decide, by decide, rfl, hrequired, hmissing,
    required_not_bypassed rfl (by decide) (by decide) rfl hrequired hmissing⟩

end RequestValidation
