import RequestValidation.Proofs.Rule.Faults
import RequestValidation.Proofs.Traversal
/-!
# Occurrences on their own

A chain takes each step over all its occurrences before the next one. Here the same steps are read
the other way round: `walkAlone` takes one occurrence through the first steps by itself, and
`Chain.cut` is the step behind which nothing happens any more: the first bail in front of which
some occurrence has an error.

Results:
* `advance_bind_finish`, `advance_error`: one step on one occurrence, and on which it fails.
* `runSteps_eq_alone`: the steps on all occurrences together are the steps on each, up to the cut.
* `run_eq_map`: a chain gives the outcome of its walks.
* `run_eq_ends`, `run_refines_alone`: a chain gives what its occurrences come to on their own.
-/
namespace RequestValidation

/-- What some steps leave of an occurrence. -/
structure Remains where
  occurrence : Occurrence
  errors : List Violation

/-- What is seen of an occurrence that has come to a value. -/
def Occurrence.view (o : Occurrence) (request : Request) (value : Option Json) : FieldView :=
  ⟨o.location, o.path, value, request⟩

/-- The text of an error: that of the validator, else that of the chain, else the default. -/
def Validation.wording (v : Validation) (chain : Option Message) (view : FieldView) : String :=
  match v.message, chain with
  | some own, _ => own.render view
  | none, some general => general.render view
  | none, none => defaultMessage

/-- An error for each verdict that goes against the occurrence. -/
def Validation.complaints (v : Validation) (request : Request) (chain : Option Message)
    (o : Occurrence) : Except InvalidArguments (List Violation) :=
  match v.rule.verdicts v.args o.value with
  | .error cause => .error ⟨v.rule, cause⟩
  | .ok verdicts => .ok ((verdicts.filter fun d => d.passed == v.negated).map fun d =>
      ⟨o.location, o.path, d.value, v.wording chain (o.view request d.value)⟩)

/-- The occurrence with the value that a sanitizer makes of its own. -/
def Sanitization.sanitized (s : Sanitization) (o : Occurrence) :
    Except InvalidArguments Occurrence :=
  match s.rule.change s.args o.value with
  | .error cause => .error ⟨s.rule, cause⟩
  | .ok value => .ok { o with value }

/-- The occurrences of some fields in some locations, without those whose values a mode skips. -/
def selectedFor (request : Request) (fields : List String) (locations : List Location)
    (mode : Option Absence) : List Occurrence :=
  (occurrences request fields locations).filter fun o => !mode.any (·.covers o.value)

/-- Have all occurrences come to their ends, and one of them with an error? -/
def endsInErrors : Except InvalidArguments (List Remains) → Bool
  | .ok remains => remains.any (!·.errors.isEmpty)
  | .error _ => false

def Step.isBail : Step → Bool
  | .bail => true
  | _ => false

/-- The position of the first bail in front of which there are errors, or else the end. -/
def cut (steps : List Step) (ends : Nat → Except InvalidArguments (List Remains)) : Nat :=
  ((List.range steps.length).find? fun n =>
    steps[n]?.any Step.isBail && endsInErrors (ends n)).getD steps.length

mutual

/-- Does the condition hold for an occurrence on its own? -/
def Condition.judge (request : Request) : Condition → Occurrence → Except InvalidArguments Bool
  | .predicate holds, o => .ok (holds (o.view request o.value))
  | .chain c, _ => do
    let outcome ← c.runAlone request
    .ok outcome.errors.isEmpty

/-- The first steps, as many as are said, on one occurrence alone. Bails count for nothing, and a
condition that does not hold ends the walk. -/
def walkAlone (request : Request) (chain : Option Message) :
    List Step → Nat → Occurrence → Except InvalidArguments Remains
  | [], _, o => .ok ⟨o, []⟩
  | _ :: _, 0, o => .ok ⟨o, []⟩
  | .validation v :: rest, n + 1, o => do
    let errors ← v.complaints request chain o
    let later ← walkAlone request chain rest n o
    .ok ⟨later.occurrence, errors ++ later.errors⟩
  | .sanitization s :: rest, n + 1, o => do
    let o ← s.sanitized o
    walkAlone request chain rest n o
  | .condition c :: rest, n + 1, o => do
    let proceed ← c.judge request o
    if proceed then walkAlone request chain rest n o else .ok ⟨o, []⟩
  | .bail :: rest, n + 1, o => walkAlone request chain rest n o

/-- The outcome of a chain whose occurrences walk alone up to the cut. -/
def Chain.runAlone (request : Request) : Chain → Except InvalidArguments ChainOutcome
  | ⟨fields, locations, message, steps, optional, _⟩ => do
    let ends := fun n =>
      (selectedFor request fields locations optional).mapM (walkAlone request message steps n)
    let remains ← ends (cut steps ends)
    .ok ⟨fields, locations, remains.flatMap (·.errors), remains.map (·.occurrence)⟩

end

namespace Chain

/-- What the occurrences of a chain come to on their own by its first steps. -/
def ends (request : Request) (c : Chain) (n : Nat) : Except InvalidArguments (List Remains) :=
  (selectedFor request c.fields c.locations c.optional).mapM (walkAlone request c.message c.steps n)

/-- The outcome of a chain whose occurrences have come to their ends. -/
def gather (c : Chain) (remains : List Remains) : ChainOutcome :=
  ⟨c.fields, c.locations, remains.flatMap (·.errors), remains.map (·.occurrence)⟩

theorem runAlone_eq (request : Request) (c : Chain) :
    c.runAlone request = (c.ends request (cut c.steps (c.ends request))).map c.gather := by
  obtain ⟨fields, locations, message, steps, optional, negateNext⟩ := c
  simp only [runAlone, ends]
  rfl

end Chain

/-! ## One step on one occurrence -/

theorem complaints_ok_iff {request : Request} {chain : Option Message} {v : Validation}
    {o : Occurrence} {es : List Violation} :
    v.complaints request chain o = .ok es ↔ ∃ verdicts,
      v.rule.verdicts v.args o.value = .ok verdicts ∧
        es = (verdicts.filter fun d => d.passed == v.negated).map fun d =>
          ⟨o.location, o.path, d.value, v.wording chain (o.view request d.value)⟩ := by
  unfold Validation.complaints
  cases v.rule.verdicts v.args o.value <;> simp [eq_comm]

theorem sanitized_ok_iff {s : Sanitization} {o o' : Occurrence} :
    s.sanitized o = .ok o' ↔ ∃ value,
      s.rule.change s.args o.value = .ok value ∧ o' = { o with value } := by
  unfold Sanitization.sanitized
  cases s.rule.change s.args o.value <;> simp [eq_comm]

section
variable (request : Request) (chain : Option Message)

theorem validate_eq (v : Validation) (w : Walk) :
    w.validate request chain v =
      (v.complaints request chain w.current).map fun es => { w with errors := w.errors ++ es } := by
  have wording : ∀ d : Verdict, w.errorFor request v.message chain d =
      ⟨w.current.location, w.current.path, d.value,
        v.wording chain (w.current.view request d.value)⟩ := by
    intro d
    unfold Walk.errorFor Walk.messageText Validation.wording
    cases v.message <;> cases chain <;> rfl
  unfold Walk.validate Validation.complaints Walk.blame
  cases v.rule.verdicts v.args w.current.value with
  | error cause => rfl
  | ok verdicts =>
    delta Except.mapError
    simp [bind, Except.bind, Except.map, wording]

theorem change_eq (s : Sanitization) (w : Walk) :
    w.change s = (s.sanitized w.current).map fun o => { w with current := o } := by
  unfold Walk.change Sanitization.sanitized Walk.blame
  cases s.rule.change s.args w.current.value <;> rfl

/-- What a walk has come to. -/
def Walk.remains (w : Walk) : Remains := ⟨w.current, w.errors⟩

/-- What a walk comes to by some more steps on its own. -/
def Walk.finish (steps : List Step) (n : Nat) (w : Walk) : Except InvalidArguments Remains :=
  if w.stopped then .ok w.remains
  else (walkAlone request chain steps n w.current).map fun r =>
    ⟨r.occurrence, w.errors ++ r.errors⟩

theorem finish_stopped (steps : List Step) (n : Nat) {w : Walk} (h : w.stopped = true) :
    w.finish request chain steps n = .ok w.remains := by simp [Walk.finish, h]

theorem finish_going (steps : List Step) (n : Nat) {w : Walk} (h : w.stopped = false) :
    w.finish request chain steps n = (walkAlone request chain steps n w.current).map fun r =>
      ⟨r.occurrence, w.errors ++ r.errors⟩ := by simp [Walk.finish, h]

theorem finish_zero (steps : List Step) (w : Walk) :
    w.finish request chain steps 0 = .ok w.remains := by
  unfold Walk.finish
  split
  · rfl
  · cases steps <;> simp [walkAlone, Except.map, Walk.remains]

theorem finish_nil (n : Nat) (w : Walk) : w.finish request chain [] n = .ok w.remains := by
  unfold Walk.finish
  split
  · rfl
  · simp [walkAlone, Except.map, Walk.remains]

/-- The conditions among the steps hold for an occurrence on its own just if they hold for it in
company. -/
def JudgedAlone (steps : List Step) : Prop :=
  ∀ c, .condition c ∈ steps → ∀ w : Walk, c.holds request w = c.judge request w.current

/-- A step and what comes behind it: the step, and then what comes behind it. -/
theorem advance_bind_finish (s : Step) (rest : List Step) (n : Nat) (w : Walk)
    (hj : JudgedAlone request (s :: rest)) :
    (s.advance request chain w >>= Walk.finish request chain rest n) =
      w.finish request chain (s :: rest) (n + 1) := by
  cases hw : w.stopped with
  | true =>
    rw [advance_stopped request chain s w hw, finish_stopped _ _ _ _ hw]
    exact finish_stopped _ _ _ _ hw
  | false =>
    rw [finish_going _ _ _ _ hw]
    cases s with
    | validation v =>
      simp only [Step.advance, hw, walkAlone, validate_eq]
      cases v.complaints request chain w.current with
      | error e => rfl
      | ok es =>
        simp only [bind, Except.bind, Except.map, Bool.false_eq_true, if_false]
        rw [finish_going request chain rest n (w := ⟨w.current, w.errors ++ es, false⟩) rfl]
        cases walkAlone request chain rest n w.current <;> simp [Except.map]
    | sanitization s =>
      simp only [Step.advance, hw, walkAlone, change_eq]
      cases s.sanitized w.current with
      | error e => rfl
      | ok o => exact finish_going request chain rest n (w := ⟨o, w.errors, false⟩) rfl
    | condition c =>
      have hc := hj c List.mem_cons_self w
      simp only [Step.advance, hw, walkAlone, hc]
      cases c.judge request w.current with
      | error e => rfl
      | ok proceed =>
        cases proceed with
        | true =>
          exact finish_going request chain rest n (w := ⟨w.current, w.errors, false⟩) rfl
        | false =>
          have h := finish_stopped request chain rest n (w := ⟨w.current, w.errors, true⟩) rfl
          simpa [bind, Except.bind, Except.map, Walk.remains] using h
    | bail =>
      simp only [Step.advance, walkAlone]
      exact finish_going _ _ _ _ hw

/-- A step that fails on one occurrence fails in the same way on every other that is going. -/
theorem advance_error {s : Step} {w w' : Walk} {e : InvalidArguments}
    (hj : JudgedAlone request [s]) (h : s.advance request chain w' = .error e)
    (hw : w.stopped = false) : s.advance request chain w = .error e := by
  cases hw' : w'.stopped with
  | true => rw [advance_stopped request chain s w' hw'] at h; cases h
  | false =>
    cases s with
    | validation v =>
      simp only [Step.advance, hw, hw', validate_eq, Validation.complaints] at h ⊢
      cases hv : v.rule.verdicts v.args w'.current.value with
      | error cause => simpa [Rule.verdicts_error hv w.current.value, hv, Except.map] using h
      | ok verdicts => simp [hv, Except.map] at h
    | sanitization s =>
      simp only [Step.advance, hw, hw', change_eq, Sanitization.sanitized] at h ⊢
      cases hs : s.rule.change s.args w'.current.value with
      | error cause => simpa [Rule.change_error hs w.current.value, hs, Except.map] using h
      | ok value => simp [hs, Except.map] at h
    | condition c =>
      simp only [Step.advance, hw, hw', hj c List.mem_cons_self] at h ⊢
      cases c with
      | predicate holds => simp [Condition.judge, bind, Except.bind] at h
      | chain sub =>
        simp only [Condition.judge] at h ⊢
        cases hr : sub.runAlone request with
        | error e' => simpa [hr, bind, Except.bind] using h
        | ok outcome => simp [hr, bind, Except.bind] at h
    | bail => simp [Step.advance] at h

end

/-! ## The cut -/

theorem cut_cons (s : Step) (rest : List Step)
    (ends : Nat → Except InvalidArguments (List Remains)) :
    cut (s :: rest) ends =
      if s.isBail && endsInErrors (ends 0) then 0 else cut rest (fun n => ends (n + 1)) + 1 := by
  unfold cut
  rw [List.length_cons, List.range_succ_eq_map, List.find?_cons, List.find?_map]
  simp only [List.getElem?_cons_zero, Option.any_some]
  cases s.isBail && endsInErrors (ends 0) with
  | true => rfl
  | false =>
    simp only [Function.comp_def, List.getElem?_cons_succ, Nat.succ_eq_add_one]
    cases (List.range rest.length).find? fun n =>
      rest[n]?.any Step.isBail && endsInErrors (ends (n + 1)) <;> rfl

theorem eq_bail_of_isBail {s : Option Step} (h : s.any Step.isBail = true) : s = some .bail := by
  rcases s with _ | (_ | _ | _ | _) <;> first | rfl | cases h

/-- The cut is a bail in front of which there are errors, or the end. -/
theorem cut_bail (steps : List Step) (ends : Nat → Except InvalidArguments (List Remains)) :
    cut steps ends = steps.length ∨
      steps[cut steps ends]? = some .bail ∧ endsInErrors (ends (cut steps ends)) = true := by
  unfold cut
  cases h : (List.range steps.length).find? fun n =>
      steps[n]?.any Step.isBail && endsInErrors (ends n) with
  | none => exact Or.inl rfl
  | some n =>
    have hn := List.find?_some h
    simp only [Bool.and_eq_true] at hn
    exact Or.inr ⟨eq_bail_of_isBail hn.1, hn.2⟩

/-- No bail in front of the cut has errors in front of it. -/
theorem cut_least (steps : List Step) (ends : Nat → Except InvalidArguments (List Remains))
    {n : Nat} (hn : n < cut steps ends) (hb : steps[n]? = some .bail) :
    endsInErrors (ends n) = false := by
  have hlt : n < steps.length := (List.getElem?_eq_some_iff.mp hb).1
  unfold cut at hn
  cases h : (List.range steps.length).find? fun n =>
      steps[n]?.any Step.isBail && endsInErrors (ends n) with
  | none =>
    have := List.find?_eq_none.mp h n (List.mem_range.mpr hlt)
    simpa [hb, Step.isBail] using this
  | some m =>
    rw [h] at hn
    have := (List.find?_range_eq_some.mp h).2.2 n hn
    simpa [hb, Step.isBail] using this

/-! ## The run of a chain -/

section
variable (request : Request) (chain : Option Message)

theorem runSteps_cons (s : Step) (rest : List Step) (walks : List Walk) :
    runSteps request chain (s :: rest) walks =
      if s.isBail && anyErrors walks then .ok walks
      else walks.mapM (s.advance request chain) >>= runSteps request chain rest := by
  cases s <;> rfl

/-- The steps on all occurrences together leave of each what they leave of it alone, up to the
cut. A fault is the same on both sides. -/
theorem runSteps_eq_alone (steps : List Step) (hj : JudgedAlone request steps)
    (walks : List Walk) :
    (runSteps request chain steps walks).map (List.map Walk.remains) =
      walks.mapM (Walk.finish request chain steps
        (cut steps fun n => walks.mapM (Walk.finish request chain steps n))) := by
  -- by induction on the steps, for all walks: a step hands its walks on to the rest
  induction steps generalizing walks with
  | nil =>
    rw [runSteps_nil, mapM_eq_ok_map fun w _ => finish_nil request chain _ w]
    rfl
  | cons s rest ih =>
    have hzero : walks.mapM (Walk.finish request chain (s :: rest) 0) =
        .ok (walks.map Walk.remains) := mapM_eq_ok_map fun w _ => finish_zero request chain _ w
    have hany : endsInErrors (walks.mapM (Walk.finish request chain (s :: rest) 0)) =
        anyErrors walks := by
      simp [hzero, endsInErrors, anyErrors, Walk.remains, List.any_map, Function.comp_def]
    have hnext : ∀ n, (fun w => s.advance request chain w >>= Walk.finish request chain rest n) =
        Walk.finish request chain (s :: rest) (n + 1) :=
      fun n => funext fun w => advance_bind_finish request chain s rest n w hj
    rw [runSteps_cons, cut_cons, hany]
    split
    · rw [hzero]
      rfl
    · simp only [← hnext]
      cases ha : walks.mapM (s.advance request chain) with
      | error e =>
        rw [mapM_bind_of_error ha]
        · rfl
        · intro w _
          obtain ⟨w', -, hw'⟩ := exists_of_mapM_error ha
          cases hw : w.stopped with
          | true =>
            right
            rw [advance_stopped request chain s w hw]
            exact ⟨w.remains, finish_stopped request chain rest _ hw⟩
          | false =>
            left
            refine advance_error request chain (fun c hc => hj c ?_) hw' hw
            rw [List.mem_singleton] at hc
            exact hc ▸ List.mem_cons_self
      | ok next =>
        simp only [mapM_bind_of_ok ha]
        exact ih (fun c hc => hj c (List.mem_cons_of_mem _ hc)) next

theorem finish_start (steps : List Step) (n : Nat) (o : Occurrence) :
    (Walk.start o).finish request chain steps n = walkAlone request chain steps n o := by
  rw [finish_going request chain steps n rfl]
  simp only [Walk.start, List.nil_append]
  cases walkAlone request chain steps n o <;> rfl

theorem mapM_finish_start (steps : List Step) (n : Nat) (os : List Occurrence) :
    (os.map Walk.start).mapM (Walk.finish request chain steps n) =
      os.mapM (walkAlone request chain steps n) := by
  rw [List.mapM_map]
  exact congrArg (os.mapM ·) (funext fun o => finish_start request chain steps n o)

end

section
variable (request : Request)

/-- A chain takes its steps over its occurrences, and its outcome is that of their walks. -/
theorem run_eq_map (c : Chain) :
    c.run request = (runSteps request c.message c.steps ((c.targets request).map Walk.start)).map
      c.outcome := by
  obtain ⟨fields, locations, message, steps, optional, negateNext⟩ := c
  rw [Chain.run]
  rfl

theorem Chain.outcome_eq_gather (c : Chain) (walks : List Walk) :
    c.outcome walks = c.gather (walks.map Walk.remains) := by
  simp [Chain.outcome, Chain.gather, Walk.remains, List.flatMap_map, Function.comp_def]

theorem run_eq_of_judgedAlone (c : Chain) (hj : JudgedAlone request c.steps) :
    c.run request = c.runAlone request := by
  have hgather : c.outcome = c.gather ∘ List.map Walk.remains := funext c.outcome_eq_gather
  have hrun : c.run request =
      ((runSteps request c.message c.steps ((c.targets request).map Walk.start)).map
        (List.map Walk.remains)).map c.gather := by
    rw [run_eq_map, hgather]
    cases runSteps request c.message c.steps ((c.targets request).map Walk.start) <;> rfl
  rw [hrun, runSteps_eq_alone request c.message c.steps hj, Chain.runAlone_eq]
  simp only [mapM_finish_start]
  rfl

mutual

/-- A condition holds for an occurrence on its own just if it holds for it in company. -/
theorem holds_eq_judge : ∀ (c : Condition) (w : Walk), c.holds request w = c.judge request w.current
  | .predicate _, _ => rfl
  | .chain ⟨fields, locations, message, steps, optional, negateNext⟩, w => by
    have hr := run_eq_of_judgedAlone request
      ⟨fields, locations, message, steps, optional, negateNext⟩ (judgedAlone steps)
    simp only [Condition.holds, Condition.judge, hr]
    rfl

theorem judgedAlone : ∀ steps : List Step, JudgedAlone request steps
  | [] => fun _ hc => absurd hc List.not_mem_nil
  | .condition d :: rest => fun c hc w => by
    rcases List.mem_cons.mp hc with h | h
    · cases h
      exact holds_eq_judge d w
    · exact judgedAlone rest c h w
  | .validation _ :: rest => fun c hc => by
    rcases List.mem_cons.mp hc with h | h
    · cases h
    · exact judgedAlone rest c h
  | .sanitization _ :: rest => fun c hc => by
    rcases List.mem_cons.mp hc with h | h
    · cases h
    · exact judgedAlone rest c h
  | .bail :: rest => fun c hc => by
    rcases List.mem_cons.mp hc with h | h
    · cases h
    · exact judgedAlone rest c h

end

/-- A chain gives what its occurrences come to on their own, up to the cut. -/
theorem run_eq_ends (c : Chain) :
    c.run request = (c.ends request (cut c.steps (c.ends request))).map c.gather := by
  rw [run_eq_of_judgedAlone request c (judgedAlone request c.steps), Chain.runAlone_eq]

end

/-- The step behind which nothing happens: the first bail in front of which all occurrences have
come to their ends on their own and one of them has an error, or the end of the steps. -/
structure Chain.IsCut (request : Request) (c : Chain) (k : Nat) : Prop where
  here : k = c.steps.length ∨ c.steps[k]? = some .bail ∧
    ∃ remains, c.ends request k = .ok remains ∧ ∃ r ∈ remains, r.errors ≠ []
  first : ∀ j < k, c.steps[j]? = some .bail →
    ∀ remains, c.ends request j = .ok remains → ∀ r ∈ remains, r.errors = []

theorem endsInErrors_iff (ends : Except InvalidArguments (List Remains)) :
    endsInErrors ends = true ↔ ∃ remains, ends = .ok remains ∧ ∃ r ∈ remains, r.errors ≠ [] := by
  cases ends <;> simp [endsInErrors]

theorem isCut_cut (request : Request) (c : Chain) :
    c.IsCut request (cut c.steps (c.ends request)) where
  here := by
    rcases cut_bail c.steps (c.ends request) with h | ⟨hb, he⟩
    · exact Or.inl h
    · exact Or.inr ⟨hb, (endsInErrors_iff _).mp he⟩
  first := by
    intro j hj hb remains hr r hmem
    have hno := cut_least c.steps (c.ends request) hj hb
    refine Classical.byContradiction fun hne => ?_
    have hyes := (endsInErrors_iff _).mpr ⟨remains, hr, r, hmem, hne⟩
    rw [hno] at hyes
    cases hyes

/-- **Refinement.** A chain that takes its steps over all occurrences together gives exactly what
each occurrence comes to alone up to the cut: the errors one occurrence after the other, and the
occurrences in the order in which they were selected. If one of them fails on its own in front of
the cut, the chain fails with the same fault, and otherwise it does not fail. -/
theorem run_refines_alone (request : Request) (c : Chain) :
    ∃ k, c.IsCut request k ∧ c.run request = (c.ends request k).map c.gather :=
  ⟨_, isCut_cut request c, run_eq_ends request c⟩

end RequestValidation
