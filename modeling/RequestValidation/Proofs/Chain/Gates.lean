import RequestValidation.Proofs.Chain.Progress
/-!
# Gates

A chain as a condition is judged on the request, never on what the outer chain has made of its
values, so it says the same of every occurrence: it is a gate on all that comes behind it. If the
inner chain finds an error, every occurrence stops here and the outer chain gives what the steps in
front of the gate give. If it finds none, the gate might as well not be there.

Results:
* `runSteps_append_congr`: steps with the same results can stand for one another behind other steps.
* `runSteps_stopped`: where all have stopped, nothing happens any more.
* `outcome_behind_closed`, `runSteps_behind_open`: what the two kinds of gate come to.
* `gate_on_rest`: the run of a chain with a gate.
-/
namespace RequestValidation

/-- The chain with other steps. -/
def Chain.withSteps (c : Chain) (steps : List Step) : Chain := { c with steps }

section
variable {request : Request} {chain : Option Message}

/-- Steps with the same results can stand for one another behind other steps. -/
theorem runSteps_append_congr {α : Type} {result : List Walk → α} {rest rest' : List Step}
    (h : ∀ walks, (runSteps request chain rest walks).map result =
      (runSteps request chain rest' walks).map result) (front : List Step) (walks : List Walk) :
    (runSteps request chain (front ++ rest) walks).map result =
      (runSteps request chain (front ++ rest') walks).map result := by
  induction front generalizing walks with
  | nil => exact h walks
  | cons s front ih =>
    simp only [List.cons_append, runSteps_cons]
    split
    · rfl
    · cases walks.mapM (s.advance request chain) with
      | error e => rfl
      | ok next => exact ih next

/-- Where all have stopped, nothing happens any more. -/
theorem runSteps_stopped {walks : List Walk} (h : ∀ w ∈ walks, w.stopped = true)
    (steps : List Step) : runSteps request chain steps walks = .ok walks := by
  induction steps with
  | nil => exact runSteps_nil request chain walks
  | cons s steps ih =>
    have hstay : walks.mapM (s.advance request chain) = .ok walks := by
      rw [mapM_eq_ok_iff]
      exact List.forall₂_same.mpr fun w hw => advance_stopped request chain s w (h w hw)
    rw [runSteps_cons]
    split
    · rfl
    · rw [hstay]
      exact ih

/-! ## Two kinds of gate -/

variable {gate : Chain} {verdict : ChainOutcome}

/-- A gate is judged on the request alone, and so in the same way for every walk. -/
theorem holds_of_gate (hgate : gate.run request = .ok verdict) (w : Walk) :
    (Condition.chain gate).holds request w = .ok verdict.isEmpty := by
  rw [Condition.holds, hgate]
  rfl

/-- A gate ends every walk if its chain has found an error, and else leaves it as it is. -/
theorem advance_gate (hgate : gate.run request = .ok verdict) (w : Walk) :
    (Step.condition (.chain gate)).advance request chain w =
      .ok { w with stopped := w.stopped || !verdict.isEmpty } := by
  rw [advance_eq_ok_iff]
  cases hw : w.stopped with
  | true =>
    have hsame : { w with stopped := true || !verdict.isEmpty } = w := by rw [Bool.true_or, ← hw]
    rw [hsame]
    exact .stopped hw
  | false =>
    rw [Bool.false_or]
    exact .judged hw (holds_of_gate hgate w)

/-- Behind a closed gate a chain comes to what it has come to in front of it. -/
theorem outcome_behind_closed (c : Chain) (hgate : gate.run request = .ok verdict)
    (herrors : verdict.errors ≠ []) (rest : List Step) (walks : List Walk) :
    (runSteps request chain (.condition (.chain gate) :: rest) walks).map c.outcome =
      .ok (c.outcome walks) := by
  have hclosed : verdict.isEmpty = false := by simpa [ChainOutcome.isEmpty] using herrors
  have hrun : runSteps request chain (.condition (.chain gate) :: rest) walks =
      .ok (walks.map fun w => { w with stopped := w.stopped || !verdict.isEmpty }) := by
    rw [runSteps_cons, mapM_eq_ok_map fun w _ => advance_gate hgate w]
    apply runSteps_stopped
    intro w hw
    obtain ⟨w', -, rfl⟩ := List.mem_map.mp hw
    simp [hclosed]
  rw [hrun]
  simp [Except.map, Chain.outcome, List.flatMap_map, Function.comp_def]

/-- An open gate might as well not be there. -/
theorem runSteps_behind_open (hgate : gate.run request = .ok verdict)
    (herrors : verdict.errors = []) (rest : List Step) (walks : List Walk) :
    runSteps request chain (.condition (.chain gate) :: rest) walks =
      runSteps request chain rest walks := by
  have hopen : verdict.isEmpty = true := by simp [ChainOutcome.isEmpty, herrors]
  rw [runSteps_cons, mapM_eq_ok_map fun w _ => advance_gate hgate w]
  simp [hopen, Step.isBail, bind, Except.bind]

end

/-- **A chain as a condition is a gate.** Between any steps it is judged on the request, whatever
the steps in front of it have made of the values. If its chain finds an error, the outer chain runs
as it would with the steps in front of the gate alone; if it finds none, as it would without the
gate. -/
theorem gate_on_rest {c gate : Chain} {front rest : List Step} {request : Request}
    {verdict : ChainOutcome} (hsteps : c.steps = front ++ .condition (.chain gate) :: rest)
    (hgate : gate.run request = .ok verdict) :
    (∀ w, (Condition.chain gate).holds request w = .ok verdict.isEmpty) ∧
      (verdict.errors ≠ [] → c.run request = (c.withSteps front).run request) ∧
      (verdict.errors = [] → c.run request = (c.withSteps (front ++ rest)).run request) := by
  have hrun : ∀ steps, (c.withSteps steps).run request =
      (runSteps request c.message steps ((c.targets request).map Walk.start)).map c.outcome :=
    fun steps => run_eq_map request (c.withSteps steps)
  refine ⟨holds_of_gate hgate, ?_, ?_⟩
  · intro herrors
    have hends : ∀ walks, (runSteps request c.message (.condition (.chain gate) :: rest) walks).map
        c.outcome = (runSteps request c.message [] walks).map c.outcome := by
      intro walks
      rw [outcome_behind_closed c hgate herrors, runSteps_nil]
      rfl
    rw [run_eq_map, hrun, hsteps, runSteps_append_congr hends front, List.append_nil]
  · intro herrors
    have hgoes : ∀ walks, (runSteps request c.message (.condition (.chain gate) :: rest) walks).map
        c.outcome = (runSteps request c.message rest walks).map c.outcome := by
      intro walks
      rw [runSteps_behind_open hgate herrors]
    rw [run_eq_map, hrun, hsteps, runSteps_append_congr hgoes front]

/-- A chain that holds for the name `ann`, letter by letter. -/
def namesAnn : Chain where
  fields := ["name"]
  locations := [.body]
  message := none
  steps := [.validation ⟨.equals, [.string "ann"], false, none⟩]
  optional := none
  negateNext := false

/-- A chain that trims the name in front of a gate, behind which stands a faulty check. -/
def trimsThenAsks : Chain where
  fields := ["name"]
  locations := [.body]
  message := none
  steps := [.sanitization ⟨.trim, []⟩] ++
    .condition (.chain namesAnn) :: [.validation ⟨.isIn, [], false, none⟩]
  optional := none
  negateNext := false

/-- A name with a blank is not let through, though it has been trimmed in front of the gate; the
bare name is, and meets the fault. -/
theorem trimsThenAsks_gated :
    namesAnn.run { body := .object [("name", .string " ann")] } =
        .ok ⟨["name"], [.body], [⟨.body, "name", some (.string " ann"), defaultMessage⟩],
          [⟨.body, "name", "name", some (.string " ann")⟩]⟩ ∧
      trimsThenAsks.run { body := .object [("name", .string " ann")] } =
        .ok ⟨["name"], [.body], [], [⟨.body, "name", "name", some (.string "ann")⟩]⟩ ∧
      namesAnn.run { body := .object [("name", .string "ann")] } =
        .ok ⟨["name"], [.body], [], [⟨.body, "name", "name", some (.string "ann")⟩]⟩ ∧
      trimsThenAsks.run { body := .object [("name", .string "ann")] } =
        .error ⟨.isIn, .required 1⟩ := by
  have hblank : namesAnn.run { body := .object [("name", .string " ann")] } =
      .ok ⟨["name"], [.body], [⟨.body, "name", some (.string " ann"), defaultMessage⟩],
        [⟨.body, "name", "name", some (.string " ann")⟩]⟩ := by rfl
  have hbare : namesAnn.run { body := .object [("name", .string "ann")] } =
      .ok ⟨["name"], [.body], [], [⟨.body, "name", "name", some (.string "ann")⟩]⟩ := by rfl
  obtain ⟨-, hclosed, -⟩ := gate_on_rest (c := trimsThenAsks) rfl hblank
  obtain ⟨-, -, hopen⟩ := gate_on_rest (c := trimsThenAsks) rfl hbare
  refine ⟨hblank, ?_, hbare, ?_⟩
  · rw [hclosed (List.cons_ne_nil _ _)]
    rfl
  · rw [hopen rfl]
    rfl

end RequestValidation
