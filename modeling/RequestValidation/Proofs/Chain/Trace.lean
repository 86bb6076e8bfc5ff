import RequestValidation.Proofs.Chain.Progress
/-!
# Step by step

`Chain.walksBefore` follows the run of a chain: the walks in front of a step, as long as no bail has
ended the run. With it one can say what becomes of the checks of a target: each is made and passes,
or a condition has stopped the target before, or a bail has ended the run before.

Results:
* `walksBefore_succ_iff`, `exists_walkBefore_of_le`: from a step to the next, and between any two.
* `stoppedBefore_of_stopped`: a walk that has stopped was stopped by a condition.
* `exists_last_step`: a run ends behind its last step, or at a bail with errors in front of it.
* `not_cleared_of_overtaken`, `cleared_or_overtaken`: a target without errors is cleared unless it
  is overtaken.
* `anyErrors_of_overtaken`: where a target is overtaken there are errors.
-/
namespace RequestValidation
namespace Chain

/-- The walks of a chain in front of a step, unless the run has ended before. -/
def walksBefore (request : Request) (c : Chain) : Nat → Option (List Walk)
  | 0 => some ((c.targets request).map Walk.start)
  | n + 1 => do
    let walks ← c.walksBefore request n
    let s ← c.steps[n]?
    if s.isBail && anyErrors walks then none
    else (walks.mapM (s.advance request c.message)).toOption

/-- The walk of one target in front of a step. -/
def walkBefore (request : Request) (c : Chain) (n i : Nat) : Option Walk :=
  (c.walksBefore request n).bind (·[i]?)

/-- A check is made of a target, and no verdict goes against it. -/
def Passes (request : Request) (c : Chain) (n i : Nat) (v : Validation) : Prop :=
  ∃ w, c.walkBefore request n i = some w ∧ w.stopped = false ∧
    v.complaints request c.message w.current = .ok []

/-- A condition in front of a step stops a target. -/
def StoppedBefore (request : Request) (c : Chain) (n i : Nat) : Prop :=
  ∃ m d w, m < n ∧ c.steps[m]? = some (.condition d) ∧ c.walkBefore request m i = some w ∧
    w.stopped = false ∧ d.holds request w = .ok false

/-- A target passes every check but those behind a condition that stops it. -/
def Cleared (request : Request) (c : Chain) (i : Nat) : Prop :=
  ∀ n v, c.steps[n]? = some (.validation v) →
    c.Passes request n i v ∨ c.StoppedBefore request n i

/-- A bail that finds errors ends the run in front of a check, with a target that is still going. -/
def Overtaken (request : Request) (c : Chain) (i : Nat) : Prop :=
  ∃ k n v walks w, k < n ∧ c.steps[k]? = some .bail ∧ c.steps[n]? = some (.validation v) ∧
    c.walksBefore request k = some walks ∧ anyErrors walks = true ∧
    walks[i]? = some w ∧ w.stopped = false

section
variable {request : Request} {c : Chain} {m n i : Nat}

/-! ## From step to step -/

theorem walksBefore_succ_iff {next : List Walk} :
    c.walksBefore request (n + 1) = some next ↔ ∃ walks s, c.walksBefore request n = some walks ∧
      c.steps[n]? = some s ∧ ¬ (s = .bail ∧ anyErrors walks = true) ∧
        List.Forall₂ (s.Takes request c.message) walks next := by
  have htakes : ∀ (s : Step) (walks : List Walk),
      (walks.mapM (s.advance request c.message)).toOption = some next ↔
        List.Forall₂ (s.Takes request c.message) walks next := by
    intro s walks
    rw [← mapM_advance_eq_ok_iff]
    cases walks.mapM (s.advance request c.message) <;> simp [Except.toOption]
  simp only [walksBefore, Option.bind_eq_bind, Option.bind_eq_some_iff]
  constructor
  · rintro ⟨walks, hwalks, s, hs, h⟩
    split at h
    · cases h
    · rename_i hgoes
      rw [Bool.and_eq_true, isBail_iff] at hgoes
      exact ⟨walks, s, hwalks, hs, hgoes, (htakes s walks).mp h⟩
  · rintro ⟨walks, s, hwalks, hs, hgoes, h⟩
    refine ⟨walks, hwalks, s, hs, ?_⟩
    rw [if_neg, (htakes s walks).mpr h]
    rwa [Bool.and_eq_true, isBail_iff]

theorem exists_walksBefore_of_le {walks : List Walk} (hmn : m ≤ n)
    (h : c.walksBefore request n = some walks) :
    ∃ walks', c.walksBefore request m = some walks' := by
  induction hmn generalizing walks with
  | refl => exact ⟨walks, h⟩
  | step _ ih =>
    obtain ⟨walks', -, hwalks', -⟩ := walksBefore_succ_iff.mp h
    exact ih hwalks'

/-- A target takes the steps that all targets take. -/
theorem walkBefore_succ {w' : Walk} (h : c.walkBefore request (n + 1) i = some w') :
    ∃ w s, c.walkBefore request n i = some w ∧ c.steps[n]? = some s ∧
      s.Takes request c.message w w' := by
  obtain ⟨next, hnext, hw'⟩ := Option.bind_eq_some_iff.mp h
  obtain ⟨walks, s, hwalks, hs, -, htakes⟩ := walksBefore_succ_iff.mp hnext
  obtain ⟨w, hw, htake⟩ := getElem?_of_forall₂ htakes.flip hw'
  exact ⟨w, s, Option.bind_eq_some_iff.mpr ⟨walks, hwalks, hw⟩, hs, htake⟩

/-- A target that has come to a step has come to every earlier one, and if it had stopped there it
is stopped still. -/
theorem exists_walkBefore_of_le {w' : Walk} (hmn : m ≤ n)
    (h : c.walkBefore request n i = some w') :
    ∃ w, c.walkBefore request m i = some w ∧ w.Later w' ∧
      (w.stopped = true → w'.stopped = true) := by
  induction hmn generalizing w' with
  | refl => exact ⟨w', h, .refl w', id⟩
  | step _ ih =>
    obtain ⟨v, s, hv, -, htake⟩ := walkBefore_succ h
    obtain ⟨w, hw, hlater, hstays⟩ := ih hv
    exact ⟨w, hw, hlater.trans htake.later, fun hstopped => htake.stopped_of (hstays hstopped)⟩

/-- A walk that has stopped was stopped by a condition. -/
theorem stoppedBefore_of_stopped {w : Walk} (h : c.walkBefore request n i = some w)
    (hstopped : w.stopped = true) : c.StoppedBefore request n i := by
  induction n generalizing w with
  | zero =>
    obtain ⟨walks, hwalks, hw⟩ := Option.bind_eq_some_iff.mp h
    obtain rfl := Option.some.inj hwalks
    obtain ⟨o, -, rfl⟩ := Option.map_eq_some_iff.mp (List.getElem?_map .. ▸ hw)
    cases hstopped
  | succ n ih =>
    obtain ⟨v, s, hv, hs, htake⟩ := walkBefore_succ h
    cases hgoing : v.stopped with
    | true =>
      obtain ⟨m, d, u, hm, hrest⟩ := ih hv hgoing
      exact ⟨m, d, u, Nat.lt_succ_of_lt hm, hrest⟩
    | false =>
      obtain ⟨d, rfl, hd⟩ := htake.stops hgoing hstopped
      exact ⟨n, d, v, Nat.lt_succ_self n, hs, hv, hgoing, hd⟩

theorem StoppedBefore.mono (hmn : m ≤ n) (h : c.StoppedBefore request m i) :
    c.StoppedBefore request n i := by
  obtain ⟨k, d, w, hk, hrest⟩ := h
  exact ⟨k, d, w, Nat.lt_of_lt_of_le hk hmn, hrest⟩

/-- A target that a condition has stopped is not going at a later step. -/
theorem StoppedBefore.stopped {w : Walk} (h : c.StoppedBefore request n i)
    (hw : c.walkBefore request n i = some w) : w.stopped = true := by
  obtain ⟨m, d, v, hm, hd, hv, hgoing, hholds⟩ := h
  obtain ⟨v', hv', -, hstays⟩ := exists_walkBefore_of_le (Nat.succ_le_of_lt hm) hw
  obtain ⟨u, s, hu, hs, htake⟩ := walkBefore_succ hv'
  obtain rfl := Option.some.inj (hv.symm.trans hu)
  obtain rfl := Option.some.inj (hd.symm.trans hs)
  refine hstays ?_
  cases htake with
  | stopped hstopped => rw [hgoing] at hstopped; cases hstopped
  | judged _ hproceed =>
    rw [hholds] at hproceed
    obtain rfl := Except.ok.inj hproceed
    rfl

/-! ## The end of a run -/

/-- A run ends behind the last step, or at a bail with errors in front of it. -/
theorem exists_last_step {done : List Walk}
    (h : runSteps request c.message c.steps ((c.targets request).map Walk.start) = .ok done) :
    ∃ k, c.walksBefore request k = some done ∧
      (c.steps.length ≤ k ∨ c.steps[k]? = some .bail ∧ anyErrors done = true) := by
  suffices key : ∀ (rest : List Step) (n : Nat) (walks : List Walk), c.steps.drop n = rest →
      c.walksBefore request n = some walks → runSteps request c.message rest walks = .ok done →
      ∃ k, c.walksBefore request k = some done ∧
        (c.steps.length ≤ k ∨ c.steps[k]? = some .bail ∧ anyErrors done = true) from
    key c.steps 0 _ List.drop_zero rfl h
  -- on the steps that remain
  intro rest
  induction rest with
  | nil =>
    intro n walks hdrop hwalks hrun
    rw [runSteps_nil] at hrun
    obtain rfl := Except.ok.inj hrun
    exact ⟨n, hwalks, .inl (List.drop_eq_nil_iff.mp hdrop)⟩
  | cons s rest ih =>
    intro n walks hdrop hwalks hrun
    have hs : c.steps[n]? = some s := by
      rw [← List.head?_drop, hdrop, List.head?_cons]
    rcases runSteps_cons_inv hrun with ⟨rfl, herrors, rfl⟩ | ⟨hgoes, next, hnext, hrun⟩
    · exact ⟨n, hwalks, .inr ⟨hs, herrors⟩⟩
    · refine ih (n + 1) next ?_ ?_ hrun
      · rw [← List.tail_drop, hdrop, List.tail_cons]
      · exact walksBefore_succ_iff.mpr ⟨walks, s, hwalks, hs, hgoes, hnext⟩

/-- Behind a bail with errors in front of it no walks come to a step. -/
theorem le_of_walksBefore {walks walks' : List Walk} {k : Nat} (hbail : c.steps[k]? = some .bail)
    (hk : c.walksBefore request k = some walks) (herrors : anyErrors walks = true)
    (hn : c.walksBefore request n = some walks') : n ≤ k := by
  refine Nat.le_of_not_lt fun hlt => ?_
  obtain ⟨next, hnext⟩ := exists_walksBefore_of_le (Nat.succ_le_of_lt hlt) hn
  obtain ⟨walks, s, hk', hs, hgoes, -⟩ := walksBefore_succ_iff.mp hnext
  obtain rfl := Option.some.inj (hk.symm.trans hk')
  exact hgoes ⟨Option.some.inj (hs.symm.trans hbail), herrors⟩

/-! ## Cleared and overtaken targets -/

/-- A target that a bail overtakes does not come to all its checks. -/
theorem not_cleared_of_overtaken (h : c.Overtaken request i) : ¬ c.Cleared request i := by
  obtain ⟨k, n, v, walks, w, hkn, hbail, hv, hwalks, herrors, hw, hgoing⟩ := h
  intro hcleared
  have hlast : ∀ {m u}, c.walkBefore request m i = some u → m ≤ k := by
    intro m u hu
    obtain ⟨walks', hwalks', -⟩ := Option.bind_eq_some_iff.mp hu
    exact le_of_walksBefore hbail hwalks herrors hwalks'
  rcases hcleared n v hv with ⟨u, hu, -⟩ | ⟨m, d, u, hm, hd, hu, hrest⟩
  · exact absurd (hlast hu) (Nat.not_le_of_lt hkn)
  · have hmk : m < k := by
      refine Nat.lt_of_le_of_ne (hlast hu) fun e => ?_
      rw [e, hbail] at hd
      cases hd
    have hstopped : w.stopped = true :=
      StoppedBefore.stopped ⟨m, d, u, hmk, hd, hu, hrest⟩
        (Option.bind_eq_some_iff.mpr ⟨walks, hwalks, hw⟩)
    rw [hgoing] at hstopped
    cases hstopped

/-- A target that comes to the end of the run without an error has passed every check it came to;
if it is not cleared, a bail has overtaken it. -/
theorem cleared_or_overtaken {done : List Walk} {w : Walk}
    (hrun : runSteps request c.message c.steps ((c.targets request).map Walk.start) = .ok done)
    (hw : done[i]? = some w) (hnone : w.errors = []) :
    c.Cleared request i ∨ c.Overtaken request i := by
  obtain ⟨k, hk, hend⟩ := exists_last_step hrun
  have hwk : c.walkBefore request k i = some w := Option.bind_eq_some_iff.mpr ⟨done, hk, hw⟩
  refine Classical.or_iff_not_imp_right.mpr fun hnot n v hv => ?_
  by_cases hnk : n < k
  · -- the check is made in front of the end, unless the target has stopped
    obtain ⟨w', hw', hlater, -⟩ := exists_walkBefore_of_le (Nat.succ_le_of_lt hnk) hwk
    obtain ⟨u, s, hu, hs, htake⟩ := walkBefore_succ hw'
    obtain rfl := Option.some.inj (hv.symm.trans hs)
    cases htake with
    | stopped hstopped => exact .inr (stoppedBefore_of_stopped hu hstopped)
    | checked hgoing hes =>
      obtain ⟨more, hmore, -⟩ := hlater.errors
      rw [hnone, eq_comm, List.append_eq_nil_iff, List.append_eq_nil_iff] at hmore
      exact .inl ⟨u, hu, hgoing, hmore.1.2 ▸ hes⟩
  · -- the run has ended at a bail in front of the check
    have hn : n < c.steps.length := (List.getElem?_eq_some_iff.mp hv).1
    obtain ⟨hbail, herrors⟩ := hend.resolve_left (by omega)
    have hkn : k < n := by
      refine Nat.lt_of_le_of_ne (Nat.le_of_not_lt hnk) fun e => ?_
      rw [e, hv] at hbail
      cases hbail
    cases hgoing : w.stopped with
    | true => exact .inr ((stoppedBefore_of_stopped hwk hgoing).mono (Nat.le_of_lt hkn))
    | false => exact absurd ⟨k, n, v, done, w, hkn, hbail, hv, hk, herrors, hw, hgoing⟩ hnot

/-- Where a target is overtaken, the run ends with errors. -/
theorem anyErrors_of_overtaken {done : List Walk}
    (hrun : runSteps request c.message c.steps ((c.targets request).map Walk.start) = .ok done)
    (h : c.Overtaken request i) : anyErrors done = true := by
  obtain ⟨k, n, v, walks, w, hkn, hbail, hv, hwalks, herrors, -⟩ := h
  obtain ⟨m, hm, hend | ⟨-, hdone⟩⟩ := exists_last_step hrun
  · have hn : n < c.steps.length := (List.getElem?_eq_some_iff.mp hv).1
    have hmk : m ≤ k := le_of_walksBefore hbail hwalks herrors hm
    omega
  · exact hdone

end

end Chain

end RequestValidation
