import Mathlib.Data.List.Perm.Basic
import RequestValidation.Proofs.Chain.Faults
import RequestValidation.Proofs.Request.OneLocation
import RequestValidation.Proofs.Rule.Items
/-!
# Item by item

All sanitizers and most validators treat an array by treating its items. A chain of such rules comes
to the same whether its field names the array or, with a wildcard, the items: a walk with the array
goes beside walks with the items. The array has its errors step by step, and the items have theirs
one item after the other, so they are the same errors in another order.

Results:
* `SideBySide.changed`, `SideBySide.checked`: a step leaves walks side by side.
* `runSteps_sideBySide`: so does a run, and it fails on the array just as it does on the items.
* `array_runs_as_items`: a chain on an array and on its items.
-/
namespace RequestValidation

/-! ## Side by side -/

/-- What an error says, wherever it is. -/
def Violation.told (e : Violation) : Option Json × String := (e.value, e.message)

namespace Validation

variable (v : Validation)

/-- The errors of an occurrence, by the check that the arguments give. -/
def errorsBy (check : Option Json → List Verdict) (request : Request) (chain : Option Message)
    (o : Occurrence) : List Violation :=
  ((check o.value).filter (·.passed == v.negated)).map fun d =>
    ⟨o.location, o.path, d.value, v.wording chain (o.view request d.value)⟩

/-- What the errors of a value say in fixed words. -/
def toldBy (check : Option Json → List Verdict) (text : String) (value : Option Json) :
    List (Option Json × String) :=
  ((check value).filter (·.passed == v.negated)).map fun d => (d.value, text)

/-- Of an array a test of texts says what it says of the items. -/
theorem toldBy_array (test : TextTest) (text : String) {vs : List Json}
    (hvs : ∀ v ∈ vs, v.IsItem) :
    v.toldBy (Rule.textVerdicts test) text (some (.array vs)) =
      (vs.map some).flatMap (v.toldBy (Rule.textVerdicts test) text) := by
  unfold toldBy
  rw [Rule.textVerdicts_array test hvs, List.filter_flatMap, List.map_flatMap, List.flatMap_map]

end Validation

/-- A walk with an array beside walks with its items. -/
structure SideBySide (whole : Walk) (items : List Walk) : Prop where
  values : ∃ vs, whole.current.value = some (.array vs) ∧
    items.map (·.current.value) = vs.map some ∧ ∀ v ∈ vs, v.IsItem
  errors : (whole.errors.map Violation.told).Perm
    ((items.flatMap (·.errors)).map Violation.told)
  nonempty : items ≠ []
  whole_going : whole.stopped = false
  items_going : ∀ w ∈ items, w.stopped = false

namespace Walk

/-- The walk with a changed value. -/
def changed (change : Change) (w : Walk) : Walk :=
  { w with current := { w.current with value := w.current.value.map change.applyTo } }

/-- The walk with errors that its occurrence brings. -/
def checked (errors : Occurrence → List Violation) (w : Walk) : Walk :=
  { w with errors := w.errors ++ errors w.current }

end Walk

namespace SideBySide

variable {whole : Walk} {items : List Walk}

theorem changed (h : SideBySide whole items) (change : Change) :
    SideBySide (whole.changed change) (items.map (Walk.changed change)) where
  values := by
    obtain ⟨vs, hwhole, hitems, hvs⟩ := h.values
    refine ⟨vs.map change.applyTo, ?_, ?_, ?_⟩
    · simp [Walk.changed, hwhole, Change.applyTo_array hvs]
    · have hvalues := congrArg (List.map (Option.map change.applyTo)) hitems
      simpa [Walk.changed, Function.comp_def] using hvalues
    · intro v hv
      obtain ⟨u, hu, rfl⟩ := List.mem_map.mp hv
      rw [Change.applyTo_item (hvs u hu)]
      exact Change.isItem_apply u.text
  errors := by
    rw [List.flatMap_map]
    exact h.errors
  nonempty := by simpa using h.nonempty
  whole_going := h.whole_going
  items_going := List.forall_mem_map.mpr h.items_going

/-- Errors that an array gets for its items are those that the items get. -/
theorem checked (h : SideBySide whole items) {errors : Occurrence → List Violation}
    {told : Option Json → List (Option Json × String)}
    (htold : ∀ o, (errors o).map Violation.told = told o.value)
    (harray : ∀ vs, (∀ v ∈ vs, v.IsItem) → told (some (.array vs)) = (vs.map some).flatMap told) :
    SideBySide (whole.checked errors) (items.map (Walk.checked errors)) where
  values := by
    obtain ⟨vs, hwhole, hitems, hvs⟩ := h.values
    refine ⟨vs, hwhole, ?_, hvs⟩
    rw [List.map_map]
    exact hitems
  errors := by
    obtain ⟨vs, hwhole, hitems, hvs⟩ := h.values
    have hnew : told whole.current.value = items.flatMap fun w => told w.current.value := by
      rw [hwhole, harray vs hvs, ← hitems, List.flatMap_map]
    have hall : ((items.map (Walk.checked errors)).flatMap (·.errors)).map Violation.told =
        items.flatMap fun w => w.errors.map Violation.told ++ told w.current.value := by
      simp [Walk.checked, List.flatMap_map, List.map_flatMap, htold]
    have hold : (items.flatMap (·.errors)).map Violation.told =
        items.flatMap fun w => w.errors.map Violation.told := List.map_flatMap
    -- the array has the new errors behind all the others, each item has its own behind its others
    calc (whole.checked errors).errors.map Violation.told
        = whole.errors.map Violation.told ++ items.flatMap fun w => told w.current.value := by
          rw [Walk.checked, List.map_append, htold, hnew]
      List.Perm _ ((items.flatMap fun w => w.errors.map Violation.told) ++
            items.flatMap fun w => told w.current.value) := (hold ▸ h.errors).append_right _
      List.Perm _ (items.flatMap fun w => w.errors.map Violation.told ++ told w.current.value) :=
          List.flatMap_append_perm items _ _
      _ = ((items.map (Walk.checked errors)).flatMap (·.errors)).map Violation.told := hall.symm
  nonempty := by simpa using h.nonempty
  whole_going := h.whole_going
  items_going := List.forall_mem_map.mpr h.items_going

end SideBySide

/-! ## Steps and runs -/

/-- Whether a step treats an array item by item, and tells what is wrong in fixed words. -/
def Step.IsItemwise : Step → Prop
  | .validation v => ¬ v.rule.JudgesWhole ∧ ∀ m ∈ v.message, m.IsFixed
  | .sanitization _ => True
  | .condition _ => False
  | .bail => False

theorem Step.IsItemwise.appliesRule {s : Step} (h : s.IsItemwise) : s.AppliesRule := by
  cases s with
  | validation v => trivial
  | sanitization s => trivial
  | condition c => exact h
  | bail => exact h

section
variable (request : Request) {chain : Option Message}

/-- Fixed words are the same for every value. -/
theorem exists_wording {v : Validation} (hv : ∀ m ∈ v.message, m.IsFixed)
    (hchain : ∀ m ∈ chain, m.IsFixed) : ∃ text, ∀ view, v.wording chain view = text := by
  unfold Validation.wording
  cases hm : v.message with
  | some own => exact ⟨own.label, Message.render_of_isFixed (hv own hm)⟩
  | none =>
    cases chain with
    | some general => exact ⟨general.label, Message.render_of_isFixed (hchain general rfl)⟩
    | none => exact ⟨defaultMessage, fun _ => rfl⟩

/-- A sanitizer whose arguments fit changes a walk that is going. -/
theorem advance_changed {s : Sanitization} {change : Change}
    (hchange : Change.ofRule s.rule s.args = .ok change) {w : Walk} (hw : w.stopped = false) :
    (Step.sanitization s).advance request chain w = .ok (w.changed change) := by
  have hvalue : s.rule.change s.args w.current.value =
      .ok (w.current.value.map change.applyTo) := by
    rw [Rule.change, hchange]
    rfl
  exact advance_eq_ok_iff.mpr (.changed hw (sanitized_ok_iff.mpr ⟨_, hvalue, rfl⟩))

/-- A validator whose arguments fit checks a walk that is going. -/
theorem advance_checked {v : Validation} {check : Option Json → List Verdict}
    (hcheck : v.rule.checker v.args = .ok check) {w : Walk} (hw : w.stopped = false) :
    (Step.validation v).advance request chain w =
      .ok (w.checked (v.errorsBy check request chain)) := by
  have hverdicts : v.rule.verdicts v.args w.current.value = .ok (check w.current.value) := by
    rw [Rule.verdicts_eq_map, hcheck]
    rfl
  exact advance_eq_ok_iff.mpr (.checked hw (complaints_ok_iff.mpr ⟨_, hverdicts, rfl⟩))

/-- A step whose arguments fit takes a walk with an array and walks with its items on side by
side. -/
theorem advance_sideBySide (hchain : ∀ m ∈ chain, m.IsFixed) {s : Step} (hs : s.IsItemwise)
    (hfault : s.fault? = none) :
    ∃ next : Walk → Walk,
      (∀ w, w.stopped = false → s.advance request chain w = .ok (next w)) ∧
      ∀ whole items, SideBySide whole items → SideBySide (next whole) (items.map next) := by
  cases s with
  | sanitization s =>
    cases hchange : Change.ofRule s.rule s.args with
    | error cause => simp [Step.fault?, Rule.blamed?, hchange] at hfault
    | ok change =>
      exact ⟨Walk.changed change, fun w => advance_changed request hchange,
        fun _ _ h => h.changed change⟩
  | validation v =>
    obtain ⟨hwhole, hmessage⟩ := hs
    cases hcheck : v.rule.checker v.args with
    | error cause => simp [Step.fault?, Rule.blamed?, hcheck] at hfault
    | ok check =>
      obtain ⟨test, rfl⟩ := Rule.checker_of_not_judgesWhole hwhole hcheck
      obtain ⟨text, htext⟩ := exists_wording hmessage hchain
      have htold : ∀ o, (v.errorsBy (Rule.textVerdicts test) request chain o).map Violation.told =
          v.toldBy (Rule.textVerdicts test) text o.value := by
        intro o
        simp [Validation.errorsBy, Validation.toldBy, Violation.told, htext]
      exact ⟨Walk.checked _, fun w => advance_checked request hcheck,
        fun _ _ h => h.checked htold fun _ => v.toldBy_array test text⟩
  | condition c => exact absurd hs id
  | bail => exact absurd hs id

/-- A run takes a walk with an array and walks with its items on side by side, or fails on both with
the same fault. -/
theorem runSteps_sideBySide (hchain : ∀ m ∈ chain, m.IsFixed) {steps : List Step}
    (hsteps : ∀ s ∈ steps, s.IsItemwise) {whole : Walk} {items : List Walk}
    (h : SideBySide whole items) :
    (∃ e, runSteps request chain steps [whole] = .error e ∧
      runSteps request chain steps items = .error e) ∨
    ∃ whole' items', runSteps request chain steps [whole] = .ok [whole'] ∧
      runSteps request chain steps items = .ok items' ∧ SideBySide whole' items' := by
  -- by induction on the steps: what a step leaves side by side the next ones find so
  induction steps generalizing whole items with
  | nil => exact .inr ⟨whole, items, runSteps_nil _ _ _, runSteps_nil _ _ _, h⟩
  | cons s rest ih =>
    have hs := hsteps s List.mem_cons_self
    have hbail : s.isBail = false := by
      cases s with
      | bail => exact absurd hs id
      | _ => rfl
    simp only [runSteps_cons, hbail, Bool.false_and, Bool.false_eq_true, if_false]
    cases hfault : s.fault? with
    | some e =>
      have hfails : ∀ w, w.stopped = false → s.advance request chain w = .error e :=
        fun w hw => (advance_error_iff hs.appliesRule hw).mpr hfault
      obtain ⟨w, items, rfl⟩ := List.exists_cons_of_ne_nil h.nonempty
      have hw := hfails w (h.items_going w List.mem_cons_self)
      refine .inl ⟨e, ?_, ?_⟩
      · rw [List.mapM_cons, hfails whole h.whole_going]
        rfl
      · rw [List.mapM_cons, hw]
        rfl
    | none =>
      obtain ⟨next, hnext, hbeside⟩ := advance_sideBySide request hchain hs hfault
      have hwhole : ∀ w ∈ [whole], w.stopped = false :=
        List.forall_mem_singleton.mpr h.whole_going
      rw [mapM_eq_ok_map fun w hw => hnext w (hwhole w hw),
        mapM_eq_ok_map fun w hw => hnext w (h.items_going w hw)]
      exact ih (fun t ht => hsteps t (List.mem_cons_of_mem s ht)) (hbeside whole items h)

end

/-! ## Chains -/

/-- A chain that skips nothing, treats an array item by item and tells what is wrong in fixed
words. -/
structure Chain.IsItemwise (c : Chain) : Prop where
  message : ∀ m ∈ c.message, m.IsFixed
  optional : c.optional = none
  steps : ∀ s ∈ c.steps, s.IsItemwise

/-- The chain for one field in one location. -/
def Chain.within (c : Chain) (field : String) (l : Location) : Chain :=
  { c with fields := [field], locations := [l] }

/-- A run on an array and a run on its items fail with the same fault, or both succeed: then the
array is that of the items, in their order, and the errors say the same, in some order. -/
inductive AgreeByItem :
    Except InvalidArguments ChainOutcome → Except InvalidArguments ChainOutcome → Prop
  | failed (e : InvalidArguments) : AgreeByItem (.error e) (.error e)
  | done {whole items : ChainOutcome} {vs : List Json}
      (hwhole : whole.data.map (·.value) = [some (.array vs)])
      (hitems : items.data.map (·.value) = vs.map some)
      (herrors : (whole.errors.map Violation.told).Perm (items.errors.map Violation.told)) :
      AgreeByItem (.ok whole) (.ok items)

theorem Chain.IsItemwise.run_within {c : Chain} (hc : c.IsItemwise) (field : String)
    (l : Location) (request : Request) :
    (c.within field l).run request =
      (runSteps request c.message c.steps ((occurrences request [field] [l]).map .start)).map
        (c.within field l).outcome := by
  have htargets : (c.within field l).targets request = occurrences request [field] [l] := by
    simp [Chain.targets, Chain.within, hc.optional]
  rw [run_eq_map, htargets]
  rfl

/-- At the start an array and its items are side by side. -/
theorem sideBySide_start {whole : Occurrence} {items : List Occurrence} {vs : List Json}
    (hwhole : whole.value = some (.array vs)) (hitems : items.map (·.value) = vs.map some)
    (hne : vs ≠ []) (hvs : ∀ v ∈ vs, v.IsItem) :
    SideBySide (.start whole) (items.map .start) where
  values := by
    refine ⟨vs, hwhole, ?_, hvs⟩
    rw [List.map_map]
    exact hitems
  errors := by
    have hnone : (items.map Walk.start).flatMap (·.errors) = [] := by
      simp [List.flatMap_map, Walk.start]
    rw [hnone]
    exact .nil
  nonempty := by
    intro h
    rw [List.map_eq_nil_iff.mp h] at hitems
    exact hne (List.map_eq_nil_iff.mp hitems.symm)
  whole_going := rfl
  items_going := List.forall_mem_map.mpr fun _ _ => rfl

/-- What walks side by side come to agrees. -/
theorem SideBySide.agree {whole : Walk} {items : List Walk} (h : SideBySide whole items)
    (c d : Chain) : AgreeByItem (.ok (c.outcome [whole])) (.ok (d.outcome items)) := by
  obtain ⟨vs, hwhole, hitems, -⟩ := h.values
  have harray : (c.outcome [whole]).data.map (·.value) = [some (.array vs)] := by
    simp [Chain.outcome, hwhole]
  have hvalues : (d.outcome items).data.map (·.value) = vs.map some := by
    rw [Chain.outcome, List.map_map]
    exact hitems
  have herrors : ((c.outcome [whole]).errors.map Violation.told).Perm
      ((d.outcome items).errors.map Violation.told) := by
    rw [Chain.outcome, Chain.outcome, List.flatMap_singleton]
    exact h.errors
  exact .done harray hvalues herrors

/-- **An array runs as its items.** A chain of rules that treat arrays item by item, on a key under
which there is an array of values that are no arrays, comes to the same as on the items of that
array. -/
theorem array_runs_as_items {c : Chain} (hc : c.IsItemwise) {k : String} (hk : StepKey k)
    {l : Location} (hl : l ≠ .headers) {request : Request} {vs : List Json} (hne : vs ≠ [])
    (hvs : ∀ v ∈ vs, v.IsItem) (harray : (request.location l).member? k = some (.array vs)) :
    AgreeByItem ((c.within k l).run request) ((c.within (k ++ ".*") l).run request) := by
  have hvalues : (occurrences request [k ++ ".*"] [l]).map (·.value) = vs.map some := by
    rw [occurrences_items hk hl harray, List.map_map]
    have hzip : vs.zipIdx.map (some ∘ Prod.fst) = vs.map some := by
      rw [← List.map_map, List.zipIdx_map_fst]
    exact hzip
  have hstart : SideBySide (.start ⟨l, k, k, some (.array vs)⟩)
      ((occurrences request [k ++ ".*"] [l]).map .start) :=
    sideBySide_start rfl hvalues hne hvs
  rw [hc.run_within, hc.run_within, occurrences_key hk hl harray, List.map_singleton]
  have hrun := runSteps_sideBySide request hc.message hc.steps hstart
  rcases hrun with ⟨e, hwhole, hitems⟩ | ⟨whole, items, hwhole, hitems, hend⟩
  · rw [hwhole, hitems]
    exact .failed e
  · rw [hwhole, hitems]
    exact hend.agree _ _

/-- A chain that cuts tags to what they are and refuses some of them. -/
def tidiesTags : Chain where
  fields := []
  locations := []
  message := none
  steps := [.sanitization ⟨.trim, []⟩, .validation ⟨.isAlpha, [], false, none⟩,
    .validation ⟨.equals, [.string "a"], true, some (.fixed "taken")⟩]
  optional := none
  negateNext := false

/-- A string, a number and nothing at all, as an array and as items. -/
theorem tidiesTags_alike :
    tidiesTags.IsItemwise ∧ StepKey "tags" ∧ Location.body ≠ .headers ∧
      [Json.string " a", .int 5, .null] ≠ [] ∧
      AgreeByItem
        ((tidiesTags.within "tags" .body).run
          { body := .object [("tags", .array [.string " a", .int 5, .null])] })
        ((tidiesTags.within ("tags" ++ ".*") .body).run
          { body := .object [("tags", .array [.string " a", .int 5, .null])] }) := by
  have hitemwise : tidiesTags.IsItemwise := by
    refine ⟨fun m hm => (nomatch hm), rfl, ?_⟩
    intro s hs
    simp only [tidiesTags, List.mem_cons, List.not_mem_nil, or_false] at hs
    rcases hs with rfl | rfl | rfl
    · trivial
    · exact ⟨by decide, fun m hm => (nomatch hm)⟩
    · refine ⟨by decide, ?_⟩
      intro m hm
      obtain rfl := Option.some.inj hm
      trivial
  have hkey : StepKey "tags" := by decide
  have hbody : Location.body ≠ .headers := by decide
  have hvs : ∀ v ∈ [Json.string " a", .int 5, .null], v.IsItem := by
    intro v hv vs
    simp only [List.mem_cons, List.not_mem_nil, or_false] at hv
    rcases hv with rfl | rfl | rfl <;> exact Json.noConfusion
  have hne : [Json.string " a", .int 5, .null] ≠ [] := List.cons_ne_nil _ _
  exact ⟨hitemwise, hkey, hbody, hne, array_runs_as_items hitemwise hkey hbody hne hvs rfl⟩

end RequestValidation
