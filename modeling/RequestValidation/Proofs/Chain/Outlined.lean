import RequestValidation.Chain.Outline
import RequestValidation.Proofs.Chain.Alone
import RequestValidation.Proofs.Output.Lossless
/-!
# What an outline tells of a run

The document of an outline leaves out what is not there and labels what cannot be told. Only
computed messages and conditions cannot: without them the chain can be built again from the
document, but for a negation that no validator has used up, and such a negation does nothing in a
run. So chains with the same document run alike on every request.

Results:
* `ChainOutline.ofJson?_toJson`: the document tells the outline.
* `Chain.rebuilt_of_toldInFull`: the outline tells the chain.
* `run_negateNext`: a pending negation does nothing.
* `run_alike_of_outlined_alike`: the document tells the run.
-/
namespace RequestValidation

/-! ## From documents to outlines -/

/-- The mode with a name. -/
def Absence.ofName? (s : String) : Option Absence :=
  [missing, nullable, falsy].find? fun a => a.name = s

theorem Absence.ofName?_name (a : Absence) : ofName? a.name = some a := by cases a <;> decide

/-- The outline of a step that a document is. -/
def StepOutline.ofJson? (v : Json) : Option StepOutline := do
  let kind ← v.memberText? "type"
  let args := (v.memberItems? "args").getD []
  if kind = "validation" then
    let rule ← (v.memberText? "rule").bind Rule.ofName?
    let negated ← (v.member? "negated").bind Json.bool?
    some (.validation rule args negated (v.memberText? "message"))
  else if kind = "sanitization" then
    let rule ← (v.memberText? "rule").bind Rule.ofName?
    some (.sanitization rule args)
  else if kind = "condition" then
    (v.memberText? "kind").map .condition
  else if kind = "bail" then
    some .bail
  else
    none

/-- The outline that a document is. -/
def ChainOutline.ofJson? (v : Json) : Option ChainOutline := do
  let fields ← (← v.memberItems? "fields").mapM Json.string?
  let locations ← (← v.memberItems? "locations").mapM fun l => l.string?.bind Location.ofName?
  let steps ← (← v.memberItems? "steps").mapM StepOutline.ofJson?
  let optional := (v.memberText? "optional").bind Absence.ofName?
  some ⟨fields, locations, optional, v.memberText? "message", steps⟩

theorem StepOutline.ofJson?_toJson (s : StepOutline) : ofJson? s.toJson = some s := by
  cases s with
  | validation rule args negated message =>
    have hargs : ((validation rule args negated message).toJson.memberItems? "args").getD [] =
        args := by cases args <;> cases message <;> rfl
    have hrule : (validation rule args negated message).toJson.memberText? "rule" =
        some rule.name := by cases args <;> rfl
    have hnegated : ((validation rule args negated message).toJson.member? "negated").bind
        Json.bool? = some negated := by cases args <;> cases message <;> rfl
    have hmessage : (validation rule args negated message).toJson.memberText? "message" =
        message := by cases args <;> cases message <;> rfl
    have htype : (validation rule args negated message).toJson.memberText? "type" =
        some "validation" := rfl
    rw [ofJson?, htype, hargs, hrule, hnegated, hmessage]
    simp [Rule.ofName?_name]
  | sanitization rule args =>
    have hargs : ((sanitization rule args).toJson.memberItems? "args").getD [] = args := by
      cases args <;> rfl
    have hrule : (sanitization rule args).toJson.memberText? "rule" = some rule.name := by
      cases args <;> rfl
    have htype : (sanitization rule args).toJson.memberText? "type" = some "sanitization" := rfl
    rw [ofJson?, htype, hargs, hrule]
    simp [Rule.ofName?_name]
  | condition kind => rfl
  | bail => rfl

/-- The document of an outline tells the outline. -/
theorem ChainOutline.ofJson?_toJson (d : ChainOutline) : ofJson? d.toJson = some d := by
  obtain ⟨fields, locations, optional, message, steps⟩ := d
  have hfields : (mk fields locations optional message steps).toJson.memberItems? "fields" =
      some (fields.map .string) := rfl
  have hlocations : (mk fields locations optional message steps).toJson.memberItems? "locations" =
      some (locations.map fun l => .string l.name) := rfl
  have hsteps : (mk fields locations optional message steps).toJson.memberItems? "steps" =
      some (steps.map StepOutline.toJson) := by cases optional <;> cases message <;> rfl
  have hmessage : (mk fields locations optional message steps).toJson.memberText? "message" =
      message := by cases optional <;> cases message <;> rfl
  have hoptional : ((mk fields locations optional message steps).toJson.memberText?
      "optional").bind Absence.ofName? = optional := by
    cases optional with
    | none => cases message <;> rfl
    | some a => exact Absence.ofName?_name a
  rw [ofJson?, hfields, hlocations, hsteps, hmessage, hoptional]
  have hf : (fields.map Json.string).mapM Json.string? = some fields :=
    mapM_map_of_inverse fun _ _ => rfl
  have hl : (locations.map fun l => Json.string l.name).mapM
      (fun l => l.string?.bind Location.ofName?) = some locations :=
    mapM_map_of_inverse fun l _ => Location.ofName?_name l
  have hs : (steps.map StepOutline.toJson).mapM StepOutline.ofJson? = some steps :=
    mapM_map_of_inverse fun s _ => StepOutline.ofJson?_toJson s
  simp only [Option.bind_eq_bind, Option.bind_some, hf, hl, hs]

/-! ## From outlines to chains -/

/-- Whether the outline of a step leaves nothing out. -/
def Step.ToldInFull : Step → Prop
  | .validation v => ∀ m ∈ v.message, m.IsFixed
  | .sanitization _ => True
  | .condition _ => False
  | .bail => True

/-- A chain without conditions and without computed messages. -/
structure Chain.ToldInFull (c : Chain) : Prop where
  message : ∀ m ∈ c.message, m.IsFixed
  steps : ∀ s ∈ c.steps, s.ToldInFull

/-- The step of which an outline tells, unless it is a condition. -/
def StepOutline.step? : StepOutline → Option Step
  | .validation rule args negated message =>
    some (.validation ⟨rule, args, negated, message.map .fixed⟩)
  | .sanitization rule args => some (.sanitization ⟨rule, args⟩)
  | .condition _ => none
  | .bail => some .bail

/-- A chain of which an outline tells, without a pending negation. -/
def ChainOutline.chain? (d : ChainOutline) : Option Chain := do
  let steps ← d.steps.mapM StepOutline.step?
  some ⟨d.fields, d.locations, d.message.map .fixed, steps, d.optional, false⟩

theorem Message.fixed_label {m : Option Message} (h : ∀ m' ∈ m, m'.IsFixed) :
    (m.map Message.label).map Message.fixed = m := by
  cases m with
  | none => rfl
  | some m =>
    cases m with
    | fixed text => rfl
    | computed text => exact absurd (h _ rfl) id

theorem Step.rebuilt_of_toldInFull {s : Step} (h : s.ToldInFull) : s.outline.step? = some s := by
  cases s with
  | validation v =>
    obtain ⟨rule, args, negated, message⟩ := v
    have hmessage := Message.fixed_label h
    simp only [Step.outline, StepOutline.step?, hmessage]
  | sanitization s => rfl
  | condition c => exact absurd h id
  | bail => rfl

/-- The outline tells the chain, but for a pending negation. -/
theorem Chain.rebuilt_of_toldInFull {c : Chain} (h : c.ToldInFull) :
    c.outline.chain? = some { c with negateNext := false } := by
  have hsteps : (c.steps.map Step.outline).mapM StepOutline.step? = some c.steps :=
    mapM_map_of_inverse fun s hs => Step.rebuilt_of_toldInFull (h.steps s hs)
  have hmessage := Message.fixed_label h.message
  unfold ChainOutline.chain? Chain.outline
  simp only [hsteps, hmessage]
  rfl

/-! ## The run -/

/-- A pending negation does nothing in a run. -/
theorem run_negateNext (c : Chain) (negateNext : Bool) (request : Request) :
    { c with negateNext }.run request = c.run request := by
  rw [run_eq_map, run_eq_map]
  rfl

/-- **What is told of a chain decides its runs.** Two chains without conditions and without computed
messages, however they were built, give the same outcome on every request, or fail with the same
fault, if their outlines are the same document. -/
theorem run_alike_of_outlined_alike {c d : Chain} (hc : c.ToldInFull) (hd : d.ToldInFull)
    (h : c.outline.toJson = d.outline.toJson) (request : Request) :
    c.run request = d.run request := by
  have houtline : c.outline = d.outline := by
    apply Option.some.inj
    rw [← c.outline.ofJson?_toJson, h, d.outline.ofJson?_toJson]
  have hchain : { c with negateNext := false } = { d with negateNext := false } := by
    apply Option.some.inj
    rw [← Chain.rebuilt_of_toldInFull hc, houtline, Chain.rebuilt_of_toldInFull hd]
  rw [← run_negateNext c false, hchain, run_negateNext d false]

/-- A chain for ages, its message given in front of the sanitizer. -/
def agesSaidFirst : Chain :=
  ((((Chain.new "age" [.body] none).rule .optional []).rule .isInt []).saying
    (.fixed "no age")).rule .toInt []

/-- The same with the message given behind the sanitizer, a mode that is set twice, and a negation
that no validator uses up. -/
def agesSaidLast : Chain :=
  (((((Chain.new "age" [.body] none).rule .optional [.object [("nullable", .bool true)]]).rule
    .isInt []).rule .toInt []).rule .optional []).saying (.fixed "no age") |>.not

/-- The two chains are built by different calls, are told alike and run alike. -/
theorem ages_run_alike :
    agesSaidFirst.ToldInFull ∧ agesSaidLast.ToldInFull ∧
      agesSaidFirst.negateNext ≠ agesSaidLast.negateNext ∧
      agesSaidFirst.outline.toJson = agesSaidLast.outline.toJson ∧
      agesSaidFirst.run { body := .object [("age", .string "x")] } =
        agesSaidLast.run { body := .object [("age", .string "x")] } := by
  have hsteps : agesSaidFirst.steps = [.validation ⟨.isInt, [], false, some (.fixed "no age")⟩,
      .sanitization ⟨.toInt, []⟩] := rfl
  have htold : ∀ s ∈ agesSaidFirst.steps, s.ToldInFull := by
    intro s hs
    rw [hsteps, List.mem_pair] at hs
    rcases hs with rfl | rfl
    · intro m hm
      obtain rfl := Option.some.inj hm
      trivial
    · trivial
  have hfirst : agesSaidFirst.ToldInFull := ⟨fun m hm => (nomatch hm), htold⟩
  have hlast : agesSaidLast.ToldInFull := ⟨fun m hm => (nomatch hm), htold⟩
  exact ⟨hfirst, hlast, by decide, rfl, run_alike_of_outlined_alike hfirst hlast rfl _⟩

end RequestValidation
