import Mathlib.Algebra.BigOperators.Group.List.Basic
import RequestValidation.Command.Validate
import RequestValidation.Proofs.Output.Texts
import RequestValidation.Proofs.Traversal
/-!
# What validating a request writes for machines

In a layout for machines the command writes one document, its summary, or nothing. Nothing is
written if the documents cannot be loaded or a chain fails; otherwise the summary says what the
result says.

Results:
* `closesLine_closeLine`: what is written ends its line.
* `load_of_comesTo`, `comesTo_of_load`, `load_error`: when there is a summary, and how the command
  fails without one.
* `ofReport_ofOutcomes`: the summary of a report is that of the outcomes.
* `validateRequest_of_machine`: the output and the result of the command.
* `valid_iff_begins`: the written text tells whether the request is valid.
* `tells_of_prints`: the printed summary and the verdict tell the same.
* `output_agrees_with_result`: both tell the same.
-/
namespace RequestValidation

/-- Whether a text is another one with one line end behind it, the one that the other ends in or
else one more. -/
inductive ClosesLine : String → String → Prop
  | added {s : String} (h : s.toList.getLast? ≠ some '\n') : ClosesLine s (s ++ "\n")
  | there (s : String) : ClosesLine (s ++ "\n") (s ++ "\n")

/-- What a validation comes to: its documents are a schema and a request, the schema has these
findings, and its chains come to these outcomes on the request. -/
def ComesTo (files : Files) (config : Config) (schema request : String)
    (locations : List Location) (findings : List SchemaFinding) (outcomes : List ChainOutcome) :
    Prop :=
  ∃ s r, Document.schema files schema = .ok s ∧ Document.request files request = .ok r ∧
    findings = (s.plan (config.locationsFor locations)).findings ∧
    (s.plan (config.locationsFor locations)).run r = .ok outcomes

/-- The summary of outcomes. -/
def summaryOf (findings : List SchemaFinding) (outcomes : List ChainOutcome) : Summary where
  valid := outcomes.all fun c => c.errors.isEmpty
  errorCount := (outcomes.map fun c => c.errors.length).sum
  errors := outcomes.flatMap fun c => c.errors
  findings := findings
  matched := (Report.ofOutcomes outcomes).matched

/-- What a command writes and how it ends, where both tell of the same outcomes. The summary is
printed with one line end; what is written begins with its verdict, its number of errors and its
errors, and is read back if it is JSON. -/
structure Tells (layout : Layout) (findings : List SchemaFinding) (outcomes : List ChainOutcome)
    (effect : Effect) : Prop where
  written : ∃ text, Prints (summaryOf findings outcomes).document layout text ∧
    ClosesLine text effect.1
  begins : BeginsWith layout (summaryOf findings outcomes).valid
    (summaryOf findings outcomes).errorCount (summaryOf findings outcomes).errors effect.1
  read : layout ≠ .yaml → (summaryOf findings outcomes).Portable →
    ∃ v, Json.read effect.1 = .ok v ∧ Summary.ofJson? v = some (summaryOf findings outcomes)
  ok_iff : effect.2 = .ok () ↔ BeginsWith layout true 0 [] effect.1
  failed : ∀ count, effect.2 = .error (.validationFailed count) →
    0 < count ∧ count = (outcomes.map fun c => c.errors.length).sum ∧
      BeginsWith layout false count (outcomes.flatMap fun c => c.errors) effect.1

/-- A failure of the command itself, not one of the request. -/
def IsFault (result : Except Failure Unit) : Prop :=
  ∃ f, result = .error f ∧ ∀ count, f ≠ .validationFailed count

/-! ## Line ends -/

theorem closesLine_closeLine (s : String) : ClosesLine s (Writer.closeLine s) := by
  unfold Writer.closeLine Writer.line
  split
  · rename_i h
    obtain ⟨front, hfront⟩ := List.getLast?_eq_some_iff.mp h
    have hs : s = String.ofList front ++ "\n" := by
      apply String.toList_inj.mp
      simpa using hfront
    rw [hs]
    exact .there _
  · rename_i h
    exact .added h

/-- One line end more at most. -/
theorem ClosesLine.eq_append {s t : String} (h : ClosesLine s t) :
    ∃ blanks, (∀ c ∈ blanks, Json.isSpace c = true) ∧ t = s ++ String.ofList blanks := by
  cases h with
  | added => exact ⟨['\n'], by simp [Json.isSpace], rfl⟩
  | there => exact ⟨[], by simp, by simp⟩

theorem ClosesLine.ne_empty {s t : String} (h : ClosesLine s t) : t ≠ "" := by
  cases h <;> simp

/-! ## Loading and running -/

/-- A file that holds the compact text of a document is loaded as the document. -/
theorem Document.load_of_compact {files : Files} {path : String} {v : Json}
    (hfile : files path = .text v.compact) (hjson : FilePath.isYaml path = false)
    (hexact : Json.Exact 127 v) : load files path = .ok v := by
  unfold load Failure.textAt
  rw [hfile]
  simp only [bind, Except.bind, hjson, Json.read_compact hexact]
  rfl

namespace Assessment

variable {files : Files} {config : Config} {schema request : String} {locations : List Location}

theorem load_of_comesTo {findings : List SchemaFinding} {outcomes : List ChainOutcome}
    (h : ComesTo files config schema request locations findings outcomes) :
    ∃ r, load files config schema request locations = .ok ⟨r, findings, .ofOutcomes outcomes⟩ := by
  obtain ⟨s, r, hs, hr, rfl, hrun⟩ := h
  refine ⟨r, ?_⟩
  unfold load
  rw [hs, hr]
  simp only [bind, Except.bind, hrun]

theorem comesTo_of_load {a : Assessment}
    (h : load files config schema request locations = .ok a) :
    ∃ outcomes, ComesTo files config schema request locations a.findings outcomes := by
  unfold load at h
  obtain ⟨s, hs, h⟩ := bind_ok_iff.mp h
  obtain ⟨r, hr, h⟩ := bind_ok_iff.mp h
  dsimp only at h
  split at h
  · rename_i outcomes hrun
    obtain rfl := Except.ok.inj h
    exact ⟨outcomes, s, r, hs, hr, rfl, hrun⟩
  · cases h

/-- Reading a document fails for what is found in the files. -/
theorem document_load_error {path : String} {f : Failure}
    (h : Document.load files path = .error f) (count : Nat) : f ≠ .validationFailed count := by
  rintro rfl
  unfold Document.load at h
  rcases bind_error_iff.mp h with h | ⟨content, -, h⟩
  · unfold Failure.textAt at h
    split at h <;> cases h
  · split at h <;> split at h <;> cases h

/-- Without a summary the command fails for another reason than errors of the request. -/
theorem load_error {f : Failure} (h : load files config schema request locations = .error f)
    (count : Nat) : f ≠ .validationFailed count := by
  rintro rfl
  unfold load at h
  rcases bind_error_iff.mp h with h | ⟨s, -, h⟩
  · unfold Document.schema at h
    rcases bind_error_iff.mp h with h | ⟨v, -, h⟩
    · exact document_load_error h count rfl
    · obtain ⟨e, -, he⟩ := mapError_error_iff.mp h
      cases he
  · rcases bind_error_iff.mp h with h | ⟨r, -, h⟩
    · unfold Document.request at h
      rcases bind_error_iff.mp h with h | ⟨v, -, h⟩
      · exact document_load_error h count rfl
      · obtain ⟨e, -, he⟩ := mapError_error_iff.mp h
        cases he
    · dsimp only at h
      split at h <;> cases h

/-- In a layout for machines the summary is written alone. -/
theorem text_of_machine (a : Assessment) {w : Writer} (hw : w.layout ≠ .human) (detailed : Bool) :
    a.text w detailed = Writer.closeLine (w.layout.render a.summary.toJson) := by
  have hpeople : w.forPeople = false := by simp [Writer.forPeople, hw]
  simp [text, hpeople, Writer.report, Writer.reportText, hw]

/-- The verdict follows the errors of the report. -/
theorem verdict_cases (a : Assessment) :
    a.verdict = .ok () ∧ a.report.errors = [] ∨
      a.verdict = .error (.validationFailed a.report.errors.length) ∧ a.report.errors ≠ [] := by
  unfold verdict Report.isOk
  cases a.report.errors <;> simp

end Assessment

/-! ## The summary -/

section
variable (findings : List SchemaFinding) (outcomes : List ChainOutcome)

theorem summaryOf_valid_iff :
    (summaryOf findings outcomes).valid = true ↔ (summaryOf findings outcomes).errors = [] := by
  simp only [summaryOf, List.all_eq_true, List.isEmpty_iff, List.flatMap_eq_nil_iff]

theorem summaryOf_errorCount :
    (summaryOf findings outcomes).errorCount = (summaryOf findings outcomes).errors.length :=
  List.length_flatMap.symm

/-- The summary of a report on outcomes is theirs. -/
theorem ofReport_ofOutcomes :
    Summary.ofReport (.ofOutcomes outcomes) findings = summaryOf findings outcomes := by
  have hvalid : (Report.ofOutcomes outcomes).isOk = (summaryOf findings outcomes).valid := by
    rw [Bool.eq_iff_iff, summaryOf_valid_iff]
    exact List.isEmpty_iff
  rw [Summary.ofReport, hvalid]
  exact congrArg (Summary.mk _ · _ _ _) (summaryOf_errorCount findings outcomes).symm

end

/-- The printer of a layout for machines. -/
theorem prints_render {layout : Layout} (h : layout ≠ .human) (v : Json) :
    Prints v layout (layout.render v) := by
  cases layout with
  | human => contradiction
  | json => exact .json
  | yaml => exact .yaml
  | jsonPretty => exact .jsonPretty

/-! ## The command -/

section
variable (r : Request) (findings : List SchemaFinding) (outcomes : List ChainOutcome)

/-- The document that is written about outcomes. -/
theorem Assessment.toJson_summary :
    (summary ⟨r, findings, .ofOutcomes outcomes⟩).toJson =
      (summaryOf findings outcomes).document := by
  rw [summary, ofReport_ofOutcomes, Summary.toJson_eq_document]

/-- The verdict on outcomes. -/
theorem Assessment.verdict_of_outcomes :
    verdict ⟨r, findings, .ofOutcomes outcomes⟩ =
      if (summaryOf findings outcomes).valid then .ok ()
      else .error (.validationFailed (summaryOf findings outcomes).errorCount) := by
  rw [← ofReport_ofOutcomes]
  rfl

end

/-- A request is valid just if what is written begins so. -/
theorem valid_iff_begins {layout : Layout} {findings : List SchemaFinding}
    {outcomes : List ChainOutcome} {text : String}
    (h : BeginsWith layout (summaryOf findings outcomes).valid
      (summaryOf findings outcomes).errorCount (summaryOf findings outcomes).errors text) :
    (summaryOf findings outcomes).valid = true ↔ BeginsWith layout true 0 [] text := by
  constructor
  · intro hvalid
    have herrors := (summaryOf_valid_iff findings outcomes).mp hvalid
    rwa [hvalid, summaryOf_errorCount, herrors] at h
  · exact fun hfine => h.valid_unique hfine

/-- The printed summary and the verdict tell the same. -/
theorem tells_of_prints {layout : Layout} {findings : List SchemaFinding}
    {outcomes : List ChainOutcome} {text : String}
    (h : Prints (summaryOf findings outcomes).document layout text) :
    Tells layout findings outcomes
      (Writer.closeLine text,
        if (summaryOf findings outcomes).valid then .ok ()
        else .error (.validationFailed (summaryOf findings outcomes).errorCount)) := by
  have hcloses := closesLine_closeLine text
  obtain ⟨blanks, hblanks, hclosed⟩ := hcloses.eq_append
  have hbegins := h.begins.append (String.ofList blanks)
  rw [← hclosed] at hbegins
  refine ⟨⟨text, h, hcloses⟩, hbegins, ?_, ?_, ?_⟩
  · intro hyaml hportable
    refine ⟨_, ?_, Summary.ofJson?_toJson _⟩
    rw [hclosed, h.reads hyaml hportable hblanks, Summary.toJson_eq_document]
  · rw [← valid_iff_begins hbegins]
    cases (summaryOf findings outcomes).valid <;> simp
  · intro count hfailed
    cases hvalid : (summaryOf findings outcomes).valid with
    | true => simp [hvalid] at hfailed
    | false =>
      rw [hvalid] at hbegins hfailed
      obtain rfl := Failure.validationFailed.inj (Except.error.inj hfailed)
      refine ⟨?_, rfl, hbegins⟩
      rw [summaryOf_errorCount, List.length_pos_iff, ne_eq, ← summaryOf_valid_iff, hvalid]
      exact Bool.false_ne_true

section
variable (files : Files) (config : Config) {w : Writer} (schema request : String)
  (locations : List Location) (detailed : Bool)

/-- In a layout for machines the command writes the summary, if it comes to one. -/
theorem validateRequest_of_machine (hw : w.layout ≠ .human) :
    validateRequest files config w schema request locations detailed =
      match Assessment.load files config schema request locations with
      | .ok a => (Writer.closeLine (w.layout.render a.summary.toJson), a.verdict)
      | .error f => ("", .error f) := by
  have hinfo : ∀ message, w.info message = "" := by
    intro message
    simp [Writer.info, Writer.chatty, Writer.forPeople, hw]
  unfold validateRequest
  rw [hinfo]
  cases Assessment.load files config schema request locations with
  | ok a => simp [a.text_of_machine hw]
  | error f => rfl

/-- **The output and the result agree.** In a layout for machines, what the command writes and how
it ends depend on nothing else of the writer, nor on whether details are asked for. It writes
nothing just if it fails for another reason than errors of the request. If it writes something, the
validation comes to something, and to whatever it comes, that is what is written, as a summary with
one line end, and what the result tells. -/
theorem output_agrees_with_result (hw : w.layout ≠ .human) :
    (∀ (w' : Writer) (detailed' : Bool), w'.layout = w.layout →
      validateRequest files config w' schema request locations detailed' =
        validateRequest files config w schema request locations detailed) ∧
    ((validateRequest files config w schema request locations detailed).1 = "" ↔
      IsFault (validateRequest files config w schema request locations detailed).2) ∧
    ((validateRequest files config w schema request locations detailed).1 ≠ "" →
      ∃ findings outcomes, ComesTo files config schema request locations findings outcomes) ∧
    ∀ findings outcomes, ComesTo files config schema request locations findings outcomes →
      Tells w.layout findings outcomes
        (validateRequest files config w schema request locations detailed) := by
  have hmachine := validateRequest_of_machine files config schema request locations detailed hw
  refine ⟨?_, ?_, ?_, ?_⟩
  · intro w' detailed' hlayout
    have hw' : w'.layout ≠ .human := by rwa [hlayout]
    rw [hmachine, validateRequest_of_machine files config schema request locations detailed' hw',
      hlayout]
  · rw [hmachine]
    cases hload : Assessment.load files config schema request locations with
    | error f => simpa [IsFault] using Assessment.load_error hload
    | ok a =>
      have hne := (closesLine_closeLine (w.layout.render a.summary.toJson)).ne_empty
      rcases a.verdict_cases with ⟨hverdict, -⟩ | ⟨hverdict, -⟩ <;>
        simp [hne, hverdict, IsFault]
  · rw [hmachine]
    cases hload : Assessment.load files config schema request locations with
    | error f => simp
    | ok a => exact fun _ => ⟨a.findings, Assessment.comesTo_of_load hload⟩
  · intro findings outcomes h
    obtain ⟨r, hload⟩ := Assessment.load_of_comesTo h
    rw [hmachine, hload]
    dsimp only
    rw [Assessment.toJson_summary, Assessment.verdict_of_outcomes]
    exact tells_of_prints (prints_render hw _)

end

/-- A schema that wants a name of letters. -/
def nameOfLetters : Json :=
  .object [("name", .object [("in", .string "body"), ("isAlpha", .bool true)])]

/-- A request with another name. -/
def nameWithDigit : Json := .object [("body", .object [("name", .string "ok1")])]

def nameFiles : Files := fun path =>
  if path = "s" then .text nameOfLetters.compact
  else if path = "r" then .text nameWithDigit.compact
  else .missing

/-- What the name comes to. -/
def digitOutcome : ChainOutcome :=
  ⟨["name"], [.body], [⟨.body, "name", some (.string "ok1"), defaultMessage⟩],
    [⟨.body, "name", "name", some (.string "ok1")⟩]⟩

theorem comesTo_digitOutcome : ComesTo nameFiles {} "s" "r" [] [] [digitOutcome] := by
  have hwant : Json.Exact 127 nameOfLetters := by
    refine .object (by simp) (List.forall_mem_singleton.mpr (.object (by simp) ?_))
    exact List.forall_mem_cons.mpr ⟨.string _ _, List.forall_mem_singleton.mpr (.bool _ _)⟩
  have hsent : Json.Exact 127 nameWithDigit := by
    refine .object (by simp) (List.forall_mem_singleton.mpr (.object (by simp) ?_))
    exact List.forall_mem_singleton.mpr (.string _ _)
  have hschema : Document.load nameFiles "s" = .ok nameOfLetters :=
    Document.load_of_compact rfl (by cbv) hwant
  have hrequest : Document.load nameFiles "r" = .ok nameWithDigit :=
    Document.load_of_compact rfl (by cbv) hsent
  refine ⟨⟨[("name", { locations := some (.one "body"), rules := [("isAlpha", .switch true)] })]⟩,
    { body := .object [("name", .string "ok1")] }, ?_, ?_, rfl, ?_⟩
  · rw [Document.schema, hschema]
    rfl
  · rw [Document.request, hrequest]
    rfl
  · cbv

/-- The summary of what the name comes to, in YAML. -/
def digitText : String :=
  "valid: false\nerror_count: 1\nerrors:\n- location: body\n  path: name\n  value: ok1\n" ++
    "  message: Invalid value\nmatched_data: \x7b\x7d\n"

theorem yaml_digit : (summaryOf [] [digitOutcome]).document.yaml = digitText := by decide +kernel

theorem validateRequest_digit :
    validateRequest nameFiles {} ⟨.yaml, true, true⟩ "s" "r" [] true =
      (digitText, .error (.validationFailed 1)) := by
  obtain ⟨r, hload⟩ := Assessment.load_of_comesTo comesTo_digitOutcome
  have hclosed : Writer.closeLine digitText = digitText := by decide +kernel
  rw [validateRequest_of_machine nameFiles {} "s" "r" [] true (by decide), hload]
  dsimp only [Layout.render]
  rw [Assessment.toJson_summary, yaml_digit, hclosed, Assessment.verdict_of_outcomes]
  rfl

/-- The digit is told of in YAML, quietly, in colour and with details asked for, and the text is
read back. -/
theorem digit_told :
    Layout.yaml ≠ .human ∧ ComesTo nameFiles {} "s" "r" [] [] [digitOutcome] ∧
      Tells .yaml [] [digitOutcome]
        (validateRequest nameFiles {} ⟨.yaml, true, true⟩ "s" "r" [] true) ∧
      validateRequest nameFiles {} ⟨.yaml, true, true⟩ "s" "r" [] true =
        (digitText, .error (.validationFailed 1)) ∧
      (Yaml.read? digitText).map Json.compact =
        some (summaryOf [] [digitOutcome]).document.compact := by
  obtain ⟨-, -, -, htells⟩ := output_agrees_with_result nameFiles {} (w := ⟨.yaml, true, true⟩)
    "s" "r" [] true (by decide)
  exact ⟨by decide, comesTo_digitOutcome, htells _ _ comesTo_digitOutcome, validateRequest_digit,
    by decide +kernel⟩

end RequestValidation
