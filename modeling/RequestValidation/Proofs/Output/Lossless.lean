import RequestValidation.Output.Writer
import RequestValidation.Proofs.Json.OneLine
import RequestValidation.Proofs.Traversal
/-!
# Nothing is lost in a summary's JSON

The summary of a validation can be told from its document, and the document from its texts, as long
as the values in it are integers that fit 64 bits and nested few enough levels for the reader.

Results:
* `Violation.ofJson?_toJson`, `SchemaFinding.ofJson?_toJson`, `Summary.ofJson?_toJson`: the document
  tells everything.
* `Summary.exact_toJson`: it is exact if the values are.
* `Summary.lossless_of_portable`: the texts tell everything.
-/
namespace RequestValidation

/-! ## What a document tells -/

/-- The text of a member. -/
def Json.memberText? (v : Json) (key : String) : Option String := (v.member? key).bind string?

/-- The items of a member that is an array. -/
def Json.memberItems? (v : Json) (key : String) : Option (List Json) :=
  match v.member? key with
  | some (.array items) => some items
  | _ => none

/-- The member that is no negative number. -/
def Json.memberCount? (v : Json) (key : String) : Option Nat :=
  match v.member? key with
  | some (.number (.int (.ofNat n))) => some n
  | _ => none

/-- The error that a document tells of. Without a value the field is missing. -/
def Violation.ofJson? (v : Json) : Option Violation := do
  let name ← v.memberText? "location"
  let location ← Location.ofName? name
  let path ← v.memberText? "path"
  let message ← v.memberText? "message"
  some ⟨location, path, v.member? "value", message⟩

def SchemaFinding.ofJson? (v : Json) : Option SchemaFinding := do
  let kind ← v.memberText? "type"
  let field ← v.memberText? "field"
  let rule ← v.memberText? "rule"
  if kind = "unknown_rule" then some (.unknownRule field rule) else none

/-- The findings of a summary, none if the document does not speak of any. -/
def SchemaFinding.allOfJson? (v : Json) : Option (List SchemaFinding) :=
  match v.member? "diagnostics" with
  | none => some []
  | some _ => (v.memberItems? "diagnostics").bind fun items => items.mapM ofJson?

/-- The summary that a document is. -/
def Summary.ofJson? (v : Json) : Option Summary := do
  let valid ← (v.member? "valid").bind Json.bool?
  let errorCount ← v.memberCount? "error_count"
  let items ← v.memberItems? "errors"
  let errors ← items.mapM Violation.ofJson?
  let findings ← SchemaFinding.allOfJson? v
  let matched ← (v.member? "matched_data").bind Json.members?
  some ⟨valid, errorCount, errors, findings, matched⟩

theorem Violation.ofJson?_toJson (e : Violation) : ofJson? e.toJson = some e := by
  obtain ⟨location, path, value, message⟩ := e
  have hname := Location.ofName?_name location
  cases value with
  | none =>
    change (do
      let l ← Location.ofName? location.name
      some (Violation.mk l path none message)) = _
    rw [hname]
    rfl
  | some v =>
    change (do
      let l ← Location.ofName? location.name
      some (Violation.mk l path (some v) message)) = _
    rw [hname]
    rfl

theorem SchemaFinding.ofJson?_toJson (d : SchemaFinding) : ofJson? d.toJson = some d := by
  cases d
  rfl

namespace Summary

/-- Where there are no findings the document has no member for them. -/
theorem allOfJson?_toJson (s : Summary) : SchemaFinding.allOfJson? s.toJson = some s.findings := by
  obtain ⟨valid, errorCount, errors, findings, matched⟩ := s
  cases findings with
  | nil => rfl
  | cons d findings =>
    exact mapM_map_of_inverse fun d' _ => SchemaFinding.ofJson?_toJson d'

theorem matched_toJson (s : Summary) :
    s.toJson.member? "matched_data" = some (.object s.matched) := by
  obtain ⟨valid, errorCount, errors, findings, matched⟩ := s
  cases findings <;> rfl

/-- The document of a summary tells the summary. -/
theorem ofJson?_toJson (s : Summary) : ofJson? s.toJson = some s := by
  have hvalid : s.toJson.member? "valid" = some (.bool s.valid) := rfl
  have hcount : s.toJson.memberCount? "error_count" = some s.errorCount := rfl
  have hitems : s.toJson.memberItems? "errors" = some (s.errors.map Violation.toJson) := rfl
  unfold ofJson?
  rw [hvalid, hcount, hitems, allOfJson?_toJson, matched_toJson]
  simp only [Option.bind_eq_bind, Option.bind_some,
    mapM_map_of_inverse fun e _ => Violation.ofJson?_toJson e]
  rfl

/-- What is asked of a summary so that its document fits the reader: the values are exact, beside
the three containers around the value of an error and the two around a matched value. -/
structure Portable (s : Summary) : Prop where
  count_fits : s.errorCount < 2 ^ 64
  values_exact : ∀ e ∈ s.errors, ∀ v, e.value = some v → Json.Exact 124 v
  names_distinct : s.matched.keys.Nodup
  matched_exact : ∀ p ∈ s.matched, Json.Exact 125 p.2

theorem exact_violation {depth : Nat} {e : Violation}
    (h : ∀ v, e.value = some v → Json.Exact depth v) : Json.Exact (depth + 1) e.toJson := by
  obtain ⟨location, path, value, message⟩ := e
  cases value with
  | none =>
    refine .object (by simp [optionalMember]) ?_
    simp [optionalMember, Json.Exact.string]
  | some v =>
    refine .object (by simp [optionalMember]) ?_
    simp [optionalMember, Json.Exact.string, h v rfl]

theorem exact_finding (depth : Nat) (d : SchemaFinding) : Json.Exact (depth + 1) d.toJson := by
  cases d
  refine .object (by simp) ?_
  simp [Json.Exact.string]

/-- The document of a portable summary fits the reader. -/
theorem exact_toJson {s : Summary} (h : s.Portable) : Json.Exact 127 s.toJson := by
  have herrors : Json.Exact 126 (.array (s.errors.map Violation.toJson)) := by
    refine .array ?_
    rw [List.forall_mem_map]
    exact fun e he => exact_violation (h.values_exact e he)
  have hfindings : Json.Exact 126 (.array (s.findings.map SchemaFinding.toJson)) := by
    refine .array ?_
    rw [List.forall_mem_map]
    exact fun d _ => exact_finding 124 d
  have hmatched : Json.Exact 126 (.object s.matched) := .object h.names_distinct h.matched_exact
  have hcount : Json.Exact 126 (.int s.errorCount) := by
    have hfits := h.count_fits
    exact .int _ (by omega) (by omega)
  unfold toJson
  split
  · refine .object (by simp) ?_
    simp [Json.Exact.bool, herrors, hmatched, hcount]
  · refine .object (by simp) ?_
    simp [Json.Exact.bool, herrors, hmatched, hcount, hfindings]

/-- Whether nothing of a summary is lost in its JSON: the compact text is one line and is read as a
document that tells the summary, and the indented text is read as the same document and differs
from the compact one in blanks outside of strings only. -/
structure Lossless (s : Summary) : Prop where
  oneLine : ∀ c ∈ (Writer.reportText .json s).toList, c ≠ '\n' ∧ c ≠ '\r'
  read : ∃ v, Json.read (Writer.reportText .json s) = .ok v ∧ ofJson? v = some s ∧
    Json.read (Writer.reportText .jsonPretty s) = .ok v
  squeezed : Json.squeeze false (Writer.reportText .jsonPretty s).toList =
    (Writer.reportText .json s).toList

/-- **Nothing of a summary is lost in its JSON.** -/
theorem lossless_of_portable {s : Summary} (h : s.Portable) : s.Lossless := by
  have hexact := exact_toJson h
  have hcompact : Writer.reportText .json s = s.toJson.compact := rfl
  have hpretty : Writer.reportText .jsonPretty s = s.toJson.pretty := rfl
  refine ⟨?_, ⟨s.toJson, ?_, ofJson?_toJson s, ?_⟩, ?_⟩
  · intro c hc
    rw [hcompact] at hc
    have hprinted := Json.noControls_compact hexact c hc
    constructor <;> (rintro rfl; exact absurd hprinted (by decide))
  · rw [hcompact, Json.read_compact hexact]
  · rw [hpretty, Json.read_pretty hexact]
  · rw [hcompact, hpretty, Json.squeeze_pretty hexact]

/-- A summary whose texts have quotes, line ends and a backslash, with a missing value beside a
`null`, a finding and matched data. -/
def awkward : Summary where
  valid := false
  errorCount := 2
  errors := [⟨.body, "a.\"b\"", none, "first\r\nsecond\u2028"⟩,
    ⟨.query, "c\\d", some .null, "\u0001"⟩]
  findings := [.unknownRule "c\\d" "isNothing"]
  matched := [("z", .array [.int (-1), .string "\t"]), ("a", .object [("", .int (2 ^ 64 - 1))])]

/-- Nothing of it is lost, line ends and control characters included. -/
theorem awkward_lossless : awkward.Portable ∧ awkward.Lossless := by
  have hvalues : ∀ e ∈ awkward.errors, ∀ v, e.value = some v → Json.Exact 124 v := by
    simp [awkward, Json.Exact.null]
  have hitems : Json.Exact 125 (.array [.int (-1), .string "\t"]) :=
    .array (by simp [Json.int, Json.Exact.int, Json.Exact.string])
  have hmember : Json.Exact 125 (.object [("", .int (2 ^ 64 - 1))]) :=
    .object (by simp) (by simp [Json.int, Json.Exact.int])
  have hportable : awkward.Portable :=
    ⟨by decide, hvalues, by decide,
      List.forall_mem_cons.mpr ⟨hitems, List.forall_mem_singleton.mpr hmember⟩⟩
  exact ⟨hportable, lossless_of_portable hportable⟩

end Summary

end RequestValidation
