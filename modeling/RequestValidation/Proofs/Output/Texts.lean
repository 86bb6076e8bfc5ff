import RequestValidation.Proofs.Output.Lossless
import RequestValidation.Proofs.Yaml.Pen
/-!
# What the text of a summary says

In every layout for machines, the text of a summary begins with the verdict, the number of errors
and all the errors, in this order. Behind them stand the findings and the matched data.

Results:
* `Summary.toJson_eq_document`: the document of a summary, member by member.
* `Prints.begins`: what is printed begins with the verdict, the number and the errors.
* `BeginsWith.valid_unique`: a text does not begin with two verdicts.
* `Prints.reads`: JSON is read back to the summary, also with blanks behind it.
-/
namespace RequestValidation

/-! ## The document -/

/-- An error as a document: where it is, what was checked and why that fails. -/
def Violation.document (e : Violation) : Json :=
  match e.value with
  | some v =>
    .object [("location", .string e.location.name), ("path", .string e.path), ("value", v),
      ("message", .string e.message)]
  | none =>
    .object [("location", .string e.location.name), ("path", .string e.path),
      ("message", .string e.message)]

def SchemaFinding.document : SchemaFinding → Json
  | .unknownRule field rule =>
    .object [("type", .string "unknown_rule"), ("field", .string field), ("rule", .string rule)]

/-- What stands behind the errors: the findings, if there are any, and the matched data. -/
def Summary.lastMembers (s : Summary) : List (String × Json) :=
  match s.findings with
  | [] => [("matched_data", .object s.matched)]
  | d :: ds =>
    [("diagnostics", .array ((d :: ds).map SchemaFinding.document)),
      ("matched_data", .object s.matched)]

/-- A summary as a document. -/
def Summary.document (s : Summary) : Json :=
  .object (("valid", .bool s.valid) :: ("error_count", .int s.errorCount) ::
    ("errors", .array (s.errors.map Violation.document)) :: s.lastMembers)

theorem Violation.toJson_eq_document (e : Violation) : e.toJson = e.document := by
  obtain ⟨location, path, value, message⟩ := e
  cases value <;> rfl

theorem SchemaFinding.toJson_eq_document (d : SchemaFinding) : d.toJson = d.document := by
  cases d
  rfl

theorem Summary.toJson_eq_document (s : Summary) : s.toJson = s.document := by
  have herrors : s.errors.map Violation.toJson = s.errors.map Violation.document :=
    List.map_congr_left fun e _ => e.toJson_eq_document
  have hfindings : s.findings.map SchemaFinding.toJson = s.findings.map SchemaFinding.document :=
    List.map_congr_left fun d _ => d.toJson_eq_document
  unfold toJson document lastMembers
  rw [herrors, hfindings]
  cases s.findings <;> rfl

/-! ## The text -/

/-- The printer of each layout for machines. -/
inductive Prints (v : Json) : Layout → String → Prop
  | json : Prints v .json v.compact
  | jsonPretty : Prints v .jsonPretty v.pretty
  | yaml : Prints v .yaml v.yaml

/-- An error as an item in YAML: where it is comes first. -/
structure YamlItem (e : Violation) (text : String) : Prop where
  printed : text = (Json.array [e.document]).yaml
  begins : ∃ rest, text = "- location: " ++ e.location.name ++ "\n  path:" ++ rest

/-- How the text of a summary begins in each layout for machines. -/
inductive Opens (valid : Bool) (count : Nat) (errors : List Violation) : Layout → String → Prop
  | json : Opens valid count errors .json
      ("\x7b\"valid\":" ++ toString valid ++ ",\"error_count\":" ++ toString count ++
        ",\"errors\":[" ++ ",".intercalate (errors.map fun e => e.document.compact) ++ "]")
  | jsonPretty : Opens valid count errors .jsonPretty
      ("\x7b\n  \"valid\": " ++ toString valid ++ ",\n  \"error_count\": " ++ toString count ++
        ",\n  \"errors\": " ++
        if errors = [] then "[]"
        else
          "[\n    " ++
            ",\n    ".intercalate (errors.map fun e => String.ofList (e.document.prettyChars 2)) ++
            "\n  ]")
  | yamlNone (h : errors = []) : Opens valid count errors .yaml
      ("valid: " ++ toString valid ++ "\nerror_count: " ++ toString count ++ "\nerrors: []\n")
  | yamlSome {items : List String} (h : errors ≠ []) (hitems : List.Forall₂ YamlItem errors items) :
      Opens valid count errors .yaml
        ("valid: " ++ toString valid ++ "\nerror_count: " ++ toString count ++ "\nerrors:\n" ++
          String.join items)

/-- Whether a text begins with a verdict, a number of errors and these errors. -/
def BeginsWith (layout : Layout) (valid : Bool) (count : Nat) (errors : List Violation)
    (text : String) : Prop :=
  ∃ head rest, Opens valid count errors layout head ∧ text = head ++ rest

/-! ## JSON -/

namespace Json

theorem joinWith_eq_intercalate (separator : List Char) (xs : List (List Char)) :
    joinWith separator xs = separator.intercalate xs := by
  induction xs with
  | nil => rfl
  | cons x xs ih =>
    cases xs with
    | nil => simp [joinWith]
    | cons y xs => rw [joinWith, ih, List.intercalate_cons_cons, List.append_assoc]

theorem text_nat (n : Nat) : Number.text (.int n) = toString n := by
  apply String.toList_inj.mp
  rw [toList_text_nat]
  simp [toString]

/-- Lists of characters as those of texts. -/
theorem map_map_eq_toList {α : Type} (print : Json → List Char) (f : α → Json) (xs : List α) :
    (xs.map f).map print = (xs.map fun x => String.ofList (print (f x))).map String.toList := by
  rw [List.map_map, List.map_map]
  exact List.map_congr_left fun x _ => String.toList_ofList.symm

theorem chars_array {α : Type} (f : α → Json) (xs : List α) :
    (Json.array (xs.map f)).chars =
      ("[" ++ ",".intercalate (xs.map fun x => (f x).compact) ++ "]").toList := by
  rw [chars, itemChars_eq_map, joinWith_eq_intercalate, map_map_eq_toList]
  simp [compact]

theorem prettyChars_array {α : Type} (f : α → Json) (xs : List α) :
    (Json.array (xs.map f)).prettyChars 1 =
      (if xs = [] then "[]"
      else "[\n    " ++ ",\n    ".intercalate
        (xs.map fun x => String.ofList ((f x).prettyChars 2)) ++ "\n  ]").toList := by
  rw [prettyChars, prettyItems_eq_map, map_map_eq_toList, block, joinWith_eq_intercalate]
  cases xs with
  | nil => simp
  | cons x xs => simp [newLine, List.replicate]

end Json

namespace Summary

variable (s : Summary)

/-- The text with blanks begins with the first three members. -/
theorem spaced_begins (g : Json.Spacing) : ∃ rest, Json.spaced g 0 s.document =
    ['\x7b'] ++ g.part 1 ++ "\"valid\":".toList ++ g.value ++ (toString s.valid).toList ++
      [','] ++ g.part 1 ++ "\"error_count\":".toList ++ g.value ++
      (toString s.errorCount).toList ++
      [','] ++ g.part 1 ++ "\"errors\":".toList ++ g.value ++
      Json.spaced g 1 (.array (s.errors.map Violation.document)) ++ rest := by
  have hvalid : Json.spaced g 1 (.bool s.valid) = (toString s.valid).toList := by
    cases s.valid <;> rfl
  have hcount : Json.spaced g 1 (.int s.errorCount) = (toString s.errorCount).toList :=
    congrArg String.toList (Json.text_nat s.errorCount)
  have hnames : Json.quote "valid" ++ [':'] = "\"valid\":".toList ∧
      Json.quote "error_count" ++ [':'] = "\"error_count\":".toList ∧
      Json.quote "errors" ++ [':'] = "\"errors\":".toList := by decide
  obtain ⟨hvalidName, hcountName, herrorsName⟩ := hnames
  refine ⟨Json.spacedParts g 0 '\x7d' false (s.lastMembers.map (Json.spacedMember g 1)), ?_⟩
  rw [document, Json.spaced_object, ← hvalid, ← hcount, ← hvalidName, ← hcountName, ← herrorsName]
  simp only [List.map_cons, Json.spacedParts, Json.spacedMember, List.append_assoc,
    List.cons_append, List.nil_append, if_true, Bool.false_eq_true, if_false]

theorem beginsWith_compact :
    BeginsWith .json s.valid s.errorCount s.errors s.document.compact := by
  obtain ⟨rest, hrest⟩ := s.spaced_begins .tight
  refine ⟨_, String.ofList rest, .json, ?_⟩
  rw [Json.compact, ← Json.spaced_tight _ 0, hrest, Json.spaced_tight, Json.chars_array]
  apply String.toList_inj.mp
  simp [Json.Spacing.tight]

theorem beginsWith_pretty :
    BeginsWith .jsonPretty s.valid s.errorCount s.errors s.document.pretty := by
  obtain ⟨rest, hrest⟩ := s.spaced_begins .lines
  refine ⟨_, String.ofList rest, .jsonPretty, ?_⟩
  rw [Json.pretty, ← Json.spaced_lines _ 0, hrest, Json.spaced_lines, Json.prettyChars_array]
  apply String.toList_inj.mp
  simp [Json.Spacing.lines, Json.newLine, List.replicate]

/-! ## YAML -/

open Yaml

theorem yaml_count (n : Nat) : (Json.object [("error_count", .int n)]).yaml =
    "error_count: " ++ toString n ++ "\n" := by
  have hkey : String.ofList (putKey 0 "error_count" {}).written.reverse = "error_count:" := rfl
  change closed ((putKey 0 "error_count" {}).indicator (toString (n : Int)).toList) = _
  rw [closed_indicator rfl, hkey, String.ofList_toList]
  rfl

/-- The item of an error. -/
theorem yamlItem (e : Violation) : YamlItem e (Json.array [e.document]).yaml := by
  obtain ⟨more, hmore⟩ : ∃ more, e.document =
      .object (("location", .string e.location.name) :: ("path", .string e.path) :: more) := by
    unfold Violation.document
    split
    · exact ⟨_, rfl⟩
    · exact ⟨_, rfl⟩
  -- up to the second name all that is written is known, and behind it writing only goes on
  let first : Pen := putKey 2 "path"
    (putNode (some 2) true (.string e.location.name) (putKey 2 "location" (Pen.opener {} '-')))
  have hfirst : String.ofList first.written.reverse =
      "- location: " ++ e.location.name ++ "\n  path:" := by
    simp only [first]
    cases e.location <;> rfl
  have hmoreWritten := (extends_putNode (some 2) true (.string e.path) first).trans
    (extends_putMembers 2 more _)
  obtain ⟨rest, hrest⟩ := closed_extends hmoreWritten
  refine ⟨rfl, rest, ?_⟩
  rw [hmore, ← hfirst]
  exact hrest

theorem yaml_errors_cons (e : Violation) (errors : List Violation) :
    ∃ items, List.Forall₂ YamlItem (e :: errors) items ∧
      (Json.object [("errors", .array ((e :: errors).map Violation.document))]).yaml =
        "errors:\n" ++ String.join items := by
  refine ⟨(e :: errors).map fun e => (Json.array [e.document]).yaml, ?_, ?_⟩
  · rw [List.forall₂_map_right_iff, List.forall₂_same]
    exact fun e _ => yamlItem e
  · have hkey : closed (putKey 0 "errors" {}) = "errors:\n" := rfl
    rw [List.map_cons, yaml_member_array rfl, hkey, yaml_array (by simp), ← List.map_cons,
      List.map_map]
    rfl

theorem beginsWith_yaml :
    BeginsWith .yaml s.valid s.errorCount s.errors s.document.yaml := by
  have hvalid : (Json.object [("valid", .bool s.valid)]).yaml =
      "valid: " ++ toString s.valid ++ "\n" := by
    cases s.valid <;> rfl
  obtain ⟨m, ms, hlast⟩ : ∃ m ms, s.lastMembers = m :: ms := by
    unfold lastMembers
    split
    · exact ⟨_, _, rfl⟩
    · exact ⟨_, _, rfl⟩
  rw [document, hlast, yaml_object_cons, yaml_object_cons, yaml_object_cons, hvalid, yaml_count]
  cases herrors : s.errors with
  | nil =>
    refine ⟨_, (Json.object (m :: ms)).yaml, .yamlNone rfl, ?_⟩
    have hnone : (Json.object [("errors", .array [])]).yaml = "errors: []\n" := rfl
    rw [List.map_nil, hnone]
    apply String.toList_inj.mp
    simp
  | cons e errors =>
    obtain ⟨items, hitems, htext⟩ := yaml_errors_cons e errors
    refine ⟨_, (Json.object (m :: ms)).yaml, .yamlSome (by simp) hitems, ?_⟩
    rw [htext]
    apply String.toList_inj.mp
    simp

end Summary

/-! ## What is printed -/

namespace BeginsWith

variable {layout : Layout} {valid valid' : Bool} {count count' : Nat}
  {errors errors' : List Violation} {text : String}

theorem append (h : BeginsWith layout valid count errors text) (more : String) :
    BeginsWith layout valid count errors (text ++ more) := by
  obtain ⟨head, rest, hopens, rfl⟩ := h
  exact ⟨head, rest ++ more, hopens, String.append_assoc⟩

/-- What stands in front of the verdict. -/
def start : Layout → String
  | .human => ""
  | .json => "\x7b\"valid\":"
  | .jsonPretty => "\x7b\n  \"valid\": "
  | .yaml => "valid: "

theorem starts (h : BeginsWith layout valid count errors text) :
    ∃ rest, text = start layout ++ (toString valid ++ rest) := by
  obtain ⟨head, rest, hopens, rfl⟩ := h
  cases hopens <;> exact ⟨_, by simp only [start, String.append_assoc]; rfl⟩

/-- A text does not begin with two verdicts. -/
theorem valid_unique (h : BeginsWith layout valid count errors text)
    (h' : BeginsWith layout valid' count' errors' text) : valid = valid' := by
  obtain ⟨rest, rfl⟩ := h.starts
  obtain ⟨rest', hrest'⟩ := h'.starts
  have hsame : (toString valid ++ rest).toList = (toString valid' ++ rest').toList := by
    simpa using congrArg String.toList hrest'
  have htrue : toString true = "true" := rfl
  have hfalse : toString false = "false" := rfl
  cases valid <;> cases valid' <;> simp [htrue, hfalse] at hsame ⊢

end BeginsWith

namespace Prints

variable {s : Summary} {layout : Layout} {text : String}

/-- What is printed begins with the verdict, the number of errors and the errors. -/
theorem begins (h : Prints s.document layout text) :
    BeginsWith layout s.valid s.errorCount s.errors text := by
  cases h with
  | json => exact s.beginsWith_compact
  | jsonPretty => exact s.beginsWith_pretty
  | yaml => exact s.beginsWith_yaml

/-- JSON is read back, also with blanks behind it. -/
theorem reads (h : Prints s.document layout text) (hlayout : layout ≠ .yaml) (hs : s.Portable)
    {blanks : List Char} (hblanks : ∀ c ∈ blanks, Json.isSpace c = true) :
    Json.read (text ++ String.ofList blanks) = .ok s.document := by
  have hexact : Json.Exact 127 s.document := by
    rw [← s.toJson_eq_document]
    exact Summary.exact_toJson hs
  cases h with
  | json => exact Json.read_compact_append hexact hblanks
  | jsonPretty => exact Json.read_pretty_append hexact hblanks
  | yaml => contradiction

end Prints

end RequestValidation
