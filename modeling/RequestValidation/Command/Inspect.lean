import RequestValidation.Command.Validate
/-!
# Inspecting a schema, listing the rules

The command that shows the chains of a schema, with the findings about it, and the one
that lists the catalogue of rules.
-/
namespace RequestValidation

/-- What is written about the chains of a schema. -/
def schemaText (w : Writer) (s : SchemaPlan) : String :=
  let chains := s.chains.map (·.outline)
  if w.forPeople then
    w.chains chains ++ String.join (s.findings.map fun d => w.warning d.display) ++
      w.success ("Compiled " ++ toString s.chains.length ++ " chain(s)")
  else
    w.data (.object [("chains", .array (chains.map ChainOutline.toJson)),
      ("diagnostics", .array (s.findings.map SchemaFinding.toJson))])

/-- Mirrors `handle_inspect`. -/
def inspectSchema (files : Files) (config : Config) (w : Writer) (schema : String)
    (locations : List Location) : Effect :=
  match Document.schema files schema with
  | .ok s => (schemaText w (s.plan (config.locationsFor locations)), .ok ())
  | .error f => ("", .error f)

/-- The rules of a kind, or all of them; mirrors `catalog`. -/
def catalogue (kind : Option RuleRole) : List Rule :=
  Rule.all.filter fun r => kind.all (· = r.role)

/-- What is written about some rules. -/
def rulesText (w : Writer) (rs : List Rule) : String :=
  if w.forPeople then
    w.table ["Rule", "Kind", "Description"] (rs.map fun r => [r.name, r.role.name, r.description])
  else
    w.data (.array (rs.map fun r => .object [("name", .string r.name),
      ("kind", .string r.role.name), ("description", .string r.description)]))

/-- Mirrors `handle_rules`. -/
def listRules (w : Writer) (kind : Option RuleRole) : Effect :=
  (rulesText w (catalogue kind), .ok ())

end RequestValidation
