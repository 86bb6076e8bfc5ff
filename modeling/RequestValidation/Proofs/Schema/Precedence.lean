import RequestValidation.Config.Basic
import RequestValidation.Proofs.Distinct
import RequestValidation.Proofs.Schema.Ignored
/-!
# Where fields are looked for

Four levels may say where a field is looked for: the schema for the field itself, the command, the
configuration, and then there are all locations. The first level that says something counts, and
names that are no locations say nothing.

Results:
* `locationsNamed_eq`: the names that are read as locations are those of the table.
* `locationsFor_eq`, `resolve_locationsFor`: the two passes come to one precedence.
* `plan_withKnownNames`: names that are no locations have no influence.
* `locations_by_precedence`: the locations of the chains of a schema.
-/
namespace RequestValidation

/-- The locations with their names, in canonical order. -/
def namedLocations : List (String × Location) :=
  [("body", .body), ("cookies", .cookies), ("headers", .headers), ("params", .params),
    ("query", .query)]

/-- The locations that some names are those of, in order. -/
def locationsNamed (names : List String) : List Location :=
  names.flatMap fun name => (namedLocations.filter (·.1 = name)).map (·.2)

/-- The first list that is not empty. -/
def firstGiven : List (List Location) → List Location
  | [] => []
  | given :: rest => if given = [] then firstGiven rest else given

/-- The names that a field is configured with: none, one or several. -/
def FieldSchema.locationNames (f : FieldSchema) : List String :=
  match f.locations with
  | none => []
  | some (.one name) => [name]
  | some (.many names) => names

/-- What each level says about where a field is looked for, the one that counts most first. -/
def locationLevels (config : Config) (flags : List Location) (f : FieldSchema) :
    List (List Location) :=
  [locationsNamed f.locationNames, flags, locationsNamed config.defaultLocations,
    namedLocations.map (·.2)]

/-! ## Names that are no locations -/

/-- The names that are those of locations. -/
def knownNames (names : List String) : List String :=
  names.filter fun name => namedLocations.any (·.1 = name)

/-- The configuration without names that are no locations. -/
def Config.withKnownNames (c : Config) : Config :=
  { c with defaultLocations := knownNames c.defaultLocations }

/-- The field without names that are no locations. -/
def FieldSchema.withKnownNames (f : FieldSchema) : FieldSchema :=
  { f with locations := f.locations.map fun _ => .many (knownNames f.locationNames) }

/-- The schema without names that are no locations. -/
def Schema.withKnownNames (s : Schema) : Schema where
  fields := s.fields.map fun p => (p.1, p.2.withKnownNames)

theorem locationsNamed_knownNames (names : List String) :
    locationsNamed (knownNames names) = locationsNamed names := by
  unfold locationsNamed knownNames
  induction names with
  | nil => rfl
  | cons name names ih =>
    rw [List.filter_cons]
    split
    · rw [List.flatMap_cons, List.flatMap_cons, ih]
    · rename_i hunknown
      rw [List.any_eq_true, not_exists] at hunknown
      have hnone : namedLocations.filter (·.1 = name) = [] :=
        List.filter_eq_nil_iff.mpr fun p hp hname => hunknown p ⟨hp, hname⟩
      rw [List.flatMap_cons, hnone, ih]
      rfl

/-! ## Names as they are read -/

theorem namedLocations_eq : namedLocations = Location.all.map fun l => (l.name, l) := rfl

/-- A name is read as the only location that has it. -/
theorem ofName?_toList (name : String) :
    (Location.ofName? name).toList = (namedLocations.filter (·.1 = name)).map (·.2) := by
  have hfilter : (namedLocations.filter (·.1 = name)).map (·.2) =
      Location.all.filter (·.name = name) := by
    rw [namedLocations_eq, List.filter_map, List.map_map]
    exact List.map_id _
  rw [hfilter]
  cases hread : Location.ofName? name with
  | none =>
    have hother := List.find?_eq_none.mp hread
    exact (List.filter_eq_nil_iff.mpr hother).symm
  | some l =>
    obtain rfl := Location.name_of_ofName? hread
    cases l <;> decide

theorem locationsNamed_eq (names : List String) :
    locationsNamed names = names.filterMap Location.ofName? := by
  unfold locationsNamed
  induction names with
  | nil => rfl
  | cons name names ih =>
    rw [List.flatMap_cons, ih, ← ofName?_toList, List.filterMap_cons]
    cases Location.ofName? name <;> rfl

theorem locationNames_eq (f : FieldSchema) :
    f.locationNames = (f.locations.map LocationChoice.names).getD [] := by
  unfold FieldSchema.locationNames
  rcases f.locations with _ | (name | names) <;> rfl

/-! ## One precedence -/

@[simp] theorem firstGiven_nil_cons (rest : List (List Location)) :
    firstGiven ([] :: rest) = firstGiven rest := rfl

@[simp] theorem firstGiven_singleton (l : List Location) : firstGiven [l] = l := by
  cases l <;> rfl

theorem firstGiven_ne_nil {levels : List (List Location)} (h : ∃ l ∈ levels, l ≠ []) :
    firstGiven levels ≠ [] := by
  induction levels with
  | nil =>
    obtain ⟨l, hl, -⟩ := h
    cases hl
  | cons given rest ih =>
    unfold firstGiven
    split
    · rename_i hgiven
      obtain ⟨l, hl, hne⟩ := h
      rcases List.mem_cons.mp hl with rfl | hl
      · exact absurd hgiven hne
      · exact ih ⟨l, hl, hne⟩
    · assumption

theorem resolve_eq (choice : Option LocationChoice) (defaults : List Location) :
    LocationChoice.resolve choice defaults =
      distinct (firstGiven [locationsNamed ((choice.map LocationChoice.names).getD []),
        defaults]) := by
  rw [locationsNamed_eq]
  unfold LocationChoice.resolve firstGiven
  simp only [List.isEmpty_iff]
  split
  · cases defaults <;> rfl
  · rfl

/-- The configuration is asked if nothing is given with the command. -/
theorem locationsFor_eq (config : Config) (flags : List Location) :
    config.locationsFor flags =
      distinct (firstGiven [flags, locationsNamed config.defaultLocations,
        namedLocations.map (·.2)]) := by
  unfold Config.locationsFor
  rw [resolve_eq, resolve_eq]
  cases flags <;> rfl

/-- The schema is asked first. -/
theorem resolve_locationsFor (config : Config) (flags : List Location) (f : FieldSchema) :
    LocationChoice.resolve f.locations (config.locationsFor flags) =
      distinct (firstGiven (locationLevels config flags f)) := by
  rw [resolve_eq, ← locationNames_eq, locationsFor_eq]
  unfold locationLevels
  generalize locationsNamed f.locationNames = named
  cases named with
  | nil =>
    rw [firstGiven_nil_cons, firstGiven_singleton, firstGiven_nil_cons,
      distinct_of_nodup (nodup_distinct _)]
  | cons l named => rfl

theorem locations_chain (f : FieldSchema) (field : String) (defaults : List Location) :
    (f.chain field defaults).locations = LocationChoice.resolve f.locations defaults :=
  (Chain.addUses_sameTargets (f.start field defaults) f.rules).locations

theorem resolve_withKnownNames (f : FieldSchema) (defaults : List Location) :
    LocationChoice.resolve f.withKnownNames.locations defaults =
      LocationChoice.resolve f.locations defaults := by
  rw [resolve_eq, resolve_eq, ← locationNames_eq, ← locationNames_eq]
  have hnames : f.withKnownNames.locationNames = knownNames f.locationNames := by
    unfold FieldSchema.withKnownNames FieldSchema.locationNames
    rcases f.locations with _ | (name | names) <;> rfl
  rw [hnames, locationsNamed_knownNames]

/-- Names that are no locations have no influence on the plan of a schema. -/
theorem plan_withKnownNames (config : Config) (flags : List Location) (s : Schema) :
    s.withKnownNames.plan (config.withKnownNames.locationsFor flags) =
      s.plan (config.locationsFor flags) := by
  have hdefaults : config.withKnownNames.locationsFor flags = config.locationsFor flags := by
    rw [locationsFor_eq, locationsFor_eq]
    unfold Config.withKnownNames
    rw [locationsNamed_knownNames]
  have hchain : ∀ (f : FieldSchema) (field : String) (defaults : List Location),
      f.withKnownNames.chain field defaults = f.chain field defaults := by
    intro f field defaults
    unfold FieldSchema.chain
    rw [resolve_withKnownNames]
    rfl
  unfold Schema.plan Schema.withKnownNames
  rw [hdefaults, List.map_map, List.flatMap_map]
  congr 1
  exact List.map_congr_left fun p _ => hchain p.2 p.1 _

/-- **Precedence of locations.** The chain of a field looks in the locations named for it in the
schema; if there are none, in those given with the command; without these, in those named in the
configuration; and without these in all: always in the order in which they first occur and each
once, and always somewhere. Names that are no locations have no influence at any level. -/
theorem locations_by_precedence (config : Config) (flags : List Location) (s : Schema) :
    List.Forall₂ (fun p c =>
        FirstOccurrences (firstGiven (locationLevels config flags p.2)) c.locations ∧
          c.locations ≠ [] ∧ c.locations.Nodup)
      s.fields (s.plan (config.locationsFor flags)).chains ∧
    s.withKnownNames.plan (config.withKnownNames.locationsFor flags) =
      s.plan (config.locationsFor flags) := by
  refine ⟨?_, plan_withKnownNames config flags s⟩
  unfold Schema.plan
  rw [List.forall₂_map_right_iff, List.forall₂_same]
  intro p _
  have hfirst : FirstOccurrences (firstGiven (locationLevels config flags p.2))
      (p.2.chain p.1 (config.locationsFor flags)).locations := by
    rw [locations_chain, resolve_locationsFor]
    exact firstOccurrences_distinct _
  have hlevels : firstGiven (locationLevels config flags p.2) ≠ [] :=
    firstGiven_ne_nil ⟨namedLocations.map (·.2), by simp [locationLevels], by decide⟩
  exact ⟨hfirst, hfirst.ne_nil hlevels, hfirst.nodup⟩

/-- Flags count more than the configuration, but less than a name in the schema that is one. -/
example :
    ((Schema.plan ⟨[("id", { locations := some (.many ["session", "query"]) }),
        ("age", { locations := some (.one "session") })]⟩
      (Config.locationsFor { defaultLocations := ["headers"] }
        [.params, .body, .params])).chains.map (·.locations)) =
      [[.query], [.params, .body]] := by decide

end RequestValidation
