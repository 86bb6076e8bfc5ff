import Mathlib.Data.List.Nodup
import RequestValidation.Proofs.Request.LetterCase
import RequestValidation.Proofs.Request.Selection
/-!
# Fields without wildcards

A field without wildcards is looked up in each location: it has one path there, and a value or
none. Its occurrences are meant to be what the lookups come to, the locations that have it or else
the first. They are, except that in headers the path is that of the small letters: a field with
capital letters has two paths, and each of them is found or missing for itself.

Results:
* `reached_of_wildcardFree`: in a location such a field reaches one place.
* `occurrences_of_no_lookup`: a field that no location has is missing.
* `occurrences_of_one_path`: with one path, the occurrences are what the lookups come to.
* `occurrences_of_two_paths`: with two paths, they are settled path by path.
* `settledByLookup_of_lower`: a field in small letters is settled by its lookups.
* `settledByLookup_iff`: when the lookups settle what occurs.
* `capital_missing_in_headers`: a field that is found and missing.
-/
namespace RequestValidation

/-- A field whose path has no wildcard. -/
def WildcardFree (field : String) : Prop := .wildcard ∉ Segment.ofPath field

instance (field : String) : Decidable (WildcardFree field) :=
  inferInstanceAs (Decidable (.wildcard ∉ Segment.ofPath field))

/-- The value at the end of the steps. A wildcard leads to no single value. -/
def follow? : Option Json → List Segment → Option Json
  | v, [] => v
  | v, .key k :: rest => follow? (v.bind (·.member? k)) rest
  | v, .index i :: rest => follow? (v.bind (·.index? i)) rest
  | _, .wildcard :: _ => none

/-- The steps as they are written behind a path. -/
def spell : List Segment → String → String
  | [], path => path
  | .key k :: rest, path => spell rest (appendName path k)
  | .index i :: rest, path => spell rest (appendIndex path i)
  | .wildcard :: rest, path => spell rest path

/-- The value of a field in a location. -/
def lookup? (r : Request) (field : String) (l : Location) : Option Json :=
  follow? (r.root? l) (Segment.ofPath (lookupPath l field))

/-- Whether a location has the field. -/
def isFoundIn (r : Request) (field : String) (l : Location) : Bool := (lookup? r field l).isSome

/-- The path of a field in a location. -/
def pathIn (field : String) (l : Location) : String :=
  spell (Segment.ofPath (lookupPath l field)) ""

/-- A field in a location, found or missing. -/
def occurrenceIn (r : Request) (field : String) (l : Location) : Occurrence :=
  ⟨l, pathIn field l, field, lookup? r field l⟩

/-- The locations that have the field, or else the first. -/
def settling (r : Request) (field : String) (locations : List Location) : List Location :=
  let found := locations.filter (isFoundIn r field)
  if found = [] then locations.take 1 else found

/-- What occurs are the locations that have the field, in their order and with their values, or
else the first location, where the field is missing. -/
def SettledByLookup (r : Request) (field : String) (locations : List Location) : Prop :=
  (occurrences r [field] locations).map (fun o => (o.location, o.value)) =
    (settling r field locations).map fun l => (l, lookup? r field l)

/-! ## One place in a location -/

theorem reach_of_wildcardFree {segments : List Segment} (h : .wildcard ∉ segments)
    (v : Option Json) (path : String) :
    reach v segments path = [(spell segments path, follow? v segments)] := by
  induction segments generalizing v path with
  | nil => rfl
  | cons s segments ih =>
    have hrest : .wildcard ∉ segments := fun hw => h (List.mem_cons_of_mem s hw)
    cases s with
    | key k => exact ih hrest _ _
    | index i => exact ih hrest _ _
    | wildcard => exact absurd List.mem_cons_self h

/-- Small letters bring no wildcard, so a field without one has none in headers either. -/
theorem WildcardFree.lookupPath {field : String} (h : WildcardFree field) (l : Location) :
    WildcardFree (lookupPath l field) := by
  unfold RequestValidation.lookupPath
  split
  · exact fun hw => h (Segment.wildcard_mem_ofPath (Text.sameMarks_lower field) hw)
  · exact h

theorem reached_of_wildcardFree {field : String} (h : WildcardFree field) (r : Request)
    (l : Location) : reached r field l = [(pathIn field l, lookup? r field l)] :=
  reach_of_wildcardFree (h.lookupPath l) (r.root? l) ""

theorem candidates_of_wildcardFree {field : String} (h : WildcardFree field) (r : Request)
    (locations : List Location) :
    candidates r field locations = locations.map (occurrenceIn r field) := by
  unfold candidates
  simp only [reached_of_wildcardFree h, List.map_singleton]
  exact List.map_eq_flatMap.symm

theorem pathIn_of_ne_headers (field : String) {l : Location} (h : l ≠ .headers) :
    pathIn field l = pathIn field .body := by
  unfold pathIn lookupPath
  rw [if_neg h, if_neg (by decide)]

theorem valueAt?_of_wildcardFree {field : String} (h : WildcardFree field) (r : Request)
    (path : String) (l : Location) :
    valueAt? r field path l = if pathIn field l = path then lookup? r field l else none := by
  rw [valueAt?, ← reached_eq_placesIn, reached_of_wildcardFree h, List.findSome?_singleton]

theorem reaches_of_wildcardFree {field : String} (h : WildcardFree field) (r : Request)
    (path : String) (l : Location) : reaches r field path l = (pathIn field l == path) := by
  rw [reaches, ← reached_eq_placesIn, reached_of_wildcardFree h, List.any_cons, List.any_nil,
    Bool.or_false]

/-- A field that no location has occurs all the same, and is missing. -/
theorem occurrences_of_no_lookup {r : Request} {field : String} {locations : List Location}
    (hfree : WildcardFree field) (hne : locations ≠ [])
    (hnone : ∀ l ∈ locations, lookup? r field l = none) :
    occurrences r [field] locations ≠ [] ∧
      ∀ o ∈ occurrences r [field] locations, o.value = none := by
  have hvalue : ∀ path, ∀ l ∈ locations, valueAt? r field path l = none := by
    intro path l hl
    rw [valueAt?_of_wildcardFree hfree, hnone l hl, ite_self]
  constructor
  · obtain ⟨l, rest, rfl⟩ := List.exists_cons_of_ne_nil hne
    have hfirst : (l :: rest).find? (reaches r field (pathIn field l)) = some l := by
      rw [List.find?_cons, reaches_of_wildcardFree hfree, beq_self_eq_true]
    exact List.ne_nil_of_mem (missing_mem_occurrences_iff.mpr ⟨hvalue _, hfirst⟩)
  · intro o ho
    obtain ⟨hfield, hl, -⟩ := mem_occurrences_imp ho
    obtain ⟨l, path, field', value⟩ := o
    obtain rfl : field' = field := hfield
    cases value with
    | none => rfl
    | some v =>
      have := (found_mem_occurrences_iff.mp ho).2
      rw [hvalue path l hl] at this
      cases this

/-! ## The occurrences of one path -/

theorem keepFound_sublist (same : List Occurrence) : (keepFound same).Sublist same := by
  simp only [keepFound]
  split
  · exact List.take_sublist 1 same
  · exact List.filter_sublist

/-- Of the occurrences in some locations those stay that settle what occurs. -/
theorem keepFound_map (r : Request) (field : String) (locations : List Location) :
    keepFound (locations.map (occurrenceIn r field)) =
      (settling r field locations).map (occurrenceIn r field) := by
  have hfound : (locations.map (occurrenceIn r field)).filter (·.value.isSome) =
      (locations.filter (isFoundIn r field)).map (occurrenceIn r field) :=
    List.filter_map
  simp only [keepFound, settling, hfound, List.isEmpty_iff, List.map_eq_nil_iff]
  split
  · exact List.map_take.symm
  · rfl

/-- The occurrences are those of one path after the other. -/
theorem occurrences_of_wildcardFree {field : String} {locations : List Location}
    (hfree : WildcardFree field) (hnodup : locations.Nodup) (r : Request) :
    occurrences r [field] locations =
      (distinct (locations.map (pathIn field))).flatMap fun path =>
        (settling r field (locations.filter (pathIn field · == path))).map
          (occurrenceIn r field) := by
  have hpaths : (locations.map (occurrenceIn r field)).map (·.path) =
      locations.map (pathIn field) := by
    rw [List.map_map]
    rfl
  have hgroup : ∀ path, (locations.map (occurrenceIn r field)).filter (·.path == path) =
      (locations.filter (pathIn field · == path)).map (occurrenceIn r field) := by
    intro path
    rw [List.filter_map]
    rfl
  have hof : occurrencesOf r locations field =
      (distinct (locations.map (pathIn field))).flatMap fun path =>
        (settling r field (locations.filter (pathIn field · == path))).map
          (occurrenceIn r field) := by
    simp only [occurrencesOf, candidates_of_wildcardFree hfree, hpaths, hgroup, keepFound_map]
  rw [occurrences_eq_eraseDups, List.flatMap_cons, List.flatMap_nil, List.append_nil, hof]
  -- no place comes twice: one path has distinct locations, and two paths are distinct
  refine eraseDupsBy_of_pairwise _ (List.pairwise_flatMap.mpr ⟨fun path _ => ?_, ?_⟩)
  · rw [← keepFound_map]
    refine List.Pairwise.sublist (keepFound_sublist _) (List.pairwise_map.mpr ?_)
    refine (hnodup.sublist List.filter_sublist).imp fun {l m} hne => ?_
    simp [Occurrence.samePlace, occurrenceIn, Ne.symm hne]
  · refine (nodup_distinct _).imp fun {p q} hne a ha b hb => ?_
    have hpath : ∀ {o : Occurrence} {path : String}, o ∈ (settling r field
        (locations.filter (pathIn field · == path))).map (occurrenceIn r field) →
        o.path = path := by
      intro o path ho
      rw [← keepFound_map] at ho
      obtain ⟨l, hl, rfl⟩ := List.mem_map.mp ((keepFound_sublist _).mem ho)
      exact beq_iff_eq.mp (List.mem_filter.mp hl).2
    simp [Occurrence.samePlace, hpath ha, hpath hb, Ne.symm hne]

theorem eq_singleton_of_nodup {α : Type} {a : α} {l : List α} (hl : l.Nodup)
    (h : ∀ b, b ∈ l ↔ b = a) : l = [a] :=
  List.perm_singleton.mp
    ((List.perm_ext_iff_of_nodup hl (List.nodup_singleton a)).mpr (by simpa using h))

theorem distinct_pair {α : Type} [DecidableEq α] {a b : α} {l : List α} (hab : b ≠ a)
    (hb : b ∈ l) (hl : ∀ c ∈ l, c = a ∨ c = b) : distinct (a :: l) = [a, b] := by
  have hrest : (distinct l).filter (· ≠ a) = [b] := by
    refine eq_singleton_of_nodup ((nodup_distinct l).sublist List.filter_sublist) fun c => ?_
    rw [List.mem_filter, mem_distinct, decide_eq_true_iff]
    constructor
    · rintro ⟨hc, hca⟩
      exact (hl c hc).resolve_left hca
    · rintro rfl
      exact ⟨hb, hab⟩
  rw [distinct, hrest]

/-- With one path, the occurrences are what the lookups come to. -/
theorem occurrences_of_one_path {field path : String} {locations : List Location}
    (hfree : WildcardFree field) (hnodup : locations.Nodup) (hne : locations ≠ [])
    (hone : ∀ l ∈ locations, pathIn field l = path) (r : Request) :
    occurrences r [field] locations =
      (settling r field locations).map (occurrenceIn r field) := by
  have hdistinct : distinct (locations.map (pathIn field)) = [path] := by
    refine eq_singleton_of_nodup (nodup_distinct _) fun p => ?_
    rw [mem_distinct, List.mem_map]
    constructor
    · rintro ⟨l, hl, rfl⟩
      exact hone l hl
    · rintro rfl
      obtain ⟨l, hl⟩ := List.exists_mem_of_ne_nil locations hne
      exact ⟨l, hl, hone l hl⟩
  have hall : locations.filter (pathIn field · == path) = locations :=
    List.filter_eq_self.mpr fun l hl => beq_iff_eq.mpr (hone l hl)
  rw [occurrences_of_wildcardFree hfree hnodup, hdistinct, List.flatMap_singleton, hall]

theorem settling_singleton (r : Request) (field : String) (l : Location) :
    settling r field [l] = [l] := by
  unfold settling
  cases h : isFoundIn r field l <;> simp [h]

section
variable {field : String} {before after : List Location}

/-- Of two paths, that of the first location comes first. -/
theorem distinct_paths (hheaders : Location.headers ∉ before ++ after)
    (hother : before ++ after ≠ []) (htwo : pathIn field .headers ≠ pathIn field .body) :
    distinct ((before ++ .headers :: after).map (pathIn field)) =
      if before = [] then [pathIn field .headers, pathIn field .body]
      else [pathIn field .body, pathIn field .headers] := by
  have hpath : ∀ l ∈ before ++ after, pathIn field l = pathIn field .body :=
    fun l hl => pathIn_of_ne_headers field fun e => hheaders (e ▸ hl)
  cases before with
  | nil =>
    rw [List.nil_append] at hother hpath
    obtain ⟨l, hl⟩ := List.exists_mem_of_ne_nil after hother
    have hmem : pathIn field .body ∈ after.map (pathIn field) := by
      rw [← hpath l hl]
      exact List.mem_map_of_mem hl
    rw [List.nil_append, List.map_cons, if_pos rfl, distinct_pair (Ne.symm htwo) hmem]
    intro p hp
    obtain ⟨m, hm, rfl⟩ := List.mem_map.mp hp
    exact .inr (hpath m hm)
  | cons b before =>
    have hb : pathIn field b = pathIn field .body := hpath b List.mem_cons_self
    have hmem : pathIn field .headers ∈ (before ++ .headers :: after).map (pathIn field) :=
      List.mem_map_of_mem (List.mem_append_right _ List.mem_cons_self)
    rw [List.cons_append, List.map_cons, hb, if_neg (List.cons_ne_nil b before),
      distinct_pair htwo hmem]
    intro p hp
    obtain ⟨m, -, rfl⟩ := List.mem_map.mp hp
    by_cases hm : m = .headers
    · exact .inr (by rw [hm])
    · exact .inl (pathIn_of_ne_headers field hm)

/-- With two paths, the headers are settled apart from the other locations. -/
theorem occurrences_of_two_paths (hfree : WildcardFree field)
    (hnodup : (before ++ .headers :: after).Nodup) (hother : before ++ after ≠ [])
    (htwo : pathIn field .headers ≠ pathIn field .body) (r : Request) :
    occurrences r [field] (before ++ .headers :: after) =
      (if before = [] then .headers :: settling r field after
        else settling r field (before ++ after) ++ [.headers]).map (occurrenceIn r field) := by
  have hheaders : Location.headers ∉ before ++ after :=
    (List.nodup_cons.mp (List.nodup_middle.mp hnodup)).1
  have hpath : ∀ l ∈ before ++ after, pathIn field l = pathIn field .body :=
    fun l hl => pathIn_of_ne_headers field fun e => hheaders (e ▸ hl)
  have hbody : (before ++ .headers :: after).filter (pathIn field · == pathIn field .body) =
      before ++ after := by
    rw [List.filter_append, List.filter_cons_of_neg (by simpa using htwo), ← List.filter_append]
    exact List.filter_eq_self.mpr fun l hl => beq_iff_eq.mpr (hpath l hl)
  have hself : (before ++ .headers :: after).filter (pathIn field · == pathIn field .headers) =
      [.headers] := by
    have hnone : (before ++ after).filter (pathIn field · == pathIn field .headers) = [] :=
      List.filter_eq_nil_iff.mpr fun l hl => by simp [hpath l hl, Ne.symm htwo]
    rw [List.filter_append, List.append_eq_nil_iff] at hnone
    rw [List.filter_append, List.filter_cons_of_pos (by simp), hnone.1, hnone.2, List.nil_append]
  rw [occurrences_of_wildcardFree hfree hnodup, distinct_paths hheaders hother htwo]
  split
  · rename_i hfirst
    rw [List.flatMap_cons, List.flatMap_singleton, hself, hbody, settling_singleton, hfirst]
    rfl
  · rw [List.flatMap_cons, List.flatMap_singleton, hself, hbody, settling_singleton,
      List.map_append]

end

/-! ## When the lookups settle what occurs -/

/-- Locations are told by their occurrences. -/
theorem settledByLookup_of_occurrences {r : Request} {field : String}
    {locations kept : List Location}
    (h : occurrences r [field] locations = kept.map (occurrenceIn r field)) :
    SettledByLookup r field locations ↔ kept = settling r field locations := by
  have hview : (kept.map (occurrenceIn r field)).map (fun o => (o.location, o.value)) =
      kept.map fun l => (l, lookup? r field l) := by
    rw [List.map_map]
    rfl
  have hinj : Function.Injective fun l => (l, lookup? r field l) :=
    fun l m e => (Prod.mk.inj e).1
  rw [SettledByLookup, h, hview]
  exact (List.map_injective_iff.mpr hinj).eq_iff

theorem settling_of_found {r : Request} {field : String} {locations : List Location}
    (h : ∃ l ∈ locations, isFoundIn r field l = true) :
    settling r field locations = locations.filter (isFoundIn r field) := by
  obtain ⟨l, hl, hv⟩ := h
  exact if_neg fun hnone => by simpa [hv] using List.filter_eq_nil_iff.mp hnone l hl

theorem settling_of_not_found {r : Request} {field : String} {locations : List Location}
    (h : ¬ ∃ l ∈ locations, isFoundIn r field l = true) :
    settling r field locations = locations.take 1 :=
  if_pos (List.filter_eq_nil_iff.mpr fun l hl hv => h ⟨l, hl, hv⟩)

/-- The headers, with other locations `before` and `after` them, are settled together with these
as they are apart: both have the field, and the headers come first or behind all others that have
it. -/
def HeadersFit (r : Request) (field : String) (before after : List Location) : Prop :=
  isFoundIn r field .headers = true ∧
    (∃ l ∈ before ++ after, isFoundIn r field l = true) ∧
    (before = [] ∨ ∀ l ∈ after, isFoundIn r field l = false)

section
variable (r : Request) (field : String) {before after : List Location}

/-- Where the headers or all others lack the field, they count for less together than apart. -/
theorem length_settling_lt (hother : before ++ after ≠ [])
    (h : ¬ (isFoundIn r field .headers = true ∧
      ∃ l ∈ before ++ after, isFoundIn r field l = true)) :
    (settling r field (before ++ .headers :: after)).length <
      (settling r field (before ++ after)).length + 1 := by
  have hone : ∀ {l : List Location}, l ≠ [] → (l.take 1).length = 1 := by
    intro l hl
    obtain ⟨a, l, rfl⟩ := List.exists_cons_of_ne_nil hl
    rfl
  by_cases hfound : ∃ l ∈ before ++ after, isFoundIn r field l = true
  · have hnone : ¬ isFoundIn r field .headers = true := fun hh => h ⟨hh, hfound⟩
    have hall : ∃ l ∈ before ++ .headers :: after, isFoundIn r field l = true := by
      obtain ⟨l, hl, hv⟩ := hfound
      refine ⟨l, ?_, hv⟩
      simp only [List.mem_append, List.mem_cons] at hl ⊢
      exact hl.imp id .inr
    rw [settling_of_found hall, settling_of_found hfound, List.filter_append,
      List.filter_cons_of_neg hnone, ← List.filter_append]
    exact Nat.lt_succ_self _
  · have hothers := hone hother
    rw [settling_of_not_found hfound, hothers]
    by_cases hall : ∃ l ∈ before ++ .headers :: after, isFoundIn r field l = true
    · have hnil : (before ++ after).filter (isFoundIn r field) = [] :=
        List.filter_eq_nil_iff.mpr fun l hl hv => hfound ⟨l, hl, hv⟩
      rw [List.filter_append, List.append_eq_nil_iff] at hnil
      rw [settling_of_found hall, List.filter_append, List.filter_cons, hnil.1, hnil.2]
      split <;> simp
    · rw [settling_of_not_found hall, hone (by simp)]
      decide

/-- When the headers apart and the other locations are settled as all of them together. -/
theorem settling_eq_iff (hheaders : Location.headers ∉ before ++ after)
    (hother : before ++ after ≠ []) :
    (if before = [] then .headers :: settling r field after
      else settling r field (before ++ after) ++ [.headers]) =
        settling r field (before ++ .headers :: after) ↔ HeadersFit r field before after := by
  by_cases h : isFoundIn r field .headers = true ∧
      ∃ l ∈ before ++ after, isFoundIn r field l = true
  · have hall : ∃ l ∈ before ++ .headers :: after, isFoundIn r field l = true :=
      ⟨.headers, by simp, h.1⟩
    rw [settling_of_found hall, List.filter_append, List.filter_cons_of_pos h.1]
    by_cases hfirst : before = []
    · subst hfirst
      have hfound := h.2
      rw [List.nil_append] at hfound
      rw [if_pos rfl, settling_of_found hfound]
      exact iff_of_true rfl ⟨h.1, h.2, .inl rfl⟩
    · have hfit : HeadersFit r field before after ↔ ∀ l ∈ after, isFoundIn r field l = false :=
        ⟨fun hf => hf.2.2.resolve_left hfirst, fun hnone => ⟨h.1, h.2, .inr hnone⟩⟩
      rw [if_neg hfirst, settling_of_found h.2, List.filter_append, List.append_assoc,
        List.append_cancel_left_eq, hfit]
      -- only a run without other locations is the same with the headers in front or behind
      cases hafter : after.filter (isFoundIn r field) with
      | nil =>
        refine iff_of_true rfl fun l hl => ?_
        simpa using List.filter_eq_nil_iff.mp hafter l hl
      | cons l rest =>
        have hl : l ∈ after.filter (isFoundIn r field) := by rw [hafter]; simp
        obtain ⟨hl, hv⟩ := List.mem_filter.mp hl
        refine iff_of_false (fun e => ?_) fun hnone => by simp [hnone l hl] at hv
        rw [List.cons_append] at e
        exact hheaders (List.mem_append_right _ ((List.cons.inj e).1 ▸ hl))
  · refine iff_of_false (fun e => ?_) fun hfit => h ⟨hfit.1, hfit.2.1⟩
    have hlt := length_settling_lt r field hother h
    rw [← e] at hlt
    split at hlt
    · rename_i hfirst
      rw [hfirst, List.nil_append, List.length_cons] at hlt
      exact Nat.lt_irrefl _ hlt
    · rw [List.length_append, List.length_singleton] at hlt
      exact Nat.lt_irrefl _ hlt

end

theorem settledByLookup_of_one_path {field : String} {locations : List Location}
    (hfree : WildcardFree field) (hnodup : locations.Nodup) (hne : locations ≠ []) (path : String)
    (hone : ∀ l ∈ locations, pathIn field l = path) (r : Request) :
    SettledByLookup r field locations :=
  (settledByLookup_of_occurrences (occurrences_of_one_path hfree hnodup hne hone r)).mpr rfl

/-- A field in small letters is settled by its lookups, wherever it is looked for. -/
theorem settledByLookup_of_lower {field : String} {locations : List Location}
    (hfree : WildcardFree field) (hnodup : locations.Nodup) (hne : locations ≠ [])
    (hlower : Text.lower field = field) (r : Request) : SettledByLookup r field locations := by
  refine settledByLookup_of_one_path hfree hnodup hne (pathIn field .body) (fun l _ => ?_) r
  unfold pathIn lookupPath
  rw [hlower, ite_self, ite_self]

/-- **When the lookups settle what occurs.** For a field without wildcards, in distinct locations,
that is so exactly when the field has one path in headers and elsewhere, or else the headers are
not among the locations, or are the only one, or fit the others. -/
theorem settledByLookup_iff {r : Request} {field : String} {locations : List Location}
    (hfree : WildcardFree field) (hnodup : locations.Nodup) (hne : locations ≠ []) :
    SettledByLookup r field locations ↔
      pathIn field .headers = pathIn field .body ∨
        ∀ before after, locations = before ++ .headers :: after →
          before ++ after = [] ∨ HeadersFit r field before after := by
  by_cases hone : pathIn field .headers = pathIn field .body
  · refine iff_of_true (settledByLookup_of_one_path hfree hnodup hne (pathIn field .body)
      (fun l _ => ?_) r) (.inl hone)
    by_cases hl : l = .headers
    · rw [hl, hone]
    · exact pathIn_of_ne_headers field hl
  rw [or_iff_right hone]
  by_cases hmem : Location.headers ∈ locations
  · obtain ⟨before, after, rfl⟩ := List.append_of_mem hmem
    have hheaders : Location.headers ∉ before ++ after :=
      (List.nodup_cons.mp (List.nodup_middle.mp hnodup)).1
    have hsplit : (∀ before' after',
        before ++ .headers :: after = before' ++ Location.headers :: after' →
          before' ++ after' = [] ∨ HeadersFit r field before' after') ↔
        before ++ after = [] ∨ HeadersFit r field before after := by
      refine ⟨fun h => h before after rfl, fun h before' after' e => ?_⟩
      obtain ⟨hb, ha⟩ := not_or.mp fun h => hheaders (List.mem_append.mpr h)
      obtain ⟨rfl, -, rfl⟩ := (List.append_cons_inj_of_notMem hb ha).mp e
      exact h
    rw [hsplit]
    by_cases hother : before ++ after = []
    · obtain ⟨rfl, rfl⟩ := List.append_eq_nil_iff.mp hother
      refine iff_of_true (settledByLookup_of_one_path hfree hnodup hne (pathIn field .headers)
        (fun l hl => ?_) r) (.inl rfl)
      rw [List.mem_singleton.mp hl]
    · rw [or_iff_right hother,
        settledByLookup_of_occurrences (occurrences_of_two_paths hfree hnodup hother hone r)]
      exact settling_eq_iff r field hheaders hother
  · refine iff_of_true
      (settledByLookup_of_one_path hfree hnodup hne (pathIn field .body) (fun l hl => ?_) r) ?_
    · exact pathIn_of_ne_headers field fun e => hmem (e ▸ hl)
    · rintro before after rfl
      exact absurd (by simp) hmem

/-- In headers and body together a field with a capital letter is settled if both have it. -/
theorem capital_settled_in_both :
    WildcardFree "Email" ∧ [Location.headers, .body].Nodup ∧ [Location.headers, .body] ≠ [] ∧
      SettledByLookup { headers := .object [("email", .null)], body := .object [("Email", .null)] }
        "Email" [.headers, .body] := by
  have hfit : HeadersFit
      { headers := .object [("email", .null)], body := .object [("Email", .null)] }
      "Email" [] [.body] :=
    ⟨by decide, ⟨.body, by simp, by decide⟩, .inl rfl⟩
  refine ⟨by decide, by decide, by decide, ?_⟩
  refine (settledByLookup_iff (by decide) (by decide) (by decide)).mpr (.inr ?_)
  intro before after e
  have hsplit : [] ++ Location.headers :: [.body] = before ++ .headers :: after := e
  obtain ⟨rfl, -, rfl⟩ := (List.append_cons_inj_of_notMem (by simp) (by simp)).mp hsplit
  exact .inr hfit

/-- A body with a member in a capital letter. -/
def capitalized : Request := { body := .object [("Email", .string "a@b.co")] }

/-- The field is found in the body, and missing in the headers all the same. -/
theorem capital_missing_in_headers :
    WildcardFree "Email" ∧ ¬ SettledByLookup capitalized "Email" [.body, .headers] := by
  have hlength : (occurrences capitalized ["Email"] [.body, .headers]).length = 2 := by decide
  have hsettling : settling capitalized "Email" [.body, .headers] = [.body] := by decide
  refine ⟨by decide, fun h => ?_⟩
  have := congrArg List.length h
  rw [List.length_map, hlength, hsettling] at this
  exact absurd this (by decide)

end RequestValidation
