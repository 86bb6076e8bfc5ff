import RequestValidation.Proofs.Request.Position
import RequestValidation.Proofs.Request.Selection
/-!
# Whether every value is covered

A sighting is a value that a field walks to in a location. It is covered if the occurrence at its
path holds the value, and no value escapes if every sighting is covered and sightings at two
positions are covered by two occurrences. As an occurrence is known by its path, a value escapes
when two positions write one path, or when a field that misses the path has taken it before.

Results:
* `sighting_of_valueAt?`, `Sighting.valueAt?_isSome`: values at a path are sightings that write it.
* `Sighting.hidden_or_found`, `findSome?_missing`: what takes the place of a sighting.
* `nothing_escapes_iff`: when no value escapes.
* `two_positions_one_path`: a value that escapes.
-/
namespace RequestValidation

/-- A value that one of the fields walks to in one of the locations. -/
structure Sighting (r : Request) (fields : List String) (locations : List Location) where
  field : String
  location : Location
  root : Json
  position : Position
  value : Json
  field_mem : field ∈ fields
  location_mem : location ∈ locations
  root_eq : r.root? location = some root
  walks : Walks root (Segment.ofPath (lookupPath location field)) position value

variable {r : Request} {fields : List String} {locations : List Location}

namespace Sighting

/-- The path that the walk to the value writes. -/
def path (s : Sighting r fields locations) : String :=
  writePath (Segment.ofPath (lookupPath s.location s.field)) s.position ""

/-- An earlier field, with a value at the path in no location, misses it first in this one. -/
def Hidden (s : Sighting r fields locations) : Prop :=
  ∃ before f after, fields = before ++ f :: after ∧
    (∀ g ∈ before, valueAt? r g s.path s.location = none) ∧
    (∀ l ∈ locations, valueAt? r f s.path l = none) ∧
    locations.find? (reaches r f s.path) = some s.location

end Sighting

/-- Every sighting is covered by the occurrence at its path, and sightings at two positions of a
location are covered by two. -/
def NothingEscapes (r : Request) (fields : List String) (locations : List Location) : Prop :=
  ∃ cover : Sighting r fields locations → Occurrence,
    (∀ s, cover s ∈ occurrences r fields locations ∧ (cover s).location = s.location ∧
      (cover s).path = s.path ∧ (cover s).value = some s.value) ∧
    ∀ s t, s.location = t.location → s.position ≠ t.position → cover s ≠ cover t

/-! ## Sightings and values at a path -/

/-- A value at a path comes from a sighting that writes the path. -/
theorem sighting_of_valueAt? {field path : String} {l : Location} {v : Json}
    (hfield : field ∈ fields) (hl : l ∈ locations) (h : valueAt? r field path l = some v) :
    ∃ s : Sighting r fields locations, s.location = l ∧ s.path = path ∧ s.value = v := by
  obtain ⟨⟨q, w⟩, hp, hv⟩ := List.exists_of_findSome?_eq_some h
  by_cases hq : q = path
  · rw [if_pos hq] at hv
    obtain rfl : w = some v := hv
    rw [← reached_eq_placesIn, reached] at hp
    cases hroot : r.root? l with
    | none => rw [hroot] at hp; exact absurd hp (not_mem_reach_none _ _ _ _)
    | some root =>
      rw [hroot] at hp
      obtain ⟨position, hw, hpath⟩ := mem_reach_iff.mp hp
      exact ⟨⟨field, l, root, position, v, hfield, hl, hroot, hw⟩, rfl, hpath.trans hq, rfl⟩
  · rw [if_neg hq] at hv
    cases hv

/-- The field of a sighting has a value at its path. -/
theorem Sighting.valueAt?_isSome (s : Sighting r fields locations) :
    (valueAt? r s.field s.path s.location).isSome = true := by
  rw [valueAt?, List.findSome?_isSome_iff]
  refine ⟨(s.path, some s.value), ?_, by simp⟩
  rw [← reached_eq_placesIn, reached, s.root_eq]
  exact s.walks.mem_reach ""

/-! ## Who takes a place -/

theorem Sighting.exists_occurrence (s : Sighting r fields locations) :
    ∃ o, (occurrences r fields locations).find? (Occurrence.isAt s.location s.path) = some o := by
  obtain ⟨v, hv⟩ := Option.isSome_iff_exists.mp s.valueAt?_isSome
  have hfound := found_mem_occurrences_iff.mpr ⟨s.location_mem, hv⟩
  refine Option.isSome_iff_exists.mp ?_
  rw [find?_occurrences, List.findSome?_isSome_iff]
  refine ⟨s.field, s.field_mem, List.find?_isSome.mpr ⟨_, hfound, ?_⟩⟩
  exact Occurrence.isAt_iff.mpr ⟨rfl, rfl⟩

/-- What has taken the place of a sighting holds a value, unless the sighting is hidden. -/
theorem Sighting.hidden_or_found (s : Sighting r fields locations) {o : Occurrence}
    (h : (occurrences r fields locations).find? (Occurrence.isAt s.location s.path) = some o) :
    s.Hidden ∨ ∃ t : Sighting r fields locations,
      t.location = s.location ∧ t.path = s.path ∧ o.value = some t.value := by
  rw [find?_occurrences] at h
  obtain ⟨before, f, after, hsplit, hf, hbefore⟩ := List.findSome?_eq_some_iff.mp h
  have hmem := List.mem_of_find?_eq_some hf
  obtain ⟨hlocation, hpath⟩ := Occurrence.isAt_iff.mp (List.find?_some hf)
  have hfield := (mem_occurrences_imp hmem).1
  obtain ⟨l, path, field, value⟩ := o
  obtain rfl : l = s.location := hlocation
  obtain rfl : path = s.path := hpath
  obtain rfl : field = f := hfield
  cases value with
  | none =>
    obtain ⟨hnone, hfirst⟩ := missing_mem_occurrences_iff.mp hmem
    refine .inl ⟨before, field, after, hsplit, fun g hg => ?_, hnone, hfirst⟩
    -- an earlier field with a value here would have taken the place
    cases hv : valueAt? r g s.path s.location with
    | none => rfl
    | some v =>
      have hfound := found_mem_occurrences_iff.mpr ⟨s.location_mem, hv⟩
      have := List.find?_eq_none.mp (hbefore g hg) _ hfound
      exact absurd (Occurrence.isAt_iff.mpr ⟨rfl, rfl⟩) this
  | some v =>
    obtain ⟨hl, hv⟩ := found_mem_occurrences_iff.mp hmem
    have hf : field ∈ fields := by rw [hsplit]; simp
    obtain ⟨t, htl, htp, htv⟩ := sighting_of_valueAt? hf hl hv
    exact .inr ⟨t, htl, htp, by rw [htv]⟩

/-- A field that misses a place takes it, if no field before it is found there. -/
theorem findSome?_missing {before : List String} {f path : String} {l : Location}
    (after : List String) (hbefore : ∀ g ∈ before, valueAt? r g path l = none)
    (hf : ⟨l, path, f, none⟩ ∈ occurrences r [f] locations) :
    ∃ o, ((before ++ f :: after).findSome? fun field =>
      (occurrences r [field] locations).find? (Occurrence.isAt l path)) = some o ∧
        o.value = none := by
  have hvalue : ∀ field o, valueAt? r field path l = none →
      (occurrences r [field] locations).find? (Occurrence.isAt l path) = some o →
      o.value = none := by
    intro field o hnone ho
    have hmem := List.mem_of_find?_eq_some ho
    obtain ⟨hlocation, hpath⟩ := Occurrence.isAt_iff.mp (List.find?_some ho)
    have hfield := (mem_occurrences_imp hmem).1
    cases hv : o.value with
    | none => rfl
    | some v =>
      have e : o = ⟨l, path, field, some v⟩ := by rw [← hlocation, ← hpath, ← hfield, ← hv]
      rw [e, found_mem_occurrences_iff, hnone] at hmem
      cases hmem.2
  induction before with
  | nil =>
    obtain ⟨o, ho⟩ := Option.isSome_iff_exists.mp
      (List.find?_isSome.mpr ⟨_, hf, Occurrence.isAt_iff.mpr ⟨rfl, rfl⟩⟩)
    obtain ⟨hnone, hfirst⟩ := missing_mem_occurrences_iff.mp hf
    refine ⟨o, ?_, hvalue f o (hnone l (List.mem_of_find?_eq_some hfirst)) ho⟩
    rw [List.nil_append, List.findSome?_cons, ho]
  | cons g before ih =>
    have hg := hbefore g List.mem_cons_self
    have hrest := ih fun k hk => hbefore k (List.mem_cons_of_mem g hk)
    rw [List.cons_append, List.findSome?_cons]
    cases ho : (occurrences r [g] locations).find? (Occurrence.isAt l path) with
    | none => exact hrest
    | some o => exact ⟨o, rfl, hvalue g o hg ho⟩

/-! ## When no value escapes -/

theorem NothingEscapes.apart (h : NothingEscapes r fields locations)
    (s t : Sighting r fields locations) (hl : s.location = t.location) (hp : s.path = t.path) :
    s.position = t.position ∧ s.value = t.value := by
  obtain ⟨cover, hcover, hapart⟩ := h
  obtain ⟨hs, hsl, hsp, hsv⟩ := hcover s
  obtain ⟨ht, htl, htp, htv⟩ := hcover t
  have e : cover s = cover t :=
    eq_of_mem_occurrences hs ht (by rw [hsl, htl, hl]) (by rw [hsp, htp, hp])
  refine ⟨?_, ?_⟩
  · exact Classical.byContradiction fun hne => hapart s t hl hne e
  · rw [e, htv] at hsv
    exact (Option.some.inj hsv).symm

theorem NothingEscapes.not_hidden (h : NothingEscapes r fields locations)
    (s : Sighting r fields locations) : ¬ s.Hidden := by
  rintro ⟨before, f, after, hsplit, hbefore, hnone, hfirst⟩
  obtain ⟨cover, hcover, -⟩ := h
  obtain ⟨hs, hsl, hsp, hsv⟩ := hcover s
  obtain ⟨o, ho, hmissing⟩ := findSome?_missing after hbefore
    (missing_mem_occurrences_iff.mpr ⟨hnone, hfirst⟩)
  rw [← hsplit, ← find?_occurrences] at ho
  obtain ⟨hol, hop⟩ := Occurrence.isAt_iff.mp (List.find?_some ho)
  have e : o = cover s :=
    eq_of_mem_occurrences (List.mem_of_find?_eq_some ho) hs (by rw [hol, hsl]) (by rw [hop, hsp])
  rw [e, hsv] at hmissing
  cases hmissing

/-- If paths tell positions apart and no sighting is hidden, no value escapes. -/
theorem nothingEscapes_of_apart
    (hapart : ∀ s t : Sighting r fields locations, s.location = t.location → s.path = t.path →
      s.position = t.position ∧ s.value = t.value)
    (hseen : ∀ s : Sighting r fields locations, ¬ s.Hidden) :
    NothingEscapes r fields locations := by
  have hcover : ∀ s : Sighting r fields locations, ∃ o ∈ occurrences r fields locations,
      o.location = s.location ∧ o.path = s.path ∧ o.value = some s.value := by
    intro s
    obtain ⟨o, ho⟩ := s.exists_occurrence
    obtain ⟨hol, hop⟩ := Occurrence.isAt_iff.mp (List.find?_some ho)
    obtain hhidden | ⟨t, htl, htp, htv⟩ := s.hidden_or_found ho
    · exact absurd hhidden (hseen s)
    · refine ⟨o, List.mem_of_find?_eq_some ho, hol, hop, ?_⟩
      rw [htv, (hapart t s htl htp).2]
  refine ⟨fun s => (hcover s).choose, fun s => (hcover s).choose_spec, fun s t hl hne e => ?_⟩
  obtain ⟨-, -, hsp, -⟩ := (hcover s).choose_spec
  obtain ⟨-, -, htp, -⟩ := (hcover t).choose_spec
  have hp : s.path = t.path := by rw [← hsp, ← htp]; exact congrArg Occurrence.path e
  exact hne (hapart s t hl hp).1

/-- **When no value escapes.** Every value is covered, position by position, exactly when in each
location sightings that write one path are at one position and no field takes the path of a
sighting by missing it. -/
theorem nothing_escapes_iff (r : Request) (fields : List String) (locations : List Location) :
    NothingEscapes r fields locations ↔
      (∀ s t : Sighting r fields locations, s.location = t.location → s.path = t.path →
        s.position = t.position ∧ s.value = t.value) ∧
      ∀ s : Sighting r fields locations, ¬ s.Hidden := by
  constructor
  · exact fun h => ⟨h.apart, h.not_hidden⟩
  · rintro ⟨hapart, hseen⟩
    exact nothingEscapes_of_apart hapart hseen

/-- A body with the members `a` and `a.b`, in which `b.c` and `c` are both written `a.b.c`. -/
def tangled : Request :=
  { body := .object [("a", .object [("b.c", .int 1)]), ("a.b", .object [("c", .int 2)])] }

/-- A value of `tangled` escapes a field with two wildcards. -/
theorem two_positions_one_path : ¬ NothingEscapes tangled ["*.*"] [.body] := by
  intro h
  have hsteps : Segment.ofPath (lookupPath .body "*.*") = [.wildcard, .wildcard] := by decide
  let s : Sighting tangled ["*.*"] [.body] :=
    ⟨"*.*", .body, _, [.member "a", .member "b.c"], .int 1, List.mem_singleton.mpr rfl,
      List.mem_singleton.mpr rfl, rfl, by
        rw [hsteps]
        exact .anyMember List.mem_cons_self (.anyMember List.mem_cons_self (.here _))⟩
  let t : Sighting tangled ["*.*"] [.body] :=
    ⟨"*.*", .body, _, [.member "a.b", .member "c"], .int 2, List.mem_singleton.mpr rfl,
      List.mem_singleton.mpr rfl, rfl, by
        rw [hsteps]
        exact .anyMember (List.mem_cons_of_mem _ List.mem_cons_self)
          (.anyMember List.mem_cons_self (.here _))⟩
  have hpath : s.path = t.path := by
    rw [Sighting.path, Sighting.path, hsteps]
    rfl
  have hposition : [Turn.member "a", .member "b.c"] = [.member "a.b", .member "c"] :=
    (h.apart s t rfl hpath).1
  exact absurd hposition (by decide)

end RequestValidation
