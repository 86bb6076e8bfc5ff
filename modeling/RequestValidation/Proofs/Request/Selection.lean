import RequestValidation.Proofs.Request.Places
/-!
# What occurs at a path

The occurrences of a field are settled path by path. If one of the locations has a value at the
path, every such location gives one found occurrence; if a location only reaches the path, the
first one that does gives a missing occurrence.

Results:
* `filter_candidates`: the candidates for a path are those of one location after the other.
* `eraseDups_flatMap_places`: from every location the first is kept.
* `filter_occurrences_eq_selectionAt`: the occurrences at a path are those of `selectionAt`.
* `found_mem_occurrences_iff`, `missing_mem_occurrences_iff`: where a field is found or missing.
* `occurrences_settled_path_by_path`: the law of selection.
-/
namespace RequestValidation

/-! ## One path in one location -/

/-- The places that a field expands to in what a location holds, where `null` is nothing. In
headers the field is written in small letters first. -/
def placesIn (r : Request) (field : String) (l : Location) : List (String × Option Json) :=
  reach ((some (r.location l)).filter fun v => !v.isNull)
    (Segment.ofPath (if l = .headers then Text.lower field else field)) ""

/-- The first value that a field has at a path in a location. -/
def valueAt? (r : Request) (field path : String) (l : Location) : Option Json :=
  (placesIn r field l).findSome? fun p => if p.1 = path then p.2 else none

/-- Whether a field reaches a path in a location, with a value or without one. -/
def reaches (r : Request) (field path : String) (l : Location) : Bool :=
  (placesIn r field l).any (·.1 == path)

/-- The candidates for a path in a location. -/
def candidatesAt (r : Request) (field path : String) (l : Location) : List Occurrence :=
  ((reached r field l).filter (·.1 == path)).map fun p => ⟨l, p.1, field, p.2⟩

/-! ## One path in all the locations -/

/-- A found occurrence for every distinct location that has a value at the path. -/
def foundAt (r : Request) (field : String) (locations : List Location) (path : String) :
    List Occurrence :=
  (distinct locations).filterMap fun l =>
    (valueAt? r field path l).map fun v => ⟨l, path, field, some v⟩

/-- A missing occurrence at the first location that reaches the path. -/
def missingAt (r : Request) (field : String) (locations : List Location) (path : String) :
    List Occurrence :=
  ((locations.find? (reaches r field path)).map fun l => ⟨l, path, field, none⟩).toList

/-- What occurs at a path: the found occurrences, or else the missing one. -/
def selectionAt (r : Request) (field : String) (locations : List Location) (path : String) :
    List Occurrence :=
  if locations.any fun l => (valueAt? r field path l).isSome then foundAt r field locations path
  else missingAt r field locations path

section
variable {r : Request} {field path : String} {l : Location}

theorem reached_eq_placesIn : reached r field l = placesIn r field l := by
  have hroot : r.root? l = (some (r.location l)).filter fun v => !v.isNull := by
    unfold Request.root?
    cases r.location l <;> rfl
  rw [reached, hroot]
  rfl

theorem place_of_mem_candidatesAt {o : Occurrence} (h : o ∈ candidatesAt r field path l) :
    o.location = l ∧ o.path = path ∧ o.field = field := by
  obtain ⟨p, hp, rfl⟩ := List.mem_map.mp h
  have := (List.mem_filter.mp hp).2
  exact ⟨rfl, by simpa using this, rfl⟩

theorem reaches_of_valueAt? {v : Json} (h : valueAt? r field path l = some v) :
    reaches r field path l = true := by
  obtain ⟨p, hp, hv⟩ := List.exists_of_findSome?_eq_some h
  refine List.any_eq_true.mpr ⟨p, hp, ?_⟩
  by_cases hpath : p.1 = path
  · simpa using hpath
  · simp [hpath] at hv

/-- The first found candidate is the one with the first value. -/
theorem find?_candidatesAt :
    (candidatesAt r field path l).find? (·.value.isSome) =
      (valueAt? r field path l).map fun v => ⟨l, path, field, some v⟩ := by
  unfold candidatesAt valueAt?
  rw [reached_eq_placesIn]
  induction placesIn r field l with
  | nil => rfl
  | cons p ps ih =>
    obtain ⟨q, v⟩ := p
    by_cases hq : q = path
    · cases v with
      | none => simpa [hq] using ih
      | some v => simp [hq]
    · simpa [hq] using ih

/-- Where there is no value the first candidate is missing. -/
theorem head?_candidatesAt (h : valueAt? r field path l = none) :
    (candidatesAt r field path l).head? =
      if reaches r field path l then some ⟨l, path, field, none⟩ else none := by
  unfold candidatesAt reaches
  unfold valueAt? at h
  rw [reached_eq_placesIn]
  generalize placesIn r field l = ps at h ⊢
  induction ps with
  | nil => rfl
  | cons p ps ih =>
    obtain ⟨q, v⟩ := p
    rw [List.findSome?_cons] at h
    by_cases hq : q = path
    · cases v with
      | none => simp [hq]
      | some v => simp [hq] at h
    · have hq' : (q == path) = false := by simpa using hq
      rw [List.any_cons, hq', Bool.false_or, List.filter_cons_of_neg (by simpa using hq)]
      exact ih (by simpa [hq] using h)

end

/-! ## Gathering -/

/-- The candidates for a path are those of one location after the other. -/
theorem filter_candidates (r : Request) (field path : String) (locations : List Location) :
    (candidates r field locations).filter (·.path == path) =
      locations.flatMap (candidatesAt r field path) := by
  rw [candidates, List.filter_flatMap]
  congr 1
  funext l
  rw [List.filter_map]
  rfl

theorem flatMap_of_nodup {α β : Type} [DecidableEq α] {l : List α} {a : α} (f : α → List β)
    (hl : l.Nodup) (ha : a ∈ l) : (l.flatMap fun b => if b = a then f b else []) = f a := by
  induction l with
  | nil => cases ha
  | cons b l ih =>
    obtain ⟨hb, hl⟩ := List.nodup_cons.mp hl
    rw [List.flatMap_cons]
    rcases List.mem_cons.mp ha with rfl | ha
    · have : (l.flatMap fun b => if b = a then f b else []) = [] := by
        refine List.flatMap_eq_nil_iff.mpr fun c hc => ?_
        have hne : c ≠ a := fun e => hb (e ▸ hc)
        rw [if_neg hne]
      rw [if_pos rfl, this, List.append_nil]
    · have hne : b ≠ a := fun e => hb (e ▸ ha)
      rw [if_neg hne, ih hl ha, List.nil_append]

theorem filter_keepFound (path q : String) (all : List Occurrence) :
    (keepFound (all.filter (·.path == q))).filter (·.path == path) =
      if q = path then keepFound (all.filter (·.path == q)) else [] := by
  -- `keepFound` leaves candidates out and adds none
  have sub : ∀ o ∈ keepFound (all.filter (·.path == q)), o.path = q := by
    intro o ho
    have : o ∈ all.filter (·.path == q) := by
      simp only [keepFound] at ho
      split at ho
      · exact List.mem_of_mem_take ho
      · exact (List.mem_filter.mp ho).1
    simpa using (List.mem_filter.mp this).2
  by_cases h : q = path
  · rw [if_pos h]
    exact List.filter_eq_self.mpr fun o ho => by simp [sub o ho, h]
  · rw [if_neg h]
    exact List.filter_eq_nil_iff.mpr fun o ho => by simp [sub o ho, h]

/-- Of one field, the occurrences at a path come from the candidates for it. -/
theorem filter_occurrencesOf (r : Request) (field path : String) (locations : List Location) :
    (occurrencesOf r locations field).filter (·.path == path) =
      keepFound (locations.flatMap (candidatesAt r field path)) := by
  rw [occurrencesOf, List.filter_flatMap]
  simp only [filter_keepFound]
  rw [← filter_candidates]
  by_cases h : path ∈ distinct ((candidates r field locations).map (·.path))
  · exact flatMap_of_nodup
      (fun q => keepFound ((candidates r field locations).filter (·.path == q)))
      (nodup_distinct _) h
  · have hnone : (candidates r field locations).filter (·.path == path) = [] := by
      refine List.filter_eq_nil_iff.mpr fun o ho e => h ?_
      exact (mem_distinct _ _).mpr (List.mem_map.mpr ⟨o, ho, by simpa using e⟩)
    rw [hnone]
    refine List.flatMap_eq_nil_iff.mpr fun q hq => ?_
    have hne : q ≠ path := fun e => h (e ▸ hq)
    rw [if_neg hne]

/-- If what a location gives is all at one place there, the first from every location stays. -/
theorem eraseDups_flatMap_places {path : String} {g : Location → List Occurrence}
    (hg : ∀ l, ∀ o ∈ g l, o.location = l ∧ o.path = path) (locations : List Location) :
    (locations.flatMap g).eraseDupsBy Occurrence.samePlace =
      (distinct locations).filterMap fun l => (g l).head? := by
  have hp : ∀ o a b : Occurrence, Occurrence.samePlace b a = true →
      (decide (b.samePlace o = false)) = decide (a.samePlace o = false) := by
    intro o a b h
    rw [Occurrence.samePlace_comm b, Occurrence.samePlace_comm a, Occurrence.samePlace_congr h]
  induction locations with
  | nil => rfl
  | cons l locations ih =>
    rw [List.flatMap_cons, distinct, List.filterMap_cons, List.filterMap_filter]
    cases hl : g l with
    | nil =>
      rw [List.nil_append, ih]
      congr 1
      funext m
      by_cases hm : m = l
      · simp [hm, hl]
      · simp [hm]
    | cons o os =>
      have ho := hg l o (by simp [hl])
      -- what else is at the place of `o` is what the same location gives
      have hos : os.filter (fun b => b.samePlace o = false) = [] := by
        refine List.filter_eq_nil_iff.mpr fun b hb => ?_
        have := hg l b (by simp [hl, hb])
        simp [Occurrence.samePlace, this, ho]
      rw [List.cons_append, List.eraseDupsBy_cons, List.filter_append, hos, List.nil_append,
        ← filter_eraseDupsBy (hp o), ih, List.filter_filterMap]
      congr 2
      funext m
      cases hm : (g m).head? with
      | none => simp
      | some b =>
        have hb := hg m b (List.mem_of_mem_head? hm)
        by_cases hml : m = l
        · simp [Occurrence.samePlace, hb, ho, hml]
        · simp [Occurrence.samePlace, hb, ho, hml]

/-- The found candidates for a path, gathered, are the found occurrences there. -/
theorem eraseDups_found (r : Request) (field path : String) (locations : List Location) :
    ((locations.flatMap (candidatesAt r field path)).filter
      (·.value.isSome)).eraseDupsBy Occurrence.samePlace = foundAt r field locations path := by
  have hplace : ∀ l, ∀ o ∈ (candidatesAt r field path l).filter (·.value.isSome),
      o.location = l ∧ o.path = path := by
    intro l o ho
    obtain ⟨hl, hpath, -⟩ := place_of_mem_candidatesAt (List.mem_filter.mp ho).1
    exact ⟨hl, hpath⟩
  rw [List.filter_flatMap, eraseDups_flatMap_places hplace]
  simp only [List.head?_filter, find?_candidatesAt]
  rfl

/-- With no value at the path, its first candidate is missing at the first location that reaches
it. -/
theorem take_one_candidates {r : Request} {field path : String} {locations : List Location}
    (h : ∀ l ∈ locations, valueAt? r field path l = none) :
    (locations.flatMap (candidatesAt r field path)).take 1 =
      missingAt r field locations path := by
  rw [List.take_one, List.head?_flatMap, missingAt]
  congr 1
  induction locations with
  | nil => rfl
  | cons l locations ih =>
    have hhead := head?_candidatesAt (h l List.mem_cons_self)
    rw [List.findSome?_cons, List.find?_cons, hhead]
    cases hl : reaches r field path l with
    | true => rfl
    | false => exact ih fun m hm => h m (List.mem_cons_of_mem _ hm)

theorem isEmpty_found_iff (r : Request) (field path : String) (locations : List Location) :
    ((locations.flatMap (candidatesAt r field path)).filter (·.value.isSome)).isEmpty = true ↔
      ∀ l ∈ locations, valueAt? r field path l = none := by
  rw [List.isEmpty_iff, List.filter_flatMap, List.flatMap_eq_nil_iff]
  refine forall_congr' fun l => imp_congr_right fun _ => ?_
  rw [← List.head?_eq_none_iff, List.head?_filter, find?_candidatesAt, Option.map_eq_none_iff]

/-! ## The law -/

/-- The occurrences of a field at a path are those of `selectionAt`. -/
theorem filter_occurrences_eq_selectionAt (r : Request) (field : String)
    (locations : List Location) (path : String) :
    (occurrences r [field] locations).filter (·.path == path) =
      selectionAt r field locations path := by
  have hpath : ∀ a b : Occurrence, Occurrence.samePlace b a = true →
      (b.path == path) = (a.path == path) := by
    intro a b h
    rw [((Occurrence.samePlace_iff b a).mp h).2]
  rw [occurrences_eq_eraseDups, List.flatMap_cons, List.flatMap_nil, List.append_nil,
    filter_eraseDupsBy hpath, filter_occurrencesOf, keepFound, selectionAt]
  have hempty := isEmpty_found_iff r field path locations
  by_cases h : ∀ l ∈ locations, valueAt? r field path l = none
  · have hnone : ¬ (locations.any fun l => (valueAt? r field path l).isSome) = true := by
      simpa using h
    rw [if_pos (hempty.mpr h), if_neg hnone, take_one_candidates h, missingAt]
    cases locations.find? (reaches r field path) with
    | none => rfl
    | some l => rfl
  · have hsome : (locations.any fun l => (valueAt? r field path l).isSome) = true := by
      refine Classical.byContradiction fun hnone => h ?_
      simpa using hnone
    rw [if_neg fun e => h (hempty.mp e), if_pos hsome, eraseDups_found]

theorem mem_selectionAt_imp {r : Request} {field path : String} {locations : List Location}
    {o : Occurrence} (h : o ∈ selectionAt r field locations path) :
    o.field = field ∧ o.location ∈ locations ∧ reaches r field path o.location = true := by
  rw [selectionAt] at h
  split at h
  · obtain ⟨l, hl, ho⟩ := List.mem_filterMap.mp h
    obtain ⟨v, hv, rfl⟩ := Option.map_eq_some_iff.mp ho
    exact ⟨rfl, (mem_distinct l _).mp hl, reaches_of_valueAt? hv⟩
  · obtain ⟨l, hl, rfl⟩ := Option.map_eq_some_iff.mp (Option.mem_toList.mp h)
    exact ⟨rfl, List.mem_of_find?_eq_some hl, List.find?_some hl⟩

theorem mem_occurrences_iff_mem_selectionAt {r : Request} {field : String}
    {locations : List Location} {o : Occurrence} :
    o ∈ occurrences r [field] locations ↔ o ∈ selectionAt r field locations o.path := by
  rw [← filter_occurrences_eq_selectionAt, List.mem_filter]
  simp

/-- An occurrence of a field is at a path that its location reaches. -/
theorem mem_occurrences_imp {r : Request} {field : String} {locations : List Location}
    {o : Occurrence} (h : o ∈ occurrences r [field] locations) :
    o.field = field ∧ o.location ∈ locations ∧ reaches r field o.path o.location = true :=
  mem_selectionAt_imp (mem_occurrences_iff_mem_selectionAt.mp h)

/-- A field is found at a path of a location exactly when it has a value there. -/
theorem found_mem_occurrences_iff {r : Request} {field path : String} {locations : List Location}
    {l : Location} {v : Json} :
    ⟨l, path, field, some v⟩ ∈ occurrences r [field] locations ↔
      l ∈ locations ∧ valueAt? r field path l = some v := by
  rw [mem_occurrences_iff_mem_selectionAt, selectionAt]
  split
  · simp only [foundAt, List.mem_filterMap, mem_distinct]
    constructor
    · rintro ⟨m, hm, ho⟩
      obtain ⟨w, hw, e⟩ := Option.map_eq_some_iff.mp ho
      cases e
      exact ⟨hm, hw⟩
    · rintro ⟨hl, hv⟩
      exact ⟨l, hl, by rw [hv]; rfl⟩
  · rename_i hnone
    constructor
    · intro h
      obtain ⟨m, -, e⟩ := Option.map_eq_some_iff.mp (Option.mem_toList.mp h)
      cases e
    · rintro ⟨hl, hv⟩
      exact absurd (List.any_eq_true.mpr ⟨l, hl, by rw [hv]; rfl⟩) hnone

/-- A field is missing at a path of a location exactly when no location has a value there and this
one is the first to reach it. -/
theorem missing_mem_occurrences_iff {r : Request} {field path : String}
    {locations : List Location} {l : Location} :
    ⟨l, path, field, none⟩ ∈ occurrences r [field] locations ↔
      (∀ m ∈ locations, valueAt? r field path m = none) ∧
        locations.find? (reaches r field path) = some l := by
  rw [mem_occurrences_iff_mem_selectionAt, selectionAt]
  split
  · rename_i hsome
    constructor
    · intro h
      obtain ⟨m, -, ho⟩ := List.mem_filterMap.mp h
      obtain ⟨w, -, e⟩ := Option.map_eq_some_iff.mp ho
      cases e
    · rintro ⟨hnone, -⟩
      obtain ⟨m, hm, hv⟩ := List.any_eq_true.mp hsome
      rw [hnone m hm] at hv
      cases hv
  · rename_i hnone
    constructor
    · intro h
      obtain ⟨m, hm, e⟩ := Option.map_eq_some_iff.mp (Option.mem_toList.mp h)
      cases e
      exact ⟨by simpa using hnone, hm⟩
    · rintro ⟨-, hl⟩
      exact Option.mem_toList.mpr (by rw [hl]; rfl)

/-- **The law of selection.** One field gives each place once, at every path what `selectionAt`
says, and nothing at other paths; several fields give what the first gives, then what the second
adds at new places, and so on. -/
theorem occurrences_settled_path_by_path (r : Request) (locations : List Location) :
    (∀ field,
      ((occurrences r [field] locations).Pairwise fun a b =>
        (a.location, a.path) ≠ (b.location, b.path)) ∧
      (∀ path, (occurrences r [field] locations).filter (·.path == path) =
        selectionAt r field locations path) ∧
      ∀ o ∈ occurrences r [field] locations,
        ∃ l ∈ locations, reaches r field o.path l = true) ∧
    ∀ fields, occurrences r fields locations =
      (fields.flatMap fun field => occurrences r [field] locations).eraseDupsBy
        Occurrence.samePlace := by
  refine ⟨fun field => ⟨?_, ?_, ?_⟩, fun fields => ?_⟩
  · exact pairwise_occurrences r [field] locations
  · exact filter_occurrences_eq_selectionAt r field locations
  · exact fun o ho => ⟨o.location, (mem_occurrences_imp ho).2⟩
  · exact occurrences_eq_flatMap r fields locations

end RequestValidation
