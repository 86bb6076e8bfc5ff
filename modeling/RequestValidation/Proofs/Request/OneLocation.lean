import RequestValidation.Proofs.Distinct
import RequestValidation.Proofs.Request.Spelling
/-!
# Fields in one location

In one location nothing is settled between locations. As long as a field reaches no path twice, what
occurs of it is what it reaches, in that order, found or missing.

Results:
* `occurrences_of_distinct_paths`: what occurs is what is reached.
* `occurrences_singleton`: a field without wildcards occurs once.
* `occurrences_key`, `occurrences_items`: an array under a key, and the items under the key.
-/
namespace RequestValidation

/-- An occurrence whose path no other one has is kept, found or missing. -/
theorem flatMap_keepFound {all : List Occurrence} (h : (all.map (·.path)).Nodup) :
    ((all.map (·.path)).flatMap fun path => keepFound (all.filter (·.path == path))) = all := by
  have hone : ∀ o ∈ all, keepFound (all.filter (·.path == o.path)) = [o] := by
    intro o ho
    have hfilter : all.filter (·.path == o.path) = [o] := by
      apply eq_singleton_of_nodup ((List.Nodup.of_map _ h).filter _)
      intro b
      rw [List.mem_filter, beq_iff_eq]
      constructor
      · intro hb
        exact List.inj_on_of_nodup_map h hb.1 ho hb.2
      · intro e
        exact ⟨e ▸ ho, congrArg Occurrence.path e⟩
    rw [hfilter]
    cases hv : o.value <;> simp [keepFound, hv]
  rw [List.flatMap_map, List.flatMap_congr hone, List.flatMap_singleton']

/-- What occurs of a field in one location is what it reaches there, if it reaches no path twice. -/
theorem occurrences_of_distinct_paths {r : Request} {field : String} {l : Location}
    (h : ((reached r field l).map Prod.fst).Nodup) :
    occurrences r [field] [l] = (reached r field l).map fun p => ⟨l, p.1, field, p.2⟩ := by
  have hall : candidates r field [l] = (reached r field l).map fun p => ⟨l, p.1, field, p.2⟩ := by
    rw [candidates, List.flatMap_singleton]
  have hpaths : ((candidates r field [l]).map (·.path)).Nodup := by
    rw [hall, List.map_map]
    exact h
  have hof : occurrencesOf r [l] field = candidates r field [l] := by
    rw [occurrencesOf]
    simp only [distinct_of_nodup hpaths]
    exact flatMap_keepFound hpaths
  rw [occurrences_eq_eraseDups, List.flatMap_singleton, hof, ← hall]
  -- two occurrences are not even at one path
  apply eraseDupsBy_of_pairwise
  apply (List.pairwise_map.mp hpaths).imp
  intro a b hne
  simp [Occurrence.samePlace, Ne.symm hne]

/-- What occurs of a field without wildcards in one location. -/
theorem occurrences_singleton {field : String} (hfree : WildcardFree field) (r : Request)
    (l : Location) : occurrences r [field] [l] = [occurrenceIn r field l] := by
  have hreached := reached_of_wildcardFree hfree r l
  rw [occurrences_of_distinct_paths, hreached]
  · rfl
  · rw [hreached]
    exact List.nodup_singleton _

theorem lookupPath_of_ne_headers {l : Location} (hl : l ≠ .headers) (field : String) :
    lookupPath l field = field := if_neg hl

/-! ## An array and its items -/

theorem appendIndex_injective (path : String) : Function.Injective (appendIndex path) := by
  intro i j e
  have htext := congrArg String.toList e
  rw [toList_appendIndex, toList_appendIndex] at htext
  exact toString_index_injective (List.cons.inj (List.append_cancel_left htext)).2

section
variable {r : Request} {l : Location} {k : String} {v : Json}

/-- A member of a location stands behind its key. -/
theorem root?_member (h : (r.location l).member? k = some v) :
    (r.root? l).bind (·.member? k) = some v := by
  unfold Request.root?
  split
  · rename_i hnull
    rw [hnull] at h
    cases h
  · exact h

/-- What occurs of a key in a location. -/
theorem occurrences_key (hk : StepKey k) (hl : l ≠ .headers)
    (h : (r.location l).member? k = some v) : occurrences r [k] [l] = [⟨l, k, k, some v⟩] := by
  have hsteps : Segment.ofPath (lookupPath l k) = [.key k] := by
    rw [lookupPath_of_ne_headers hl, Segment.ofPath_key hk]
  have hreached : reached r k l = [(k, some v)] := by
    rw [reached, hsteps, reach, reach, root?_member h, appendName_empty]
  rw [occurrences_of_distinct_paths, hreached]
  · rfl
  · rw [hreached]
    exact List.nodup_singleton k

/-- What occurs of the items under a key in a location, one after the other. -/
theorem occurrences_items {vs : List Json} (hk : StepKey k) (hl : l ≠ .headers)
    (h : (r.location l).member? k = some (.array vs)) :
    occurrences r [k ++ ".*"] [l] =
      vs.zipIdx.map fun p => ⟨l, appendIndex k p.2, k ++ ".*", some p.1⟩ := by
  have hsteps : Segment.ofPath (lookupPath l (k ++ ".*")) = [.key k, .wildcard] := by
    have hsplit : k ++ ".*" = k ++ "." ++ "*" := by rw [String.append_assoc]; rfl
    rw [lookupPath_of_ne_headers hl, hsplit, Segment.ofPath_append_point, Segment.ofPath_key hk]
    rfl
  have hreached : reached r (k ++ ".*") l =
      vs.zipIdx.map fun p => (appendIndex k p.2, some p.1) := by
    rw [reached, hsteps, reach, root?_member h, appendName_empty]
    exact List.map_eq_flatMap.symm
  rw [occurrences_of_distinct_paths, hreached, List.map_map]
  · rfl
  · rw [hreached, List.map_map]
    have hpaths : vs.zipIdx.map (Prod.fst ∘ fun p => (appendIndex k p.2, some p.1)) =
        (List.range' 0 vs.length).map (appendIndex k) := by
      rw [← List.zipIdx_map_snd, List.map_map]
      rfl
    rw [hpaths]
    exact List.Nodup.map (appendIndex_injective k) List.nodup_range'

end

end RequestValidation
