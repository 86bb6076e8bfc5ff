/-!
# Pieces of a text

How the pieces between separators change when something is put in front of a text, beside the laws
of `List.splitOn` in the library.

Results:
* `splitOn_append`: text without a separator goes in front of the first piece.
* `eq_of_splitOn_singleton`: a text of one piece is that piece.
* `exists_of_splitOn_append`: the first pieces and the last ones are those of two texts.
-/
namespace RequestValidation.Text

theorem splitOn_cons_self (m : Char) (s : List Char) :
    (m :: s).splitOn m = [] :: s.splitOn m := by
  simp [List.splitOn_cons_eq_if_modifyHead]

theorem splitOn_cons_of_ne {m c : Char} (h : c ≠ m) (s : List Char) :
    (c :: s).splitOn m = (s.splitOn m).modifyHead (c :: ·) := by
  simp [List.splitOn_cons_eq_if_modifyHead, h]

/-- Text without a separator goes in front of the first piece. -/
theorem splitOn_append {m : Char} {u : List Char} (hu : m ∉ u) (s : List Char) :
    (u ++ s).splitOn m = (s.splitOn m).modifyHead (u ++ ·) := by
  induction u with
  | nil => cases h : s.splitOn m <;> simp [h]
  | cons c u ih =>
    have hc : c ≠ m := fun e => hu (e ▸ List.mem_cons_self)
    rw [List.cons_append, splitOn_cons_of_ne hc, ih fun h => hu (List.mem_cons_of_mem c h),
      List.modifyHead_modifyHead]
    rfl

theorem eq_of_splitOn_singleton {m : Char} {s t : List Char} (h : s.splitOn m = [t]) : s = t := by
  have hjoined : [m].intercalate (s.splitOn m) = s := List.intercalate_splitOn m
  rw [h] at hjoined
  simpa using hjoined.symm

/-- Between the first pieces and the last ones stands a separator. -/
theorem exists_of_splitOn_append {m : Char} {s : List Char} {us vs : List (List Char)}
    (hus : us ≠ []) (hvs : vs ≠ []) (h : s.splitOn m = us ++ vs) :
    ∃ u v, s = u ++ m :: v ∧ u.splitOn m = us ∧ v.splitOn m = vs := by
  induction s generalizing us with
  | nil =>
    have hlength := congrArg List.length h
    have hu := List.length_pos_iff.mpr hus
    have hv := List.length_pos_iff.mpr hvs
    simp only [List.splitOn_nil, List.length_append, List.length_singleton] at hlength
    omega
  | cons c s ih =>
    obtain ⟨first, us, rfl⟩ := List.exists_cons_of_ne_nil hus
    by_cases hc : c = m
    · subst hc
      rw [splitOn_cons_self, List.cons_append] at h
      obtain ⟨rfl, htail⟩ := List.cons.inj h
      cases us with
      | nil => exact ⟨[], s, rfl, List.splitOn_nil c, htail⟩
      | cons second us =>
        obtain ⟨u, v, rfl, hu, hv⟩ := ih (List.cons_ne_nil second us) htail
        exact ⟨c :: u, v, rfl, by rw [splitOn_cons_self, hu], hv⟩
    · rw [splitOn_cons_of_ne hc] at h
      cases hs : s.splitOn m with
      | nil => exact absurd hs (List.splitOn_ne_nil m s)
      | cons piece pieces =>
        rw [hs, List.modifyHead_cons, List.cons_append] at h
        obtain ⟨rfl, rfl⟩ := List.cons.inj h
        obtain ⟨u, v, rfl, hu, hv⟩ := ih (List.cons_ne_nil piece us) hs
        exact ⟨c :: u, v, rfl, by rw [splitOn_cons_of_ne hc, hu, List.modifyHead_cons], hv⟩

end RequestValidation.Text
