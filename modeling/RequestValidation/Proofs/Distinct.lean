import Mathlib.Data.List.Nodup
import RequestValidation.Request.Location
/-!
# First occurrences

The distinct elements of a list are its elements, each once, in the order in which they first
occur. No other list is that.

Results:
* `distinct_concat`: one more element is kept if it is new.
* `distinct_of_nodup`: a list without repetition is left as it is.
* `firstOccurrences_iff`: what `distinct` gives, without saying how.
-/
namespace RequestValidation

/-- Whether the second list has the elements of the first, each once, in the order in which they
first occur there. -/
structure FirstOccurrences {α : Type} [DecidableEq α] (l firsts : List α) : Prop where
  mem_iff : ∀ a, a ∈ firsts ↔ a ∈ l
  ordered : firsts.Pairwise fun a b => l.idxOf a < l.idxOf b

section
variable {α : Type} [DecidableEq α]

theorem FirstOccurrences.nodup {l firsts : List α} (h : FirstOccurrences l firsts) :
    firsts.Nodup := by
  apply h.ordered.imp
  intro a b hlt heq
  subst heq
  exact Nat.lt_irrefl _ hlt

theorem FirstOccurrences.ne_nil {l firsts : List α} (h : FirstOccurrences l firsts) (hl : l ≠ []) :
    firsts ≠ [] := by
  obtain ⟨a, ha⟩ := List.exists_mem_of_ne_nil l hl
  exact List.ne_nil_of_mem ((h.mem_iff a).mpr ha)

/-- One more element is kept if it is new. -/
theorem distinct_concat (l : List α) (a : α) :
    distinct (l ++ [a]) = if a ∈ l then distinct l else distinct l ++ [a] := by
  induction l with
  | nil => rfl
  | cons b l ih =>
    rw [List.cons_append, distinct, ih, distinct]
    by_cases hl : a ∈ l
    · simp [hl]
    · by_cases hb : a = b
      · subst hb
        simp [hl]
      · simp [hl, hb]

/-- A list without repetition is left as it is. -/
theorem distinct_of_nodup {l : List α} (h : l.Nodup) : distinct l = l := by
  induction l with
  | nil => rfl
  | cons a l ih =>
    obtain ⟨ha, hl⟩ := List.nodup_cons.mp h
    have hrest : l.filter (· ≠ a) = l := by
      apply List.filter_eq_self.mpr
      intro b hb
      apply decide_eq_true
      intro e
      exact ha (e ▸ hb)
    rw [distinct, ih hl, hrest]

theorem firstOccurrences_distinct (l : List α) : FirstOccurrences l (distinct l) := by
  refine ⟨fun a => mem_distinct a l, ?_⟩
  induction l with
  | nil => exact .nil
  | cons a l ih =>
    have hne : ∀ b ∈ (distinct l).filter (· ≠ a), a ≠ b := by
      intro b hb heq
      have hba := (List.mem_filter.mp hb).2
      rw [decide_eq_true_eq] at hba
      exact hba heq.symm
    rw [distinct, List.pairwise_cons]
    constructor
    · intro b hb
      rw [List.idxOf_cons_self, List.idxOf_cons_ne l (hne b hb)]
      omega
    · apply (ih.filter _).imp_of_mem
      intro b c hb hc hlt
      rw [List.idxOf_cons_ne l (hne b hb), List.idxOf_cons_ne l (hne c hc)]
      omega

/-- The distinct elements of a list are its first occurrences, and no other list is. -/
theorem firstOccurrences_iff {l firsts : List α} :
    FirstOccurrences l firsts ↔ firsts = distinct l := by
  constructor
  · intro h
    have hdistinct := firstOccurrences_distinct l
    have hperm : firsts.Perm (distinct l) :=
      (List.perm_ext_iff_of_nodup h.nodup hdistinct.nodup).mpr fun a =>
        (h.mem_iff a).trans (hdistinct.mem_iff a).symm
    apply hperm.eq_of_pairwise _ h.ordered hdistinct.ordered
    intro a b _ _ hab hba
    omega
  · rintro rfl
    exact firstOccurrences_distinct l

end

end RequestValidation
