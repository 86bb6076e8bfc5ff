import Mathlib.Data.List.Induction
import RequestValidation.Proofs.Distinct
import RequestValidation.Proofs.Report.Matched
/-!
# What a report keeps of the outcomes of chains

A report maps each path with an error to the first one and matches each path that has an accepted
value with the first of these. A value is accepted if no chain of all has an error at its place; at
one path there may be values in several locations, some accepted and others not.

Results:
* `keys_firstByPath_eq`, `mem_firstByPath_iff`: the mapped errors.
* `mem_keys_matched_iff`, `mem_matched_iff_isFirst`: the matched values.
* `mapped_or_matched`: the path of a value is mapped or matched.
* `merging_keeps_outcomes`: all of it, for the outcomes of any chains.
-/
namespace RequestValidation

/-- Whether an element is the first in a list with some property. -/
def IsFirst {α : Type} (p : α → Prop) (l : List α) (a : α) : Prop :=
  p a ∧ ∃ before after, l = before ++ a :: after ∧ ∀ b ∈ before, ¬ p b

theorem isFirst_iff_find? {α : Type} {p : α → Prop} {q : α → Bool} (hq : ∀ a, q a = true ↔ p a)
    {l : List α} {a : α} : IsFirst p l a ↔ l.find? q = some a := by
  unfold IsFirst
  rw [List.find?_eq_some_iff_append, hq]
  simp only [Bool.not_eq_true', ← Bool.not_eq_true, hq]

/-! ## Mapped errors -/

theorem keys_insertNew_eq {α : Type} (ms : Members α) (key : String) (v : α) :
    (Members.insertNew ms key v).keys = if key ∈ ms.keys then ms.keys else ms.keys ++ [key] := by
  unfold Members.insertNew
  have hcontains : ms.contains key = true ↔ key ∈ ms.keys := Members.get?_isSome_iff ms key
  by_cases hkey : key ∈ ms.keys
  · rw [if_pos hkey, if_pos (hcontains.mpr hkey)]
  · rw [if_neg hkey, if_neg (mt hcontains.mp hkey)]
    simp [Members.keys]

theorem firstByPath_concat (errors : List Violation) (e : Violation) :
    firstByPath (errors ++ [e]) = Members.insertNew (firstByPath errors) e.path e := by
  simp [firstByPath]

/-- The paths with errors, ordered by their first errors. -/
theorem keys_firstByPath_eq (errors : List Violation) :
    (firstByPath errors).keys = distinct (errors.map (·.path)) := by
  induction errors using List.reverseRecOn with
  | nil => rfl
  | append_singleton errors e ih =>
    rw [firstByPath_concat, keys_insertNew_eq, List.map_append, List.map_singleton,
      distinct_concat, ih]
    simp only [mem_distinct]

/-- A path is mapped to its first error. -/
theorem mem_firstByPath_iff (errors : List Violation) (path : String) (e : Violation) :
    (path, e) ∈ firstByPath errors ↔ errors.find? (·.path == path) = some e := by
  induction errors using List.reverseRecOn with
  | nil => simp [firstByPath]
  | append_singleton errors x ih =>
    have hnew : x.path ∉ (firstByPath errors).keys ↔
        errors.find? (·.path == x.path) = none := by
      rw [keys_firstByPath, List.find?_eq_none]
      simp
    rw [firstByPath_concat, mem_insertNew_iff, ih, hnew, List.find?_append]
    constructor
    · rintro (h | ⟨hnone, rfl, rfl⟩)
      · rw [h, Option.some_or]
      · rw [hnone]
        simp
    · intro h
      cases hfirst : errors.find? (·.path == path) with
      | some y =>
        rw [hfirst, Option.some_or] at h
        exact .inl h
      | none =>
        rw [hfirst, Option.none_or, List.find?_singleton] at h
        split at h
        · rename_i hpath
          obtain rfl := eq_of_beq hpath
          exact .inr ⟨hfirst, rfl, (Option.some.inj h).symm⟩
        · cases h

/-! ## Accepted values -/

/-- Whether a chain has an error at a place. -/
def RejectedAt (outcomes : List ChainOutcome) (l : Location) (path : String) : Prop :=
  ∃ c ∈ outcomes, ∃ e ∈ c.errors, e.location = l ∧ e.path = path

/-- Whether an occurrence is a value at a path, in a location where no chain has an error. -/
def AcceptedAt (outcomes : List ChainOutcome) (path : String) (o : Occurrence) : Prop :=
  o.path = path ∧ (∃ v, o.value = some v) ∧ ¬ RejectedAt outcomes o.location path

section
variable (outcomes : List ChainOutcome)

theorem failed_iff (o : Occurrence) :
    (Report.ofOutcomes outcomes).failed o = true ↔ RejectedAt outcomes o.location o.path := by
  simp only [Report.failed, Report.ofOutcomes, List.any_eq_true, List.mem_flatMap, Bool.and_eq_true,
    beq_iff_eq]
  constructor
  · rintro ⟨e, ⟨c, hc, he⟩, hplace⟩
    exact ⟨c, hc, e, he, hplace⟩
  · rintro ⟨c, hc, e, he, hplace⟩
    exact ⟨e, ⟨c, hc, he⟩, hplace⟩

theorem qualifies_iff_acceptedAt (path : String) (o : Occurrence) :
    (Report.ofOutcomes outcomes).qualifies path o = true ↔ AcceptedAt outcomes path o := by
  rw [Report.qualifies_iff, ← Bool.not_eq_true, failed_iff]
  constructor
  · rintro ⟨rfl, hvalue, hnot⟩
    exact ⟨rfl, hvalue, hnot⟩
  · rintro ⟨rfl, hvalue, hnot⟩
    exact ⟨rfl, hvalue, hnot⟩

/-- A path is matched with the first value accepted there. -/
theorem mem_matched_iff_isFirst (path : String) (v : Json) :
    (path, v) ∈ (Report.ofOutcomes outcomes).matched ↔
      ∃ o, IsFirst (AcceptedAt outcomes path) (outcomes.flatMap (·.data)) o ∧
        o.value = some v := by
  rw [Report.mem_matched_iff]
  simp only [isFirst_iff_find? (qualifies_iff_acceptedAt outcomes path)]
  rfl

/-- A path is matched just if a value is accepted there. -/
theorem mem_keys_matched_iff (path : String) :
    path ∈ (Report.ofOutcomes outcomes).matched.keys ↔
      ∃ c ∈ outcomes, ∃ o ∈ c.data, AcceptedAt outcomes path o := by
  constructor
  · intro h
    obtain ⟨⟨k, v⟩, hmem, rfl⟩ := List.mem_map.mp h
    obtain ⟨o, ho, -⟩ := (Report.mem_matched_iff ..).mp hmem
    obtain ⟨c, hc, hoc⟩ := List.mem_flatMap.mp (List.mem_of_find?_eq_some ho)
    exact ⟨c, hc, o, hoc, (qualifies_iff_acceptedAt ..).mp (List.find?_some ho)⟩
  · rintro ⟨c, hc, o, hoc, ho⟩
    have hsome : ((Report.ofOutcomes outcomes).data.find?
        ((Report.ofOutcomes outcomes).qualifies path)).isSome = true :=
      List.find?_isSome.mpr ⟨o, List.mem_flatMap.mpr ⟨c, hc, hoc⟩,
        (qualifies_iff_acceptedAt ..).mpr ho⟩
    obtain ⟨first, hfirst⟩ := Option.isSome_iff_exists.mp hsome
    obtain ⟨-, ⟨v, hv⟩, -⟩ := Report.qualifies_iff.mp (List.find?_some hfirst)
    exact List.mem_map.mpr ⟨(path, v), (Report.mem_matched_iff ..).mpr ⟨first, hfirst, hv⟩, rfl⟩

theorem nodup_keys_matched (r : Report) : r.matched.keys.Nodup := by
  have hadd : ∀ (ms : Members Json) (o : Occurrence), ms.keys.Nodup →
      (r.addMatch ms o).keys.Nodup := by
    intro ms o h
    unfold Report.addMatch
    split
    · split
      · exact h
      · rw [keys_insertNew_eq]
        split
        · exact h
        · rename_i hnew
          exact List.nodup_append.mpr ⟨h, List.nodup_singleton _, by
            rintro a ha b hb rfl
            exact hnew (List.mem_singleton.mp hb ▸ ha)⟩
    · exact h
  rw [Report.matched_eq]
  exact List.foldlRecOn (motive := fun ms : Members Json => ms.keys.Nodup) _ _ List.nodup_nil
    fun ms h o _ => hadd ms o h

/-- No path with a value is lost: it is mapped if there is an error at the place of the value, and
matched if not. -/
theorem mapped_or_matched {c : ChainOutcome} (hc : c ∈ outcomes) {o : Occurrence} (ho : o ∈ c.data)
    (hvalue : ∃ v, o.value = some v) :
    o.path ∈ (Report.ofOutcomes outcomes).mapped.keys ∨
      o.path ∈ (Report.ofOutcomes outcomes).matched.keys := by
  by_cases h : RejectedAt outcomes o.location o.path
  · obtain ⟨d, hd, e, he, -, hpath⟩ := h
    exact .inl ((keys_firstByPath _ _).mpr ⟨e, List.mem_flatMap.mpr ⟨d, hd, he⟩, hpath⟩)
  · exact .inr ((mem_keys_matched_iff outcomes o.path).mpr ⟨c, hc, o, ho, rfl, hvalue, h⟩)

end

/-! ## All outcomes together -/

theorem outcome_eq_ok_iff (r : Report) (ms : Members Json) :
    r.outcome = .ok ms ↔ r.errors = [] ∧ ms = r.matched := by
  unfold Report.outcome Report.isOk
  cases r.errors <;> simp [eq_comm]

/-- What a report says about the outcomes of chains. -/
structure Merges (outcomes : List ChainOutcome) (r : Report) : Prop where
  /-- The mapped paths are those of all errors, ordered by the first error. -/
  mapped_keys : FirstOccurrences ((outcomes.flatMap (·.errors)).map (·.path)) r.mapped.keys
  mapped_first : ∀ path e, (path, e) ∈ r.mapped ↔
    IsFirst (fun x : Violation => x.path = path) (outcomes.flatMap (·.errors)) e
  /-- Each path is matched once, if a value is accepted there in some location. -/
  matched_keys : r.matched.keys.Nodup ∧ ∀ path, path ∈ r.matched.keys ↔
    ∃ c ∈ outcomes, ∃ o ∈ c.data, AcceptedAt outcomes path o
  matched_first : ∀ path v, (path, v) ∈ r.matched ↔
    ∃ o, IsFirst (AcceptedAt outcomes path) (outcomes.flatMap (·.data)) o ∧ o.value = some v
  /-- No path with a value is lost. -/
  kept : ∀ c ∈ outcomes, ∀ o ∈ c.data, (∃ v, o.value = some v) →
    o.path ∈ r.mapped.keys ∨ o.path ∈ r.matched.keys
  /-- There are data just if no chain has an error, namely the matched ones. -/
  data_iff : ∀ ms, r.outcome = .ok ms ↔ (∀ c ∈ outcomes, c.errors = []) ∧ ms = r.matched
  data_keys : ∀ ms, r.outcome = .ok ms → ∀ path, path ∈ ms.keys ↔
    ∃ c ∈ outcomes, ∃ o ∈ c.data, o.path = path ∧ ∃ v, o.value = some v

/-- **Merging keeps every outcome**, for the outcomes of any chains in any order. -/
theorem merging_keeps_outcomes (outcomes : List ChainOutcome) :
    Merges outcomes (.ofOutcomes outcomes) where
  mapped_keys := by
    rw [firstOccurrences_iff]
    exact keys_firstByPath_eq _
  mapped_first path e := by
    rw [isFirst_iff_find? (q := fun x : Violation => x.path == path) fun x => beq_iff_eq]
    exact mem_firstByPath_iff _ path e
  matched_keys := ⟨nodup_keys_matched _, mem_keys_matched_iff outcomes⟩
  matched_first := mem_matched_iff_isFirst outcomes
  kept _ hc _ ho := mapped_or_matched outcomes hc ho
  data_iff ms := by
    rw [outcome_eq_ok_iff]
    exact and_congr_left' List.flatMap_eq_nil_iff
  data_keys ms hok path := by
    obtain ⟨herrors, rfl⟩ := (outcome_eq_ok_iff _ _).mp hok
    have hnone : ∀ l p, ¬ RejectedAt outcomes l p := by
      rintro l p ⟨c, hc, e, he, -⟩
      rw [List.flatMap_eq_nil_iff.mp herrors c hc] at he
      cases he
    rw [mem_keys_matched_iff]
    simp only [AcceptedAt, hnone, not_false_eq_true, and_true]

end RequestValidation
