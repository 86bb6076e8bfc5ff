import Mathlib.Data.List.Pairwise
import RequestValidation.Request.Occurrence
/-!
# Each place once

Occurrences are gathered so that a place counts once: of several at one place the first stays. The
gathering is that of `List.eraseDupsBy`, which is what is known about it here.

Results:
* `filter_eraseDupsBy`: what depends on the kind of an element may be chosen before or after.
* `foldl_addNew`, `occurrences_eq_eraseDups`: gathering keeps the first of each place.
* `pairwise_occurrences`: no two occurrences are at one place.
* `occurrences_eq_flatMap`: several fields are gathered field by field.
* `find?_occurrences`: a place belongs to the first field that has something there.
-/
namespace RequestValidation

section
variable {α : Type} {same : α → α → Bool}

theorem filter_eraseDupsBy {p : α → Bool} (hp : ∀ a b, same b a = true → p b = p a)
    (l : List α) : (l.eraseDupsBy same).filter p = (l.filter p).eraseDupsBy same := by
  -- by induction on the length: an element takes the later ones of its kind away
  match l with
  | [] => rfl
  | a :: l =>
    have ih := filter_eraseDupsBy hp (l.filter fun b => same b a = false)
    rw [List.eraseDupsBy_cons, List.filter_cons, List.filter_cons]
    cases ha : p a with
    | true =>
      simp only [if_true]
      rw [List.eraseDupsBy_cons, ih, List.filter_filter, List.filter_filter]
      simp only [Bool.and_comm]
    | false =>
      simp only [Bool.false_eq_true, if_false]
      rw [ih, List.filter_filter]
      congr 1
      refine List.filter_congr fun b _ => ?_
      cases hb : p b with
      | false => rfl
      | true =>
        have : same b a ≠ true := fun h => by rw [hp a b h, ha] at hb; cases hb
        simpa using this
termination_by l.length
decreasing_by exact Nat.lt_succ_of_le (List.length_filter_le _ _)

/-- The first element that a property of kinds picks stays. -/
theorem find?_eraseDupsBy {p : α → Bool} (hp : ∀ a b, same b a = true → p b = p a)
    (l : List α) : (l.eraseDupsBy same).find? p = l.find? p := by
  have hhead : ∀ l : List α, (l.eraseDupsBy same).head? = l.head? := by
    intro l
    cases l with
    | nil => rfl
    | cons a l => rw [List.eraseDupsBy_cons]; rfl
  rw [← List.head?_filter, filter_eraseDupsBy hp, hhead, List.head?_filter]

theorem mem_of_mem_eraseDupsBy {a : α} (l : List α) (h : a ∈ l.eraseDupsBy same) : a ∈ l := by
  match l with
  | [] => exact h
  | b :: l =>
    rw [List.eraseDupsBy_cons, List.mem_cons] at h
    rcases h with rfl | h
    · exact List.mem_cons_self
    · exact List.mem_cons_of_mem _ (List.mem_filter.mp (mem_of_mem_eraseDupsBy _ h)).1
termination_by l.length
decreasing_by exact Nat.lt_succ_of_le (List.length_filter_le _ _)

theorem pairwise_eraseDupsBy (l : List α) :
    (l.eraseDupsBy same).Pairwise fun a b => same b a = false := by
  match l with
  | [] => exact List.Pairwise.nil
  | a :: l =>
    rw [List.eraseDupsBy_cons]
    refine List.pairwise_cons.mpr ⟨fun b hb => ?_, pairwise_eraseDupsBy _⟩
    have := (List.mem_filter.mp (mem_of_mem_eraseDupsBy _ hb)).2
    simpa using this
termination_by l.length
decreasing_by exact Nat.lt_succ_of_le (List.length_filter_le _ _)

theorem eraseDupsBy_of_pairwise (l : List α) (h : l.Pairwise fun a b => same b a = false) :
    l.eraseDupsBy same = l := by
  induction l with
  | nil => rfl
  | cons a l ih =>
    obtain ⟨ha, hl⟩ := List.pairwise_cons.mp h
    rw [List.eraseDupsBy_cons, List.filter_eq_self.mpr (fun b hb => by simp [ha b hb]), ih hl]

end

namespace Occurrence

theorem samePlace_iff (a b : Occurrence) :
    a.samePlace b = true ↔ a.location = b.location ∧ a.path = b.path := by simp [samePlace]

theorem samePlace_comm (a b : Occurrence) : a.samePlace b = b.samePlace a := by
  rw [Bool.eq_iff_iff, samePlace_iff, samePlace_iff, eq_comm, eq_comm (a := a.path)]

/-- Whether an occurrence is at a place. -/
def isAt (l : Location) (path : String) (o : Occurrence) : Bool :=
  o.location == l && o.path == path

theorem isAt_iff {l : Location} {path : String} {o : Occurrence} :
    o.isAt l path = true ↔ o.location = l ∧ o.path = path := by simp [isAt]

/-- What is at the same place is at the same place as anything else. -/
theorem samePlace_congr {a b : Occurrence} (h : a.samePlace b = true) (c : Occurrence) :
    c.samePlace a = c.samePlace b := by
  obtain ⟨hl, hp⟩ := (samePlace_iff a b).mp h
  simp [samePlace, hl, hp]

/-- Gathering adds the first of each place that is not there yet. -/
theorem foldl_addNew (l found : List Occurrence) :
    l.foldl addNew found =
      found ++ (l.filter fun o => !found.any (·.samePlace o)).eraseDupsBy samePlace := by
  induction l generalizing found with
  | nil => simp
  | cons o l ih =>
    rw [List.foldl_cons, ih, List.filter_cons]
    cases h : found.any (·.samePlace o) with
    | true => simp [addNew, h]
    | false =>
      simp only [addNew, h, Bool.false_eq_true, if_false, Bool.not_false, if_true]
      rw [List.eraseDupsBy_cons, List.filter_filter, List.append_assoc, List.singleton_append]
      congr 3
      refine List.filter_congr fun b _ => ?_
      rw [List.any_append, samePlace_comm b o]
      cases found.any (·.samePlace b) <;> simp

theorem foldl_addNew_nil (l : List Occurrence) : l.foldl addNew [] = l.eraseDupsBy samePlace := by
  rw [foldl_addNew, List.nil_append]
  congr 1
  exact List.filter_eq_self.mpr fun _ _ => rfl

/-- To gather what is gathered already is to gather it. -/
theorem foldl_addNew_eraseDups (l found : List Occurrence) :
    (l.eraseDupsBy samePlace).foldl addNew found = l.foldl addNew found := by
  have hq : ∀ a b, samePlace b a = true →
      (!found.any (·.samePlace b)) = !found.any (·.samePlace a) := by
    intro a b h
    simp only [samePlace_congr h]
  rw [foldl_addNew, foldl_addNew, filter_eraseDupsBy hq,
    eraseDupsBy_of_pairwise _ (pairwise_eraseDupsBy _)]

end Occurrence

open Occurrence

theorem occurrences_eq_eraseDups (r : Request) (fields : List String)
    (locations : List Location) :
    occurrences r fields locations =
      (fields.flatMap (occurrencesOf r locations)).eraseDupsBy samePlace := by
  rw [occurrences, foldl_addNew_nil]

/-- No two occurrences are at one place. -/
theorem pairwise_occurrences (r : Request) (fields : List String) (locations : List Location) :
    (occurrences r fields locations).Pairwise fun a b =>
      (a.location, a.path) ≠ (b.location, b.path) := by
  rw [occurrences_eq_eraseDups]
  refine (pairwise_eraseDupsBy _).imp fun {a b} h e => ?_
  obtain ⟨hl, hp⟩ := Prod.mk.inj e
  rw [(samePlace_iff b a).mpr ⟨hl.symm, hp.symm⟩] at h
  cases h

theorem eq_of_mem_occurrences {r : Request} {fields : List String} {locations : List Location}
    {a b : Occurrence} (ha : a ∈ occurrences r fields locations)
    (hb : b ∈ occurrences r fields locations) (hl : a.location = b.location)
    (hp : a.path = b.path) : a = b := by
  have symm : Std.Symm fun a b : Occurrence => (a.location, a.path) ≠ (b.location, b.path) :=
    ⟨fun _ _ h e => h e.symm⟩
  refine Classical.byContradiction fun hne => ?_
  exact (pairwise_occurrences r fields locations).forall ha hb hne (by rw [hl, hp])

/-- The occurrences of several fields are those of the first, then what the second adds, and so
on. -/
theorem occurrences_eq_flatMap (r : Request) (fields : List String) (locations : List Location) :
    occurrences r fields locations =
      (fields.flatMap fun field => occurrences r [field] locations).eraseDupsBy samePlace := by
  have key : ∀ found, (fields.flatMap (occurrencesOf r locations)).foldl addNew found =
      (fields.flatMap fun field => occurrences r [field] locations).foldl addNew found := by
    induction fields with
    | nil => exact fun _ => rfl
    | cons field fields ih =>
      intro found
      simp only [List.flatMap_cons, List.foldl_append, ih, occurrences_eq_eraseDups r [field],
        List.flatMap_nil, List.append_nil, foldl_addNew_eraseDups]
  rw [occurrences, key, foldl_addNew_nil]

/-- A place belongs to the first field that has something there. -/
theorem find?_occurrences (r : Request) (fields : List String) (locations : List Location)
    (l : Location) (path : String) :
    (occurrences r fields locations).find? (isAt l path) =
      fields.findSome? fun field => (occurrences r [field] locations).find? (isAt l path) := by
  have hplace : ∀ a b : Occurrence, samePlace b a = true → b.isAt l path = a.isAt l path := by
    intro a b h
    obtain ⟨hl, hp⟩ := (samePlace_iff b a).mp h
    simp [isAt, hl, hp]
  rw [occurrences_eq_flatMap, find?_eraseDupsBy hplace, List.find?_flatMap]

end RequestValidation
