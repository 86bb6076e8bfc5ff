/-!
# Ordered members

Named values in document order: a list of pairs in which `insert` gives a name that is already
there its new value in its old place, and puts a new name at the end.

Results:
* `get?_insert_self`, `get?_insert_of_ne`: reading after writing.
* `keys_insert_of_mem`, `keys_insert_of_not_mem`: what a write does to the names.
* `mem_of_get?`, `get?_of_mem`: what is read is a member, and a member is read if no name is there
  twice.
* `get?_isSome_iff`: a name has a value exactly when it is among the names.
-/
namespace RequestValidation

abbrev Members (α : Type) := List (String × α)

namespace Members

variable {α : Type}

def keys (ms : Members α) : List String := ms.map Prod.fst

def get? : Members α → String → Option α
  | [], _ => none
  | (k, v) :: rest, key => if k = key then some v else get? rest key

def contains (ms : Members α) (key : String) : Bool := (ms.get? key).isSome

/-- Replaces the value of a known name in its place, adds an unknown one at the end. -/
def insert : Members α → String → α → Members α
  | [], key, v => [(key, v)]
  | (k, w) :: rest, key, v => if k = key then (k, v) :: rest else (k, w) :: insert rest key v

/-- Keeps the value of a known name, adds an unknown one at the end. -/
def insertNew (ms : Members α) (key : String) (v : α) : Members α :=
  if ms.contains key then ms else ms ++ [(key, v)]

/-- Members from pairs in which a name may be repeated: the last value in the first place. -/
def ofPairs (pairs : List (String × α)) : Members α :=
  pairs.foldl (fun ms p => ms.insert p.1 p.2) []

@[simp] theorem get?_insert_self (ms : Members α) (key : String) (v : α) :
    (ms.insert key v).get? key = some v := by
  induction ms with
  | nil => simp [insert, get?]
  | cons p rest ih =>
    obtain ⟨k, w⟩ := p
    by_cases h : k = key
    · simp [insert, get?, h]
    · simp [insert, get?, h, ih]

theorem get?_insert_of_ne (ms : Members α) {key other : String} (v : α) (h : other ≠ key) :
    (ms.insert key v).get? other = ms.get? other := by
  induction ms with
  | nil => simp [insert, get?, Ne.symm h]
  | cons p rest ih =>
    obtain ⟨k, w⟩ := p
    by_cases hk : k = key
    · subst hk; simp [insert, get?, Ne.symm h]
    · by_cases ho : k = other
      · subst ho; simp [insert, get?, h]
      · simp [insert, get?, hk, ho, ih]

theorem get?_isSome_iff (ms : Members α) (key : String) :
    (ms.get? key).isSome ↔ key ∈ ms.keys := by
  induction ms with
  | nil => simp [get?, keys]
  | cons p rest ih =>
    obtain ⟨k, w⟩ := p
    by_cases h : k = key
    · simp [get?, keys, h]
    · simp only [get?, h, if_false, ih]
      simp [keys, Ne.symm h]

theorem mem_of_get? {ms : Members α} {key : String} {v : α} (h : ms.get? key = some v) :
    (key, v) ∈ ms := by
  induction ms with
  | nil => cases h
  | cons p rest ih =>
    obtain ⟨k, w⟩ := p
    by_cases hk : k = key
    · simp only [get?, hk, if_true, Option.some.injEq] at h
      rw [hk, h]
      exact List.mem_cons_self
    · simp only [get?, hk, if_false] at h
      exact List.mem_cons_of_mem _ (ih h)

theorem get?_of_mem {ms : Members α} {key : String} {v : α} (hnodup : ms.keys.Nodup)
    (h : (key, v) ∈ ms) : ms.get? key = some v := by
  induction ms with
  | nil => cases h
  | cons p rest ih =>
    obtain ⟨k, w⟩ := p
    obtain ⟨hnew, hrest⟩ := List.nodup_cons.mp hnodup
    rcases List.mem_cons.mp h with h | h
    · cases h
      simp [get?]
    · have hk : k ≠ key := by
        intro e
        subst e
        exact hnew (List.mem_map.mpr ⟨(k, v), h, rfl⟩)
      rw [get?, if_neg hk]
      exact ih hrest h

theorem keys_insert_of_mem (ms : Members α) {key : String} (v : α) (h : key ∈ ms.keys) :
    (ms.insert key v).keys = ms.keys := by
  induction ms with
  | nil => simp [keys] at h
  | cons p rest ih =>
    obtain ⟨k, w⟩ := p
    by_cases hk : k = key
    · simp [insert, keys, hk]
    · have : key ∈ keys rest := by
        simpa [keys, Ne.symm hk] using h
      have := ih this
      simp only [insert, hk, if_false]
      simpa [keys] using this

theorem keys_insert_of_not_mem (ms : Members α) {key : String} (v : α) (h : key ∉ ms.keys) :
    (ms.insert key v).keys = ms.keys ++ [key] := by
  induction ms with
  | nil => simp [insert, keys]
  | cons p rest ih =>
    obtain ⟨k, w⟩ := p
    have hk : k ≠ key := by
      intro e; subst e; simp [keys] at h
    have hr : key ∉ keys rest := fun hm => h (by simp [keys] at hm ⊢; exact Or.inr hm)
    have := ih hr
    simp only [insert, hk, if_false]
    simpa [keys] using this

end Members

end RequestValidation
