import RequestValidation.Chain.Report
/-!
# Matched data

A report matches a path with a value if some occurrence at the path has a value and no error at its
place. The value is that of the first such occurrence.

Results:
* `mem_insertNew_iff`: what a new name adds to members.
* `mem_matched_iff`: the matched values are those of the first occurrences that qualify.
-/
namespace RequestValidation

theorem mem_insertNew_iff {α : Type} (ms : Members α) (key k : String) (v w : α) :
    (k, w) ∈ Members.insertNew ms key v ↔ (k, w) ∈ ms ∨ key ∉ ms.keys ∧ k = key ∧ w = v := by
  unfold Members.insertNew
  cases hcontains : ms.contains key with
  | true =>
    have hmem : key ∈ ms.keys := (Members.get?_isSome_iff ms key).mp hcontains
    simp [hmem]
  | false =>
    have hmem : key ∉ ms.keys := by
      intro h
      have := (Members.get?_isSome_iff ms key).mpr h
      rw [← Members.contains, hcontains] at this
      cases this
    simp [hmem]

namespace Report

/-- Whether an occurrence is one at a path with a value and without an error at its place. -/
def qualifies (r : Report) (path : String) (o : Occurrence) : Bool :=
  o.path == path && o.value.isSome && !r.failed o

theorem qualifies_iff {r : Report} {path : String} {o : Occurrence} :
    r.qualifies path o = true ↔ o.path = path ∧ (∃ v, o.value = some v) ∧ r.failed o = false := by
  simp [qualifies, Option.isSome_iff_exists, and_assoc]

/-- The matched data with what one more occurrence adds. -/
def addMatch (r : Report) (ms : Members Json) (o : Occurrence) : Members Json :=
  match o.value with
  | some v => if r.failed o then ms else Members.insertNew ms o.path v
  | none => ms

theorem matched_eq (r : Report) : r.matched = r.data.foldl r.addMatch [] := rfl

theorem mem_addMatch_iff (r : Report) (ms : Members Json) (o : Occurrence) (path : String)
    (v : Json) : (path, v) ∈ r.addMatch ms o ↔
      (path, v) ∈ ms ∨ path ∉ ms.keys ∧ r.qualifies path o = true ∧ o.value = some v := by
  unfold addMatch qualifies
  cases hv : o.value with
  | none => simp
  | some u =>
    cases hfailed : r.failed o with
    | true => simp
    | false =>
      simp only [Bool.false_eq_true, if_false, mem_insertNew_iff, Option.isSome_some,
        Bool.not_false, Bool.and_true, beq_iff_eq, Option.some.injEq]
      constructor
      · rintro (h | ⟨hnew, rfl, rfl⟩)
        · exact .inl h
        · exact .inr ⟨hnew, rfl, rfl⟩
      · rintro (h | ⟨hnew, rfl, rfl⟩)
        · exact .inl h
        · exact .inr ⟨hnew, rfl, rfl⟩

theorem mem_keys_addMatch_iff (r : Report) (ms : Members Json) (o : Occurrence) (path : String) :
    path ∈ Members.keys (r.addMatch ms o) ↔ path ∈ ms.keys ∨ r.qualifies path o = true := by
  unfold addMatch qualifies
  cases hv : o.value with
  | none => simp
  | some u =>
    cases hfailed : r.failed o with
    | true => simp
    | false =>
      simp only [Bool.false_eq_true, if_false, keys_insertNew, Option.isSome_some,
        Bool.not_false, Bool.and_true, beq_iff_eq]
      rw [eq_comm (a := path)]

/-- A path is matched with the value of the first occurrence that qualifies. -/
theorem mem_matched_iff (r : Report) (path : String) (v : Json) :
    (path, v) ∈ r.matched ↔
      ∃ o, r.data.find? (r.qualifies path) = some o ∧ o.value = some v := by
  suffices key : ∀ (data : List Occurrence) (ms : Members Json),
      (path, v) ∈ data.foldl r.addMatch ms ↔ (path, v) ∈ ms ∨ path ∉ ms.keys ∧
        ∃ o, data.find? (r.qualifies path) = some o ∧ o.value = some v by
    simpa [matched_eq, Members.keys] using key r.data []
  -- on the data, for all members that are there already
  intro data
  induction data with
  | nil => simp
  | cons o rest ih =>
    intro ms
    rw [List.foldl_cons, List.find?_cons, ih, mem_addMatch_iff, mem_keys_addMatch_iff]
    cases hq : r.qualifies path o <;> simp

end Report

end RequestValidation
