import RequestValidation.Request.Path
/-!
# Positions in a document

A position says where a value is by the turns that lead there: to an item of an array, or to a
member of an object. Unlike the path that is written for it, it tells a member `a.b` from the member
`b` of a member `a`. What a field reaches in a document is what can be walked to along its steps,
and every walk writes its own path.

Results:
* `not_mem_reach_none`: nothing is found where there is no document.
* `mem_reach_iff`: a value is found at a path exactly when a walk leads to it and writes the path.
-/
namespace RequestValidation

/-- A turn on the way to a value. -/
inductive Turn where
  | item (i : Nat)
  | member (key : String)
deriving DecidableEq, Repr

/-- Where a value is in a document. -/
abbrev Position := List Turn

/-- `Walks v segments position w` says that the steps lead from `v` to `w` by the turns of
`position`. A wildcard steps to any item of an array and to any member of an object. -/
inductive Walks : Json → List Segment → Position → Json → Prop
  | here (v : Json) : Walks v [] [] v
  | key {ms : List (String × Json)} {k : String} {v w : Json} {segments : List Segment}
      {position : Position} (hv : Members.get? ms k = some v) (h : Walks v segments position w) :
      Walks (.object ms) (.key k :: segments) (.member k :: position) w
  | item {vs : List Json} {i : Nat} {v w : Json} {segments : List Segment}
      {position : Position} (hv : vs[i]? = some v) (h : Walks v segments position w) :
      Walks (.array vs) (.index i :: segments) (.item i :: position) w
  | numbered {ms : List (String × Json)} {i : Nat} {v w : Json} {segments : List Segment}
      {position : Position} (hv : Members.get? ms (toString i) = some v)
      (h : Walks v segments position w) :
      Walks (.object ms) (.index i :: segments) (.member (toString i) :: position) w
  | anyItem {vs : List Json} {i : Nat} {v w : Json} {segments : List Segment}
      {position : Position} (hv : vs[i]? = some v) (h : Walks v segments position w) :
      Walks (.array vs) (.wildcard :: segments) (.item i :: position) w
  | anyMember {ms : List (String × Json)} {k : String} {v w : Json} {segments : List Segment}
      {position : Position} (hv : (k, v) ∈ ms) (h : Walks v segments position w) :
      Walks (.object ms) (.wildcard :: segments) (.member k :: position) w

/-- The path behind one more turn. A step by index is written as one, whatever it is taken in. -/
def Segment.writeTurn (path : String) : Segment → Turn → String
  | .index i, _ => appendIndex path i
  | _, .item i => appendIndex path i
  | _, .member k => appendName path k

/-- The path that a walk writes. -/
def writePath : List Segment → Position → String → String
  | s :: segments, t :: position, path => writePath segments position (s.writeTurn path t)
  | _, _, path => path

/-! ## What is reached -/

/-- Nothing is found where there is no document. -/
theorem not_mem_reach_none (segments : List Segment) (path p : String) (w : Json) :
    (p, some w) ∉ reach none segments path := by
  induction segments generalizing path with
  | nil => simp [reach]
  | cons s segments ih =>
    cases s with
    | key k => exact ih (appendName path k)
    | index i => exact ih (appendIndex path i)
    | wildcard => simp [reach]

/-- Every value that is found was walked to. -/
theorem exists_walk_of_mem_reach {v w : Json} {segments : List Segment} {path p : String}
    (h : (p, some w) ∈ reach (some v) segments path) :
    ∃ position, Walks v segments position w ∧ writePath segments position path = p := by
  induction segments generalizing v path with
  | nil =>
    simp only [reach, List.mem_singleton, Prod.mk.injEq, Option.some.injEq] at h
    obtain ⟨rfl, rfl⟩ := h
    exact ⟨[], .here w, rfl⟩
  | cons s segments ih =>
    cases s with
    | key k =>
      simp only [reach, Option.bind_some] at h
      cases hv : v.member? k with
      | none => rw [hv] at h; exact absurd h (not_mem_reach_none _ _ _ _)
      | some u =>
        rw [hv] at h
        obtain ⟨position, hw, hp⟩ := ih h
        cases v with
        | object ms => exact ⟨.member k :: position, .key hv hw, hp⟩
        | _ => cases hv
    | index i =>
      simp only [reach, Option.bind_some] at h
      cases hv : v.index? i with
      | none => rw [hv] at h; exact absurd h (not_mem_reach_none _ _ _ _)
      | some u =>
        rw [hv] at h
        obtain ⟨position, hw, hp⟩ := ih h
        cases v with
        | array vs => exact ⟨.item i :: position, .item hv hw, hp⟩
        | object ms => exact ⟨.member (toString i) :: position, .numbered hv hw, hp⟩
        | _ => cases hv
    | wildcard =>
      cases v with
      | array vs =>
        simp only [reach, List.mem_flatMap] at h
        obtain ⟨⟨u, i⟩, hu, h⟩ := h
        obtain ⟨position, hw, hp⟩ := ih h
        exact ⟨.item i :: position, .anyItem (List.mem_zipIdx_iff_getElem?.mp hu) hw, hp⟩
      | object ms =>
        simp only [reach, List.mem_flatMap] at h
        obtain ⟨⟨k, u⟩, hu, h⟩ := h
        obtain ⟨position, hw, hp⟩ := ih h
        exact ⟨.member k :: position, .anyMember hu hw, hp⟩
      | _ => cases h

/-- Every walk leads to a value that is found. -/
theorem Walks.mem_reach {v w : Json} {segments : List Segment} {position : Position}
    (h : Walks v segments position w) (path : String) :
    (writePath segments position path, some w) ∈ reach (some v) segments path := by
  induction h generalizing path with
  | here => exact List.mem_singleton.mpr rfl
  | key hv _ ih =>
    simp only [reach, Option.bind_some, Json.member?, Json.members?, hv]
    exact ih _
  | item hv _ ih =>
    simp only [reach, Option.bind_some, Json.index?, hv]
    exact ih _
  | numbered hv _ ih =>
    simp only [reach, Option.bind_some, Json.index?, hv]
    exact ih _
  | @anyItem vs i u _ _ _ hv _ ih =>
    have hu : (u, i) ∈ vs.zipIdx := List.mem_zipIdx_iff_getElem?.mpr hv
    exact List.mem_flatMap.mpr ⟨(u, i), hu, ih (appendIndex path i)⟩
  | @anyMember ms k u _ _ _ hv _ ih =>
    exact List.mem_flatMap.mpr ⟨(k, u), hv, ih (appendName path k)⟩

/-- **What a field reaches.** A value is found at a path exactly when a walk leads to it and writes
that path. -/
theorem mem_reach_iff {v w : Json} {segments : List Segment} {path p : String} :
    (p, some w) ∈ reach (some v) segments path ↔
      ∃ position, Walks v segments position w ∧ writePath segments position path = p := by
  refine ⟨exists_walk_of_mem_reach, ?_⟩
  rintro ⟨position, hw, rfl⟩
  exact hw.mem_reach path

end RequestValidation
