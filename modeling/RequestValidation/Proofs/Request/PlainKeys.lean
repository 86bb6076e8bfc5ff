import Mathlib.Data.List.Nodup
import RequestValidation.Proofs.Request.Coverage
/-!
# Documents with plain keys

A key is plain if it is not empty and has no point and no opening bracket in it. In a document with
plain keys, each once in its object, a path says where a value is: two walks along the same steps
that write one path are the same walk. So no value escapes a field.

Results:
* `eq_of_append_eq`: where a run of characters ends.
* `Walks.eq_of_writePath_eq`: with plain keys a path is written by one walk.
* `nothingEscapes_of_plainKeys`: with plain keys no value escapes a field.
-/
namespace RequestValidation

/-- A key that cannot be taken for several steps, or for none. -/
def PlainKey (k : String) : Prop := k ≠ "" ∧ ∀ c ∈ k.toList, c ≠ '.' ∧ c ≠ '['

/-- A document whose objects have plain keys, each once. -/
inductive Json.PlainKeys : Json → Prop
  | null : PlainKeys .null
  | bool (b : Bool) : PlainKeys (.bool b)
  | number (n : Number) : PlainKeys (.number n)
  | string (s : String) : PlainKeys (.string s)
  | array {vs : List Json} (h : ∀ v ∈ vs, PlainKeys v) : PlainKeys (.array vs)
  | object {ms : List (String × Json)} (hnodup : (ms.map Prod.fst).Nodup)
      (hkeys : ∀ p ∈ ms, PlainKey p.1) (h : ∀ p ∈ ms, PlainKeys p.2) : PlainKeys (.object ms)

/-! ## Text -/

/-- Where a run of characters ends is seen from the text. -/
theorem eq_of_append_eq {p : Char → Bool} {x y u v : List Char} (hx : ∀ c ∈ x, p c = true)
    (hy : ∀ c ∈ y, p c = true) (hu : ∀ c ∈ u.head?, p c = false) (hv : ∀ c ∈ v.head?, p c = false)
    (h : x ++ u = y ++ v) : x = y := by
  have run : ∀ {x u : List Char}, (∀ c ∈ x, p c = true) → (∀ c ∈ u.head?, p c = false) →
      (x ++ u).takeWhile p = x := by
    intro x u hx hu
    rw [List.takeWhile_append_of_pos hx]
    cases u with
    | nil => simp
    | cons c u => rw [List.takeWhile_cons_of_neg (by simp [hu c rfl]), List.append_nil]
  rw [← run hx hu, h, run hy hv]

theorem toString_index_injective {i j : Nat} {u v : List Char}
    (h : (toString i).toList ++ ']' :: u = (toString j).toList ++ ']' :: v) : i = j := by
  have hdigits : ∀ n : Nat, ∀ c ∈ (toString n).toList, (c != ']') = true := by
    intro n c hc
    rw [Nat.toString_eq_ofList_toDigits, String.toList_ofList] at hc
    have := Nat.isDigit_of_mem_toDigits (by decide) (by decide) hc
    refine bne_iff_ne.mpr ?_
    rintro rfl
    exact absurd this (by decide)
  have htext : (toString i).toList = (toString j).toList :=
    eq_of_append_eq (hdigits i) (hdigits j) (by simp) (by simp) h
  rw [Nat.toString_eq_ofList_toDigits, Nat.toString_eq_ofList_toDigits, String.toList_ofList,
    String.toList_ofList] at htext
  rw [← Nat.ofDigitChars_ten_toDigits (n := i), htext, Nat.ofDigitChars_ten_toDigits]

theorem toList_appendIndex (path : String) (i : Nat) :
    (appendIndex path i).toList = path.toList ++ '[' :: ((toString i).toList ++ [']']) := by
  simp [appendIndex]

theorem toList_appendName (path k : String) :
    (appendName path k).toList =
      path.toList ++ ((if path = "" then [] else ['.']) ++ k.toList) := by
  unfold appendName
  split
  · simp [*]
  · simp

/-! ## One path, one walk -/

/-- A turn is written at the end; behind a path that is not empty stands a point or a bracket. -/
theorem writeTurn_eq_append (s : Segment) (t : Turn) (path : String) :
    ∃ mark, (s.writeTurn path t).toList = path.toList ++ mark ∧
      (path ≠ "" → mark.head? = some '.' ∨ mark.head? = some '[') := by
  have hindex : ∀ i, ∃ mark, (appendIndex path i).toList = path.toList ++ mark ∧
      (path ≠ "" → mark.head? = some '.' ∨ mark.head? = some '[') :=
    fun i => ⟨_, toList_appendIndex path i, fun _ => .inr rfl⟩
  have hname : ∀ k, ∃ mark, (appendName path k).toList = path.toList ++ mark ∧
      (path ≠ "" → mark.head? = some '.' ∨ mark.head? = some '[') :=
    fun k => ⟨_, toList_appendName path k, fun h => .inl (by rw [if_neg h]; rfl)⟩
  cases s with
  | index i => exact hindex i
  | key | wildcard =>
    cases t with
    | item i => exact hindex i
    | member k => exact hname k

theorem writePath_eq_append (segments : List Segment) (position : Position) (path : String) :
    ∃ tail, (writePath segments position path).toList = path.toList ++ tail ∧
      (path ≠ "" → ∀ c ∈ tail.head?, c = '.' ∨ c = '[') := by
  have hhere : ∃ tail, path.toList = path.toList ++ tail ∧
      (path ≠ "" → ∀ c ∈ tail.head?, c = '.' ∨ c = '[') := ⟨[], by simp, by simp⟩
  match segments, position with
  | [], _ => exact hhere
  | _ :: _, [] => exact hhere
  | s :: segments, t :: position =>
    obtain ⟨mark, hmark, hhead⟩ := writeTurn_eq_append s t path
    obtain ⟨tail, htail, -⟩ := writePath_eq_append segments position (s.writeTurn path t)
    refine ⟨mark ++ tail, ?_, fun hpath c hc => ?_⟩
    · rw [writePath, htail, hmark, List.append_assoc]
    · rw [List.head?_append] at hc
      rcases hhead hpath with h | h
      · rw [h] at hc
        exact .inl (Option.some.inj hc).symm
      · rw [h] at hc
        exact .inr (Option.some.inj hc).symm

/-- Behind one path the items of an array are told apart by what is written next. -/
theorem item_eq_of_writePath_eq {segments segments' : List Segment}
    {position position' : Position} {path : String} {i j : Nat}
    (e : writePath segments position (appendIndex path i) =
      writePath segments' position' (appendIndex path j)) : i = j := by
  obtain ⟨u, hu, -⟩ := writePath_eq_append segments position (appendIndex path i)
  obtain ⟨v, hv, -⟩ := writePath_eq_append segments' position' (appendIndex path j)
  rw [e, hv, toList_appendIndex, toList_appendIndex] at hu
  refine (toString_index_injective (u := v) (v := u) ?_).symm
  simpa using hu

/-- So are the members of an object with plain keys. -/
theorem member_eq_of_writePath_eq {segments segments' : List Segment}
    {position position' : Position} {path k l : String} (hk : PlainKey k) (hl : PlainKey l)
    (e : writePath segments position (appendName path k) =
      writePath segments' position' (appendName path l)) : k = l := by
  have hname : ∀ {m : String}, PlainKey m → appendName path m ≠ "" := by
    intro m hm h
    have := congrArg String.toList h
    rw [toList_appendName] at this
    simp [hm.1] at this
  obtain ⟨u, hu, hu'⟩ := writePath_eq_append segments position (appendName path k)
  obtain ⟨v, hv, hv'⟩ := writePath_eq_append segments' position' (appendName path l)
  rw [e, hv, toList_appendName, toList_appendName] at hu
  have hplain : ∀ {m : String}, PlainKey m →
      ∀ c ∈ m.toList, (c != '.' && c != '[') = true := by
    intro m hm c hc
    simpa using hm.2 c hc
  refine String.toList_inj.mp ?_
  refine eq_of_append_eq (p := fun c => c != '.' && c != '[') (u := u) (v := v) (hplain hk)
    (hplain hl) ?_ ?_ ?_
  · intro c hc
    rcases hu' (hname hk) c hc with rfl | rfl <;> rfl
  · intro c hc
    rcases hv' (hname hl) c hc with rfl | rfl <;> rfl
  · simpa using hu.symm

/-- **One path, one walk.** In a document with plain keys two walks along the same steps that write
one path take the same turns to the same value. -/
theorem Walks.eq_of_writePath_eq {v w w' : Json} {segments : List Segment}
    {position position' : Position} {path : String} (hv : v.PlainKeys)
    (h : Walks v segments position w) (h' : Walks v segments position' w')
    (e : writePath segments position path = writePath segments position' path) :
    position = position' ∧ w = w' := by
  -- on the first walk: the other starts with the same turn, behind a wildcard because of the path
  induction h generalizing position' path with
  | here => cases h'; exact ⟨rfl, rfl⟩
  | key hu _ ih =>
    cases h' with
    | key hu' h' =>
      obtain rfl := Option.some.inj (hu.symm.trans hu')
      cases hv with
      | object _ _ hv =>
        obtain ⟨rfl, rfl⟩ := ih (hv _ (Members.mem_of_get? hu)) h' e
        exact ⟨rfl, rfl⟩
  | item hu _ ih =>
    cases h' with
    | item hu' h' =>
      obtain rfl := Option.some.inj (hu.symm.trans hu')
      cases hv with
      | array hv =>
        obtain ⟨rfl, rfl⟩ := ih (hv _ (List.mem_of_getElem? hu)) h' e
        exact ⟨rfl, rfl⟩
  | numbered hu _ ih =>
    cases h' with
    | numbered hu' h' =>
      obtain rfl := Option.some.inj (hu.symm.trans hu')
      cases hv with
      | object _ _ hv =>
        obtain ⟨rfl, rfl⟩ := ih (hv _ (Members.mem_of_get? hu)) h' e
        exact ⟨rfl, rfl⟩
  | anyItem hu _ ih =>
    cases h' with
    | anyItem hu' h' =>
      obtain rfl := item_eq_of_writePath_eq e
      obtain rfl := Option.some.inj (hu.symm.trans hu')
      cases hv with
      | array hv =>
        obtain ⟨rfl, rfl⟩ := ih (hv _ (List.mem_of_getElem? hu)) h' e
        exact ⟨rfl, rfl⟩
  | anyMember hu _ ih =>
    cases h' with
    | anyMember hu' h' =>
      cases hv with
      | object hnodup hkeys hv =>
        obtain rfl := member_eq_of_writePath_eq (hkeys _ hu) (hkeys _ hu') e
        obtain ⟨-, rfl⟩ := Prod.mk.inj (List.inj_on_of_nodup_map hnodup hu hu' rfl)
        obtain ⟨rfl, rfl⟩ := ih (hv _ hu) h' e
        exact ⟨rfl, rfl⟩

/-- **With plain keys no value escapes a field**, whatever its wildcards, in any locations. -/
theorem nothingEscapes_of_plainKeys {r : Request} {field : String} {locations : List Location}
    (hplain : ∀ l ∈ locations, ∀ root, r.root? l = some root → root.PlainKeys) :
    NothingEscapes r [field] locations := by
  refine nothingEscapes_of_apart (fun s t hl hp => ?_) fun s hhidden => ?_
  · obtain ⟨f, l, root, position, v, hf, hlmem, hroot, hwalk⟩ := s
    obtain ⟨g, m, root', position', w, hg, hmmem, hroot', hwalk'⟩ := t
    obtain rfl := List.mem_singleton.mp hf
    obtain rfl := List.mem_singleton.mp hg
    obtain rfl : l = m := hl
    obtain rfl := Option.some.inj (hroot.symm.trans hroot')
    exact hwalk.eq_of_writePath_eq (hplain l hlmem root hroot) hwalk' hp
  · obtain ⟨before, f, after, hsplit, -, hnone, -⟩ := hhidden
    have hf : f ∈ [field] := by rw [hsplit]; simp
    obtain rfl := List.mem_singleton.mp hf
    have hfield : s.field = f := List.mem_singleton.mp s.field_mem
    have hvalue := s.valueAt?_isSome
    rw [hfield, hnone _ s.location_mem] at hvalue
    cases hvalue

end RequestValidation
