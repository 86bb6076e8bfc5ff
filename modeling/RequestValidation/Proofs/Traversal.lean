import Mathlib.Data.List.Forall2
/-!
# Traversals that may fail

A list is traversed by a function that may fail; the first failure in the order of the list is
that of the traversal.

Results:
* `bind_ok_iff`, `bind_error_iff`, `map_ok_iff`, `map_error_iff`: how a computation ends that goes
  on from another.
* `forall₂_comp`, `exists_between_forall₂`, `forall₂_trans`, `map_eq_map_of_forall₂`,
  `exists_of_forall₂`, `getElem?_of_forall₂`: lists whose elements are related one by one.
* `mapM_eq_ok_iff`, `mapM_eq_ok_map`: a success is one for every element.
* `exists_of_mapM_error`: a failure is that of an element.
* `exists_mapM_ok_iff`: when there is a success.
* `mapM_bind_of_ok`, `mapM_bind_of_error`: two traversals, one after the other, as a single one.
* `mapM_map_of_inverse`: reading back what was written of each element.
-/
namespace RequestValidation

variable {ε α β γ : Type} {f : α → Except ε β} {g : β → Except ε γ}

/-! ## One computation after another -/

theorem bind_ok_iff {x : Except ε α} {f : α → Except ε β} {b : β} :
    (x >>= f) = .ok b ↔ ∃ a, x = .ok a ∧ f a = .ok b := by
  cases x <;> simp [bind, Except.bind]

theorem bind_error_iff {x : Except ε α} {f : α → Except ε β} {e : ε} :
    (x >>= f) = .error e ↔ x = .error e ∨ ∃ a, x = .ok a ∧ f a = .error e := by
  cases x <;> simp [bind, Except.bind]

theorem map_ok_iff {x : Except ε α} {f : α → β} {b : β} :
    x.map f = .ok b ↔ ∃ a, x = .ok a ∧ f a = b := by
  cases x <;> simp [Except.map]

theorem map_error_iff {x : Except ε α} {f : α → β} {e : ε} :
    x.map f = .error e ↔ x = .error e := by
  cases x <;> simp [Except.map]

theorem mapError_error_iff {ζ : Type} {x : Except ε α} {f : ε → ζ} {e : ζ} :
    x.mapError f = .error e ↔ ∃ e', x = .error e' ∧ f e' = e := by
  cases x <;> simp [Except.mapError]

/-! ## Lists side by side -/

/-- Two lists that are related through a third one. -/
theorem forall₂_comp {r : α → β → Prop} {q : β → γ → Prop} {xs : List α} {ys : List β}
    {zs : List γ} (h : List.Forall₂ r xs ys) (h' : List.Forall₂ q ys zs) :
    List.Forall₂ (fun x z => ∃ y, r x y ∧ q y z) xs zs := by
  induction h generalizing zs with
  | nil =>
    cases h'
    exact .nil
  | cons hxy _ ih =>
    cases h' with
    | cons hyz h' => exact .cons ⟨_, hxy, hyz⟩ (ih h')

/-- If there is something between any two elements, there is a list between the lists. -/
theorem exists_between_forall₂ {r : α → β → Prop} {q : β → γ → Prop} {xs : List α} {zs : List γ}
    (h : List.Forall₂ (fun x z => ∃ y, r x y ∧ q y z) xs zs) :
    ∃ ys, List.Forall₂ r xs ys ∧ List.Forall₂ q ys zs := by
  induction h with
  | nil => exact ⟨[], .nil, .nil⟩
  | cons hxz _ ih =>
    obtain ⟨y, hxy, hyz⟩ := hxz
    obtain ⟨ys, hr, hq⟩ := ih
    exact ⟨y :: ys, .cons hxy hr, .cons hyz hq⟩

theorem forall₂_trans {r : α → α → Prop} (hr : ∀ a b c, r a b → r b c → r a c)
    {xs ys zs : List α} (h : List.Forall₂ r xs ys) (h' : List.Forall₂ r ys zs) :
    List.Forall₂ r xs zs :=
  (forall₂_comp h h').imp fun a c ⟨b, hab, hbc⟩ => hr a b c hab hbc

theorem map_eq_map_of_forall₂ {f : α → γ} {g : β → γ} {xs : List α} {ys : List β}
    (h : List.Forall₂ (fun x y => f x = g y) xs ys) : xs.map f = ys.map g := by
  rwa [← List.forall₂_eq_eq_eq, List.forall₂_map_left_iff, List.forall₂_map_right_iff]

/-- What is in the first of two lists has a counterpart in the second. -/
theorem exists_of_forall₂ {r : α → β → Prop} {xs : List α} {ys : List β}
    (h : List.Forall₂ r xs ys) {x : α} (hx : x ∈ xs) : ∃ y ∈ ys, r x y := by
  induction h with
  | nil => cases hx
  | cons hxy _ ih =>
    rcases List.mem_cons.mp hx with rfl | hx
    · exact ⟨_, List.mem_cons_self, hxy⟩
    · obtain ⟨y, hmem, hy⟩ := ih hx
      exact ⟨y, List.mem_cons_of_mem _ hmem, hy⟩

theorem getElem?_of_forall₂ {r : α → β → Prop} {xs : List α} {ys : List β}
    (h : List.Forall₂ r xs ys) {i : Nat} {x : α} (hx : xs[i]? = some x) :
    ∃ y, ys[i]? = some y ∧ r x y := by
  induction h generalizing i with
  | nil => simp at hx
  | cons hxy _ ih =>
    cases i with
    | zero =>
      obtain rfl := Option.some.inj hx
      exact ⟨_, rfl, hxy⟩
    | succ i => exact ih hx

/-! ## Traversals -/

theorem mapM_eq_ok_iff {xs : List α} {ys : List β} :
    xs.mapM f = .ok ys ↔ List.Forall₂ (fun x y => f x = .ok y) xs ys := by
  induction xs generalizing ys with
  | nil =>
    rw [List.forall₂_nil_left_iff]
    exact ⟨fun h => (Except.ok.inj h).symm, fun h => h ▸ rfl⟩
  | cons x xs ih =>
    rw [List.mapM_cons, List.forall₂_cons_left_iff, bind_ok_iff]
    simp only [bind_ok_iff, ih, pure, Except.pure, Except.ok.injEq, ← exists_and_left,
      @eq_comm _ ys]

/-- A traversal that succeeds on every element gives what becomes of each. -/
theorem mapM_eq_ok_map {g : α → β} {xs : List α} (h : ∀ x ∈ xs, f x = .ok (g x)) :
    xs.mapM f = .ok (xs.map g) := by
  rw [mapM_eq_ok_iff, List.forall₂_map_right_iff]
  exact List.forall₂_same.mpr h

theorem exists_of_mapM_ok {xs : List α} {ys : List β} (h : xs.mapM f = .ok ys) {x : α}
    (hx : x ∈ xs) : ∃ y ∈ ys, f x = .ok y :=
  exists_of_forall₂ (mapM_eq_ok_iff.mp h) hx

theorem exists_of_mapM_error {xs : List α} {e : ε} (h : xs.mapM f = .error e) :
    ∃ x ∈ xs, f x = .error e := by
  induction xs with
  | nil => cases h
  | cons x xs ih =>
    rw [List.mapM_cons, bind_error_iff] at h
    rcases h with hx | ⟨y, -, h⟩
    · exact ⟨x, List.mem_cons_self, hx⟩
    · rcases bind_error_iff.mp h with hxs | ⟨ys, -, h⟩
      · obtain ⟨x', hx', he⟩ := ih hxs
        exact ⟨x', List.mem_cons_of_mem x hx', he⟩
      · cases h

/-- A traversal succeeds just if its function does on every element. -/
theorem exists_mapM_ok_iff {xs : List α} :
    (∃ ys, xs.mapM f = .ok ys) ↔ ∀ x ∈ xs, ∃ y, f x = .ok y := by
  constructor
  · rintro ⟨ys, h⟩ x hx
    obtain ⟨y, -, hy⟩ := exists_of_mapM_ok h hx
    exact ⟨y, hy⟩
  · intro h
    cases hm : xs.mapM f with
    | ok ys => exact ⟨ys, rfl⟩
    | error e =>
      obtain ⟨x, hx, he⟩ := exists_of_mapM_error hm
      obtain ⟨y, hy⟩ := h x hx
      rw [he] at hy
      cases hy

/-- If the first traversal succeeds, the second goes on from what it gave. -/
theorem mapM_bind_of_ok {xs : List α} {ys : List β} (h : xs.mapM f = .ok ys) :
    xs.mapM (fun x => f x >>= g) = ys.mapM g := by
  induction xs generalizing ys with
  | nil => cases h; rfl
  | cons x xs ih =>
    rw [List.mapM_cons, bind_ok_iff] at h
    obtain ⟨y, hx, h⟩ := h
    obtain ⟨ys', hxs, h⟩ := bind_ok_iff.mp h
    obtain rfl := Except.ok.inj h
    rw [List.mapM_cons, List.mapM_cons, ih hxs, hx]
    rfl

/-- If the first traversal fails and no element fails later in another way, the two together fail
as the first does. -/
theorem mapM_bind_of_error {xs : List α} {e : ε} (h : xs.mapM f = .error e)
    (hone : ∀ x ∈ xs, f x = .error e ∨ ∃ z, (f x >>= g) = .ok z) :
    xs.mapM (fun x => f x >>= g) = .error e := by
  induction xs with
  | nil => cases h
  | cons x xs ih =>
    rw [List.mapM_cons, bind_error_iff] at h ⊢
    rcases hone x List.mem_cons_self with hx | ⟨z, hz⟩
    · exact .inl (bind_error_iff.mpr (.inl hx))
    · obtain ⟨y, hx, -⟩ := bind_ok_iff.mp hz
      have htail : xs.mapM f = .error e := by
        rcases h with he | ⟨y', -, h⟩
        · rw [hx] at he
          cases he
        · rcases bind_error_iff.mp h with hxs | ⟨ys, -, h⟩
          · exact hxs
          · cases h
      have hrest := ih htail fun x' hx' => hone x' (List.mem_cons_of_mem x hx')
      exact .inr ⟨z, hz, bind_error_iff.mpr (.inl hrest)⟩

/-- If a function undoes another one on the elements of a list, so does a traversal by it. -/
theorem mapM_map_of_inverse {write : α → β} {read : β → Option α} {xs : List α}
    (h : ∀ x ∈ xs, read (write x) = some x) : (xs.map write).mapM read = some xs := by
  induction xs with
  | nil => rfl
  | cons x xs ih =>
    have hx := h x List.mem_cons_self
    have hxs := ih fun y hy => h y (List.mem_cons_of_mem x hy)
    rw [List.map_cons, List.mapM_cons, hx, hxs]
    rfl

end RequestValidation
