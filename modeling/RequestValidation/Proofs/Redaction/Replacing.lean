import Mathlib
import RequestValidation.Redaction
/-!
# Replacing what a finder finds

`replaceAll` goes through a text once, from left to right, and looks at every state of its way only
at the character before and at the text that is left. What it writes is not looked at again.

Results:
* `Reaches`: the states that a run comes to.
* `eq_or_exists_first`: the text is kept up to the first find.
* `length_replaceAll_le`, `free_of_length_replaceAll`: a finder that puts less in place of what it
  finds shortens every text in which it finds something.
-/
namespace RequestValidation.Redaction

variable {find : Finder} {b b' : Option Char} {c : Char} {cs cs' put : List Char} {n : Nat}

/-! ## One step -/

theorem replaceAll_nil : replaceAll find b [] = [] := by simp [replaceAll]

theorem replaceAll_of_none (h : find b (c :: cs) = none) :
    replaceAll find b (c :: cs) = c :: replaceAll find (some c) cs := by
  rw [replaceAll, h]

theorem replaceAll_of_some (h : find b (c :: cs) = some (put, n)) :
    replaceAll find b (c :: cs) = put ++ replaceAll find (c :: cs)[n]? (cs.drop n) := by
  rw [replaceAll, h]

/-- What is behind `n` characters, and the last of them. -/
theorem getElem?_and_drop_of_append {found rest : List Char} (h : c :: cs = found ++ rest)
    (hn : found.length = n + 1) : (c :: cs)[n]? = found.getLast? ∧ cs.drop n = rest := by
  constructor
  · rw [h, List.getElem?_append_left (by omega), List.getLast?_eq_getElem?, hn, Nat.add_sub_cancel]
  · rw [← List.drop_succ_cons, h, ← hn, List.drop_left]

theorem replaceAll_append_of_some {found rest : List Char}
    (h : find b (found ++ rest) = some (put, n)) (hn : found.length = n + 1) :
    replaceAll find b (found ++ rest) = put ++ replaceAll find found.getLast? rest := by
  obtain ⟨c, cs, hcs⟩ : ∃ c cs, found ++ rest = c :: cs :=
    List.exists_cons_of_ne_nil (by simp [← List.length_eq_zero_iff, hn])
  obtain ⟨hlast, hrest⟩ := getElem?_and_drop_of_append hcs.symm hn
  rw [hcs] at h ⊢
  rw [replaceAll_of_some h, hlast, hrest]

/-- `Reaches find b cs b' cs'` says that a run from `cs`, with `b` before it, comes to `cs'`, with
`b'` before it. -/
inductive Reaches (find : Finder) : Option Char → List Char → Option Char → List Char → Prop
  | here (b : Option Char) (cs : List Char) : Reaches find b cs b cs
  | passed {b b' : Option Char} {c : Char} {cs cs' : List Char} (h : find b (c :: cs) = none)
    (hrun : Reaches find (some c) cs b' cs') : Reaches find b (c :: cs) b' cs'
  | replaced {b b' : Option Char} {c : Char} {cs cs' put : List Char} {n : Nat}
    (h : find b (c :: cs) = some (put, n))
    (hrun : Reaches find (c :: cs)[n]? (cs.drop n) b' cs') : Reaches find b (c :: cs) b' cs'

section

variable {P : Option Char → List Char → Prop}

theorem forall_reaches_nil_iff :
    (∀ b' cs', Reaches find b [] b' cs' → P b' cs') ↔ P b [] := by
  constructor
  · intro h
    exact h b [] (.here b [])
  · rintro h _ _ (_ | _ | _)
    exact h

theorem forall_reaches_of_none (h : find b (c :: cs) = none) :
    (∀ b' cs', Reaches find b (c :: cs) b' cs' → P b' cs') ↔
      P b (c :: cs) ∧ ∀ b' cs', Reaches find (some c) cs b' cs' → P b' cs' := by
  constructor
  · intro hall
    exact ⟨hall _ _ (.here b _), fun b' cs' hrun => hall b' cs' (.passed h hrun)⟩
  · rintro ⟨hhere, hall⟩ b' cs' hrun
    cases hrun with
    | here => exact hhere
    | passed _ hrun => exact hall b' cs' hrun
    | replaced hsome => cases h.symm.trans hsome

theorem forall_reaches_append_of_some {found rest : List Char}
    (h : find b (found ++ rest) = some (put, n)) (hn : found.length = n + 1) :
    (∀ b' cs', Reaches find b (found ++ rest) b' cs' → P b' cs') ↔
      P b (found ++ rest) ∧ ∀ b' cs', Reaches find found.getLast? rest b' cs' → P b' cs' := by
  obtain ⟨c, cs, hcs⟩ : ∃ c cs, found ++ rest = c :: cs :=
    List.exists_cons_of_ne_nil (by simp [← List.length_eq_zero_iff, hn])
  obtain ⟨hlast, hrest⟩ := getElem?_and_drop_of_append hcs.symm hn
  rw [hcs] at h ⊢
  rw [← hlast, ← hrest]
  constructor
  · intro hall
    exact ⟨hall _ _ (.here b _), fun b' cs' hrun => hall b' cs' (.replaced h hrun)⟩
  · rintro ⟨hhere, hall⟩ b' cs' hrun
    cases hrun with
    | here => exact hhere
    | passed hnone => cases h.symm.trans hnone
    | replaced hsome hrun =>
      obtain ⟨⟩ := h.symm.trans hsome
      exact hall b' cs' hrun

end

/-- Up to what is found first the text is kept. -/
theorem eq_or_exists_first (find : Finder) (b : Option Char) (cs : List Char) :
    replaceAll find b cs = cs ∨
      ∃ front back b' put n out, cs = front ++ back ∧ find b' back = some (put, n) ∧
        replaceAll find b cs = front ++ (put ++ out) := by
  induction cs generalizing b with
  | nil => exact .inl replaceAll_nil
  | cons c cs ih =>
    cases h : find b (c :: cs) with
    | some found =>
      obtain ⟨put, n⟩ := found
      exact .inr ⟨[], c :: cs, b, put, n, _, rfl, h, replaceAll_of_some h⟩
    | none =>
      rw [replaceAll_of_none h]
      rcases ih (some c) with heq | ⟨front, back, b', put, n, out, rfl, hback, heq⟩
      · exact .inl (by rw [heq])
      · exact .inr ⟨c :: front, back, b', put, n, out, rfl, hback, by rw [heq, List.cons_append]⟩

/-- A text is kept in which nothing is found, whatever stands before. -/
theorem exists_replaceAll_append {text rest : List Char}
    (h : ∀ front tail b, text = front ++ tail → tail ≠ [] → find b (tail ++ rest) = none)
    (b : Option Char) :
    ∃ b', replaceAll find b (text ++ rest) = text ++ replaceAll find b' rest := by
  induction text generalizing b with
  | nil => exact ⟨b, rfl⟩
  | cons c text ih =>
    have hnone : find b (c :: (text ++ rest)) = none :=
      h [] (c :: text) b rfl (List.cons_ne_nil _ _)
    obtain ⟨b', heq⟩ := ih (fun front tail b htext => h (c :: front) tail b (by rw [htext]; rfl))
      (some c)
    exact ⟨b', by rw [List.cons_append, replaceAll_of_none hnone, heq, List.cons_append]⟩

/-! ## Length -/

/-- What a finder puts in place is no longer than what it has found, and that is in the text. -/
def Shrinks (find : Finder) : Prop :=
  ∀ b cs put n, find b cs = some (put, n) → n < cs.length ∧ put.length ≤ n + 1

/-- What a finder puts in place is shorter than what it has found, and that is in the text. -/
def ShrinksStrictly (find : Finder) : Prop :=
  ∀ b cs put n, find b cs = some (put, n) → n < cs.length ∧ put.length < n + 1

theorem ShrinksStrictly.shrinks (h : ShrinksStrictly find) : Shrinks find :=
  fun b cs put n hfound => ⟨(h b cs put n hfound).1, Nat.le_of_lt (h b cs put n hfound).2⟩

theorem length_replaceAll_le (hfind : Shrinks find) (b : Option Char) (cs : List Char) :
    (replaceAll find b cs).length ≤ cs.length := by
  induction b, cs using replaceAll.induct find with
  | case1 b => simp [replaceAll_nil]
  | case2 b c cs put n h ih =>
    obtain ⟨hn, hput⟩ := hfind _ _ _ _ h
    rw [replaceAll_of_some h]
    simp only [List.length_append, List.length_drop, List.length_cons] at ih hn ⊢
    omega
  | case3 b c cs h ih =>
    rw [replaceAll_of_none h]
    simpa using ih

/-- A text in which nothing is found. -/
def Free (find : Finder) : Option Char → List Char → Prop
  | _, [] => True
  | b, c :: cs => find b (c :: cs) = none ∧ Free find (some c) cs

theorem replaceAll_of_free (h : Free find b cs) : replaceAll find b cs = cs := by
  induction cs generalizing b with
  | nil => exact replaceAll_nil
  | cons c cs ih => rw [replaceAll_of_none h.1, ih h.2]

theorem getLast?_cons_or (c : Char) (front : List Char) (b : Option Char) :
    (c :: front).getLast?.or b = front.getLast?.or (some c) := by
  cases front with
  | nil => rfl
  | cons d front => simp [List.getLast?_cons]

theorem Free.behind {front : List Char} (h : Free find b (front ++ cs)) :
    Free find (front.getLast?.or b) cs := by
  induction front generalizing b with
  | nil => exact h
  | cons c front ih =>
    rw [getLast?_cons_or]
    exact ih h.2

theorem free_of_length_replaceAll (hfind : ShrinksStrictly find)
    (h : (replaceAll find b cs).length = cs.length) : Free find b cs := by
  induction cs generalizing b with
  | nil => trivial
  | cons c cs ih =>
    cases hfound : find b (c :: cs) with
    | none =>
      rw [replaceAll_of_none hfound] at h
      exact ⟨hfound, ih (by simpa using h)⟩
    | some found =>
      obtain ⟨put, n⟩ := found
      obtain ⟨hn, hput⟩ := hfind _ _ _ _ hfound
      have hrest := length_replaceAll_le hfind.shrinks (c :: cs)[n]? (cs.drop n)
      rw [replaceAll_of_some hfound] at h
      simp only [List.length_append, List.length_drop, List.length_cons] at h hn hrest
      omega

end RequestValidation.Redaction
