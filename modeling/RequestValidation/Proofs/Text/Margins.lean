import Mathlib.Data.List.TakeWhile
import RequestValidation.Text.Blank
/-!
# Runs and margins

The longest run of a class of characters at an end of a text ends where another character stands.
So what is left when such a margin is stripped does not begin, or end, in the class, and this alone
says what it is: whichever side is stripped first, there is one text that is left.

Results:
* `exists_run`, `takeWhile_run`: the longest run of a class at the front of a text.
* `trimStart_margin`: a margin ends where another character stands.
* `trimStart_eq_iff`, `trimEnd_eq_iff`, `trim_eq_iff`: what is left of a text.
* `trimStart_trimStart`, `trimEnd_trimEnd`, `trimStart_trimEnd`: one strip after another.
-/
namespace RequestValidation.Text

variable {p : Char → Bool} {cs m : List Char}

/-! ## Runs -/

/-- A text begins with a run of any class. -/
theorem exists_run (p : Char → Bool) (cs : List Char) :
    ∃ run rest, cs = run ++ rest ∧ (∀ c ∈ run, p c = true) ∧ ∀ c ∈ rest.head?, p c = false := by
  refine ⟨cs.takeWhile p, cs.dropWhile p, List.takeWhile_append_dropWhile.symm,
    fun c hc => List.mem_takeWhile_imp hc, fun c hc => ?_⟩
  have h := List.head?_dropWhile_not p cs
  rw [Option.mem_def.mp hc] at h
  simpa using h

theorem takeWhile_run {p : Char → Bool} {run rest : List Char} (hrun : ∀ c ∈ run, p c = true)
    (hrest : ∀ c ∈ rest.head?, p c = false) : (run ++ rest).takeWhile p = run := by
  rw [List.takeWhile_append_of_pos hrun]
  cases rest with
  | nil => simp
  | cons c rest => simp [hrest c rfl]

/-- A margin is stripped up to the first character that is none. -/
theorem trimStart_margin {p : Char → Bool} {margin rest : List Char}
    (hmargin : ∀ c ∈ margin, p c = true) (hrest : ∀ c ∈ rest.head?, p c = false) :
    trimStart p (margin ++ rest) = rest := by
  rw [trimStart, List.dropWhile_append_of_pos hmargin]
  cases rest with
  | nil => rfl
  | cons c rest => exact List.dropWhile_cons_of_neg (by simp [hrest c rfl])

/-! ## What is left -/

/-- Whether all characters of a text are of a class. -/
def Within (p : Char → Bool) (cs : List Char) : Prop := ∀ c ∈ cs, p c = true

/-- Whether a text is empty or begins with a character that is not of a class. -/
def BeginsOutside (p : Char → Bool) (cs : List Char) : Prop := ∀ c ∈ cs.head?, p c = false

/-- Whether a text is empty or ends with a character that is not of a class. -/
def EndsOutside (p : Char → Bool) (cs : List Char) : Prop := ∀ c ∈ cs.getLast?, p c = false

theorem BeginsOutside.of_append {rest : List Char} (h : BeginsOutside p (m ++ rest)) :
    BeginsOutside p m := by
  intro c hc
  refine h c ?_
  rw [List.head?_append, Option.mem_def.mp hc]
  rfl

theorem BeginsOutside.append {rest : List Char} (h : BeginsOutside p m) (hm : m ≠ []) :
    BeginsOutside p (m ++ rest) := by
  obtain ⟨c, m, rfl⟩ := List.exists_cons_of_ne_nil hm
  exact h

theorem EndsOutside.of_append {front : List Char} (h : EndsOutside p (front ++ m)) :
    EndsOutside p m := by
  intro c hc
  refine h c ?_
  rw [List.getLast?_append, Option.mem_def.mp hc]
  rfl

theorem beginsOutside_reverse : BeginsOutside p m.reverse ↔ EndsOutside p m := by
  rw [BeginsOutside, List.head?_reverse, EndsOutside]

theorem within_reverse : Within p m.reverse ↔ Within p m := by
  simp [Within]

theorem Within.append {rest : List Char} (h : Within p m) (h' : Within p rest) :
    Within p (m ++ rest) := fun c hc =>
  (List.mem_append.mp hc).elim (h c) (h' c)

theorem trimStart_eq_iff :
    trimStart p cs = m ↔ ∃ l, cs = l ++ m ∧ Within p l ∧ BeginsOutside p m := by
  constructor
  · rintro rfl
    obtain ⟨l, rest, rfl, hl, hrest⟩ := exists_run p cs
    rw [trimStart_margin hl hrest]
    exact ⟨l, rfl, hl, hrest⟩
  · rintro ⟨l, rfl, hl, hm⟩
    exact trimStart_margin hl hm

theorem trimEnd_eq_iff :
    trimEnd p cs = m ↔ ∃ r, cs = m ++ r ∧ Within p r ∧ EndsOutside p m := by
  -- the end of a text is the front of the text turned round
  have hround : trimEnd p cs = m ↔ trimStart p cs.reverse = m.reverse := by
    rw [trimEnd, List.reverse_eq_iff, trimStart]
  rw [hround, trimStart_eq_iff]
  constructor
  · rintro ⟨l, hcs, hl, hm⟩
    refine ⟨l.reverse, ?_, within_reverse.mpr hl, beginsOutside_reverse.mp hm⟩
    rw [← List.reverse_inj, hcs, List.reverse_append, List.reverse_reverse]
  · rintro ⟨r, rfl, hr, hm⟩
    exact ⟨r.reverse, List.reverse_append, within_reverse.mpr hr, beginsOutside_reverse.mpr hm⟩

/-- What is left between the margins. If the text is a margin throughout, that is nothing, however
the text is divided. -/
theorem trim_eq_iff :
    trim p cs = m ↔ ∃ l r, cs = l ++ m ++ r ∧ Within p l ∧ Within p r ∧ BeginsOutside p m ∧
      EndsOutside p m := by
  constructor
  · intro h
    obtain ⟨r, hrest, hr, hends⟩ := trimEnd_eq_iff.mp h
    obtain ⟨l, hcs, hl, hbegins⟩ := trimStart_eq_iff.mp hrest
    refine ⟨l, r, ?_, hl, hr, hbegins.of_append, hends⟩
    rw [hcs, List.append_assoc]
  · rintro ⟨l, r, rfl, hl, hr, hbegins, hends⟩
    rw [trim, List.append_assoc]
    by_cases hm : m = []
    · have hnone : trimStart p (l ++ (m ++ r)) = [] :=
        trimStart_eq_iff.mpr ⟨l ++ r, by simp [hm], hl.append hr, nofun⟩
      rw [hnone, hm]
      rfl
    · rw [trimStart_eq_iff.mpr ⟨l, rfl, hl, hbegins.append hm⟩]
      exact trimEnd_eq_iff.mpr ⟨r, rfl, hr, hends⟩

/-! ## One strip after another -/

theorem trimStart_trimStart (p : Char → Bool) (cs : List Char) :
    trimStart p (trimStart p cs) = trimStart p cs := by
  obtain ⟨-, -, -, hbegins⟩ := trimStart_eq_iff.mp (Eq.refl (trimStart p cs))
  exact trimStart_eq_iff.mpr ⟨[], rfl, nofun, hbegins⟩

theorem trimEnd_trimEnd (p : Char → Bool) (cs : List Char) :
    trimEnd p (trimEnd p cs) = trimEnd p cs := by
  obtain ⟨-, -, -, hends⟩ := trimEnd_eq_iff.mp (Eq.refl (trimEnd p cs))
  exact trimEnd_eq_iff.mpr ⟨[], (List.append_nil _).symm, nofun, hends⟩

/-- Either end may be stripped first. -/
theorem trimStart_trimEnd (p : Char → Bool) (cs : List Char) :
    trimStart p (trimEnd p cs) = trimEnd p (trimStart p cs) := by
  obtain ⟨r, hcs, hr, hends⟩ := trimEnd_eq_iff.mp (Eq.refl (trimEnd p cs))
  obtain ⟨l, hrest, hl, hbegins⟩ := trimStart_eq_iff.mp (Eq.refl (trimStart p (trimEnd p cs)))
  refine (trim_eq_iff.mpr ⟨l, r, ?_, hl, hr, hbegins, ?_⟩).symm
  · rw [← hrest]
    exact hcs
  · rw [hrest] at hends
    exact hends.of_append

end RequestValidation.Text
