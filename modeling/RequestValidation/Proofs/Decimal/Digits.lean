import Mathlib.Data.List.Induction
import Mathlib.Data.List.TakeWhile
import Mathlib.Data.Rat.Floor
import RequestValidation.Decimal.Numeral
import RequestValidation.Text.Blank
/-!
# Digits and signs

What a run of digits denotes, and how a run and a sign are taken from the front of a text.

Results:
* `natOfDigits_append`, `natOfDigits_lt`: the number of a run from those of its parts, and its size.
* `digitRun_append_digits`, `exists_of_digitRun`: the digits in front of a text are one run.
* `splitSign_append`, `exists_of_splitSign`: a sign is taken if there is one.
-/
namespace RequestValidation

/-! ## The number of a run -/

theorem natOfDigits_append (ds es : List Char) :
    natOfDigits (ds ++ es) = natOfDigits ds * 10 ^ es.length + natOfDigits es := by
  induction es using List.reverseRecOn with
  | nil => simp [natOfDigits_nil]
  | append_singleton es d ih =>
    rw [← List.append_assoc, natOfDigits_snoc, natOfDigits_snoc, ih, List.length_append,
      List.length_singleton, Nat.pow_succ]
    ring

theorem digit_lt {c : Char} (h : c.isDigit = true) : c.toNat - '0'.toNat < 10 := by
  simp only [Char.isDigit, Bool.and_eq_true, decide_eq_true_eq, ge_iff_le, UInt32.le_iff_toNat_le]
    at h
  have hhigh : c.toNat ≤ 57 := h.2
  have hzero : '0'.toNat = 48 := rfl
  omega

theorem natOfDigits_lt {ds : List Char} (h : ∀ c ∈ ds, c.isDigit = true) :
    natOfDigits ds < 10 ^ ds.length := by
  induction ds using List.reverseRecOn with
  | nil => decide
  | append_singleton ds d ih =>
    have hds := ih fun c hc => h c (List.mem_append_left _ hc)
    have hd := digit_lt (h d (by simp))
    rw [natOfDigits_snoc, List.length_append, List.length_singleton, Nat.pow_succ]
    omega

theorem isBlank_of_isDigit {c : Char} (h : c.isDigit = true) : Text.isBlank c = false := by
  simp only [Char.isDigit, Bool.and_eq_true, decide_eq_true_eq, ge_iff_le, UInt32.le_iff_toNat_le]
    at h
  have hlow : 48 ≤ c.toNat := h.1
  have hhigh : c.toNat ≤ 57 := h.2
  simp only [Text.isBlank, Bool.or_eq_false_iff, Bool.and_eq_false_iff, decide_eq_false_iff_not,
    beq_eq_false_iff_ne]
  omega

/-! ## Runs -/

/-- A run of digits with one at least. -/
structure DigitRun (ds : List Char) : Prop where
  ne_nil : ds ≠ []
  isDigit : ∀ c ∈ ds, c.isDigit = true

theorem digitRun_append_digits {ds rest : List Char} (hds : ∀ c ∈ ds, c.isDigit = true)
    (hrest : ∀ c ∈ rest.head?, c.isDigit = false) : digitRun (ds ++ rest) = (ds, rest) := by
  unfold digitRun
  rw [List.takeWhile_append_of_pos hds, List.dropWhile_append_of_pos hds]
  cases rest with
  | nil => simp
  | cons c rest =>
    have hc := hrest c rfl
    simp [hc]

theorem digitRun_digits {ds : List Char} (hds : ∀ c ∈ ds, c.isDigit = true) :
    digitRun ds = (ds, []) := by
  have hrun : digitRun (ds ++ []) = (ds, []) := digitRun_append_digits hds nofun
  rwa [List.append_nil] at hrun

theorem exists_of_digitRun {cs ds rest : List Char} (h : digitRun cs = (ds, rest)) :
    cs = ds ++ rest ∧ (∀ c ∈ ds, c.isDigit = true) ∧ ∀ c ∈ rest.head?, c.isDigit = false := by
  obtain ⟨rfl, rfl⟩ := Prod.mk.inj h
  refine ⟨List.takeWhile_append_dropWhile.symm, fun c hc => List.mem_takeWhile_imp hc, ?_⟩
  intro c hc
  have hnot := List.head?_dropWhile_not Char.isDigit cs
  rw [Option.mem_def.mp hc] at hnot
  simpa using hnot

/-! ## Signs -/

/-- An optional sign, and whether it is a minus. -/
inductive WritesSign : Bool → List Char → Prop
  | none : WritesSign false []
  | plus : WritesSign false ['+']
  | minus : WritesSign true ['-']

/-- A magnitude with a sign. -/
def withSign (negative : Bool) (n : Nat) : Int := if negative then -(n : Int) else n

/-- Whether a text does not begin with a sign. -/
def Unsigned (cs : List Char) : Prop := ∀ c ∈ cs.head?, c ≠ '+' ∧ c ≠ '-'

theorem Unsigned.of_isDigit {c : Char} (h : c.isDigit = true) (rest : List Char) :
    Unsigned (c :: rest) := by
  rintro d ⟨⟩
  constructor <;> rintro rfl <;> cases h

theorem DigitRun.unsigned {ds : List Char} (h : DigitRun ds) (rest : List Char) :
    Unsigned (ds ++ rest) := by
  cases ds with
  | nil => exact absurd rfl h.ne_nil
  | cons c ds => exact .of_isDigit (h.isDigit c List.mem_cons_self) _

theorem splitSign_append {negative : Bool} {sign rest : List Char} (h : WritesSign negative sign)
    (hrest : Unsigned rest) : splitSign (sign ++ rest) = (negative, rest) := by
  cases h with
  | plus => rfl
  | minus => rfl
  | none =>
    cases rest with
    | nil => rfl
    | cons c rest =>
      obtain ⟨hplus, hminus⟩ := hrest c rfl
      simp [splitSign, hplus, hminus]

theorem exists_of_splitSign {cs rest : List Char} {negative : Bool}
    (h : splitSign cs = (negative, rest)) :
    ∃ sign, WritesSign negative sign ∧ cs = sign ++ rest := by
  unfold splitSign at h
  split at h <;> obtain ⟨rfl, rfl⟩ := Prod.mk.inj h
  · exact ⟨_, .minus, rfl⟩
  · exact ⟨_, .plus, rfl⟩
  · exact ⟨_, .none, rfl⟩

end RequestValidation
