import Mathlib.Data.List.Nodup
import Mathlib.Data.Nat.Digits.Defs
import RequestValidation.Decimal.Radix
import RequestValidation.Proofs.Decimal.Grammar
import RequestValidation.Proofs.Text.Classes
import RequestValidation.Proofs.Text.Margins
import RequestValidation.Proofs.Traversal
import RequestValidation.Text.Blank
/-!
# Readings of integers

A reading takes a text apart as far as it is an integer: blanks, a sign, the mark of hexadecimal
digits where such digits are read, and digits of the base, each part as long as it can be. Every
text has a reading, and the reader goes by it.

Results:
* `digit?_eq_some_iff`: a digit by its place in the alphabet, a letter in either case.
* `leadingDigits_append`, `splitRadix_mark`, `splitRadix_unmarked`: the digits and the mark.
* `nonempty_reading`, `Reading.leadingInteger?_eq`: what is read of a text.
* `exists_reading_of_whole`: a whole number is a reading of itself.
-/
namespace RequestValidation.Radix

/-! ## Digits -/

/-- The digits in their order. -/
def alphabet : List Char := "0123456789abcdefghijklmnopqrstuvwxyz".toList

/-- A character stands for a digit of a base, a letter in either case. -/
structure StandsFor (base : Nat) (c : Char) (d : Nat) : Prop where
  lt : d < base
  digit : alphabet[d]? = some c.toLower

theorem nodup_alphabet : alphabet.Nodup := by decide +kernel

theorem toNat_lt_of_mem_alphabet {c : Char} (h : c ∈ alphabet) : c.toNat < 128 := by
  have hall : alphabet.all (·.toNat < 128) = true := by decide
  simpa using List.all_eq_true.mp hall c h

/-- The value of a digit is its place in the alphabet. -/
theorem digit?_eq_filter (base : Nat) (c : Char) :
    digit? base c = (alphabet.idxOf? c.toLower).filter (· < base) := by
  unfold digit?
  refine congrArg (Option.filter _) ?_
  rcases Nat.lt_or_ge c.toNat 128 with hascii | hlarge
  · -- one ASCII character after another
    obtain ⟨n, rfl⟩ : ∃ n : Fin 128, c = Char.ofNat n :=
      ⟨⟨c.toNat, hascii⟩, (Char.ofNat_toNat c).symm⟩
    clear hascii
    revert n
    decide +kernel
  · have hover (n : UInt32) (hn : n.toNat < 128) : ¬ c.val ≤ n := by
      rw [UInt32.le_iff_toNat_le]
      have hval : 128 ≤ c.val.toNat := hlarge
      omega
    have hdigit : c.isDigit = false := by
      delta Char.isDigit
      simp [hover]
    have hlower : c.isLower = false := by
      delta Char.isLower
      simp [hover]
    have hupper : c.isUpper = false := by
      delta Char.isUpper
      simp [hover]
    have hself : c.toLower = c := by
      delta Char.toLower
      simp [hover]
    have hnone : alphabet.idxOf? c = none :=
      List.idxOf?_eq_none_iff.mpr fun h =>
        absurd (toNat_lt_of_mem_alphabet h) (Nat.not_lt.mpr hlarge)
    simp [hdigit, hlower, hupper, hself, hnone]

theorem digit?_eq_some_iff {base : Nat} {c : Char} {d : Nat} :
    digit? base c = some d ↔ StandsFor base c d := by
  rw [digit?_eq_filter, Option.filter_eq_some_iff, decide_eq_true_eq]
  constructor
  · rintro ⟨hidx, hlt⟩
    obtain ⟨hlen, hget, -⟩ := List.idxOf?_eq_some_iff.mp hidx
    exact ⟨hlt, by rw [List.getElem?_eq_getElem hlen, hget]⟩
  · rintro ⟨hlt, hget⟩
    obtain ⟨hlen, hget⟩ := List.getElem?_eq_some_iff.mp hget
    refine ⟨List.idxOf?_eq_some_iff.mpr ⟨hlen, hget, fun j hj hjget => ?_⟩, hlt⟩
    exact absurd (nodup_alphabet.getElem_inj_iff.mp (hjget.trans hget.symm)) (Nat.ne_of_lt hj)

/-- Whether no digit of the base stands in front of a text. -/
def EndsDigits (base : Nat) (rest : List Char) : Prop :=
  ∀ c ∈ rest.head?, ∀ d, ¬ StandsFor base c d

theorem leadingDigits_append {base : Nat} {run rest : List Char} {ds : List Nat}
    (hrun : List.Forall₂ (StandsFor base) run ds) (hrest : EndsDigits base rest) :
    leadingDigits base (run ++ rest) = ds := by
  induction hrun with
  | nil =>
    cases rest with
    | nil => rfl
    | cons c rest =>
      have hnone : digit? base c = none :=
        Option.eq_none_iff_forall_ne_some.mpr fun d hd => hrest c rfl d (digit?_eq_some_iff.mp hd)
      simp [leadingDigits, hnone]
  | cons hd _ ih => simp [leadingDigits, digit?_eq_some_iff.mpr hd, ih]

theorem exists_run (base : Nat) (cs : List Char) :
    ∃ run rest ds, cs = run ++ rest ∧ List.Forall₂ (StandsFor base) run ds ∧
      EndsDigits base rest := by
  induction cs with
  | nil => exact ⟨[], [], [], rfl, .nil, nofun⟩
  | cons c cs ih =>
    by_cases hc : ∃ d, StandsFor base c d
    · obtain ⟨d, hd⟩ := hc
      obtain ⟨run, rest, ds, rfl, hrun, hrest⟩ := ih
      exact ⟨c :: run, rest, d :: ds, rfl, .cons hd hrun, hrest⟩
    · refine ⟨[], c :: cs, [], rfl, .nil, ?_⟩
      rintro c' ⟨⟩ d hd
      exact hc ⟨d, hd⟩

/-! ## The mark of hexadecimal digits -/

/-- The mark, where hexadecimal digits are read or may be. -/
structure IsMark (radix : Option Nat) (cs : List Char) : Prop where
  radix : radix = none ∨ radix = some 16
  spelling : cs = ['0', 'x'] ∨ cs = ['0', 'X']

/-- Whether a text does not begin with a mark. -/
def Unmarked (radix : Option Nat) (cs : List Char) : Prop :=
  ∀ mark rest, cs = mark ++ rest → ¬ IsMark radix mark

theorem splitRadix_mark {radix : Option Nat} {mark : List Char} (h : IsMark radix mark)
    (rest : List Char) : splitRadix radix (mark ++ rest) = (16, rest) := by
  obtain ⟨hradix, rfl | rfl⟩ := h <;> simp [splitRadix, hradix]

theorem splitRadix_unmarked {radix : Option Nat} {cs : List Char} (h : Unmarked radix cs) :
    splitRadix radix cs = (radix.getD 10, cs) := by
  unfold splitRadix
  split
  · rename_i c rest
    refine if_neg fun ⟨hc, hradix⟩ => h ['0', c] rest rfl ⟨hradix, ?_⟩
    rcases hc with rfl | rfl
    · exact .inl rfl
    · exact .inr rfl
  · rfl

/-! ## Readings -/

/-- The parts of a text with an integer in front, each of them as long as it can be. -/
structure Reading (radix : Option Nat) (cs : List Char) where
  blanks : List Char
  sign : List Char
  mark : List Char
  run : List Char
  rest : List Char
  negative : Bool
  base : Nat
  digits : List Nat
  text : cs = blanks ++ (sign ++ (mark ++ (run ++ rest)))
  blank : ∀ c ∈ blanks, Text.isBlank c = true
  blanks_longest : ∀ c ∈ (sign ++ (mark ++ (run ++ rest))).head?, Text.isBlank c = false
  writesSign : WritesSign negative sign
  sign_longest : sign = [] → Unsigned (mark ++ (run ++ rest))
  base_eq : mark = [] ∧ base = radix.getD 10 ∨ IsMark radix mark ∧ base = 16
  mark_longest : mark = [] → Unmarked radix (run ++ rest)
  stands : List.Forall₂ (StandsFor base) run digits
  run_longest : EndsDigits base rest

theorem exists_sign (cs : List Char) :
    ∃ negative sign rest, cs = sign ++ rest ∧ WritesSign negative sign ∧
      (sign = [] → Unsigned rest) := by
  by_cases h : Unsigned cs
  · exact ⟨false, [], cs, rfl, .none, fun _ => h⟩
  · obtain ⟨c, hc, hsign⟩ : ∃ c ∈ cs.head?, c = '+' ∨ c = '-' := by
      unfold Unsigned at h
      push Not at h
      obtain ⟨c, hc, hsign⟩ := h
      exact ⟨c, hc, (em _).imp_right hsign⟩
    obtain ⟨rest, rfl⟩ := List.head?_eq_some_iff.mp hc
    rcases hsign with rfl | rfl
    · exact ⟨false, ['+'], rest, rfl, .plus, nofun⟩
    · exact ⟨true, ['-'], rest, rfl, .minus, nofun⟩

theorem exists_mark (radix : Option Nat) (cs : List Char) :
    ∃ mark base rest, cs = mark ++ rest ∧
      (mark = [] ∧ base = radix.getD 10 ∨ IsMark radix mark ∧ base = 16) ∧
      (mark = [] → Unmarked radix rest) := by
  by_cases h : Unmarked radix cs
  · exact ⟨[], radix.getD 10, cs, rfl, .inl ⟨rfl, rfl⟩, fun _ => h⟩
  · unfold Unmarked at h
    push Not at h
    obtain ⟨mark, rest, rfl, hmark⟩ := h
    refine ⟨mark, 16, rest, rfl, .inr ⟨hmark, rfl⟩, ?_⟩
    rintro rfl
    rcases hmark.spelling with h | h <;> cases h

theorem nonempty_reading (radix : Option Nat) (cs : List Char) : Nonempty (Reading radix cs) := by
  obtain ⟨blanks, signed, rfl, hblanks, hfirst⟩ := Text.exists_run Text.isBlank cs
  obtain ⟨negative, sign, marked, rfl, hsign, hunsigned⟩ := exists_sign signed
  obtain ⟨mark, base, tail, rfl, hbase, hunmarked⟩ := exists_mark radix marked
  obtain ⟨run, rest, digits, rfl, hrun, hrest⟩ := exists_run base tail
  exact ⟨⟨blanks, sign, mark, run, rest, negative, base, digits, rfl, hblanks, hfirst, hsign,
    hunsigned, hbase, hunmarked, hrun, hrest⟩⟩

namespace Reading

variable {radix : Option Nat} {cs : List Char}

theorem trimStart_eq (r : Reading radix cs) :
    Text.trimStart Text.isBlank cs = r.sign ++ (r.mark ++ (r.run ++ r.rest)) := by
  conv_lhs => rw [r.text]
  exact Text.trimStart_margin r.blank r.blanks_longest

theorem splitSign_eq (r : Reading radix cs) :
    splitSign (r.sign ++ (r.mark ++ (r.run ++ r.rest))) =
      (r.negative, r.mark ++ (r.run ++ r.rest)) := by
  have hsign := r.writesSign
  have hunsigned := r.sign_longest
  cases hs : r.sign with
  | nil =>
    rw [hs] at hsign
    exact splitSign_append hsign (hunsigned hs)
  | cons c tail =>
    rw [hs] at hsign
    generalize r.negative = negative at hsign
    cases hsign <;> rfl

theorem splitRadix_eq (r : Reading radix cs) :
    splitRadix radix (r.mark ++ (r.run ++ r.rest)) = (r.base, r.run ++ r.rest) := by
  rcases r.base_eq with ⟨hmark, hbase⟩ | ⟨hmark, hbase⟩
  · have hunmarked := r.mark_longest hmark
    rw [hmark, List.nil_append, splitRadix_unmarked hunmarked, hbase]
  · rw [splitRadix_mark hmark, hbase]

/-- The number that the digits of a reading denote. -/
def number (r : Reading radix cs) : Nat := Nat.ofDigits r.base r.digits.reverse

/-- The number with its sign. -/
def integer (r : Reading radix cs) : Int := withSign r.negative r.number

theorem digit_lt (r : Reading radix cs) : ∀ d ∈ r.digits, d < r.base := by
  intro d hd
  obtain ⟨c, -, hc⟩ := exists_of_forall₂ r.stands.flip hd
  exact hc.lt

/-- The reader goes by the reading. -/
theorem leadingInteger?_eq (r : Reading radix cs) :
    leadingInteger? radix (Text.trimStart Text.isBlank cs) =
      if r.digits = [] then none
      else some (.of r.negative (accumulate r.base r.digits)) := by
  unfold leadingInteger?
  rw [r.trimStart_eq, r.splitSign_eq]
  dsimp only
  rw [r.splitRadix_eq]
  dsimp only
  rw [leadingDigits_append r.stands r.run_longest]
  cases r.digits <;> rfl

end Reading

/-- The value of a decimal digit. -/
def decimalValue (c : Char) : Nat := c.toNat - '0'.toNat

theorem standsFor_of_isDigit {c : Char} (h : c.isDigit = true) :
    StandsFor 10 c (decimalValue c) := by
  have hlt := digit_lt h
  refine digit?_eq_some_iff.mp ?_
  simpa [digit?, h, decimalValue] using hlt

theorem ofDigits_decimalValue (ds : List Char) :
    Nat.ofDigits 10 (ds.map decimalValue).reverse = natOfDigits ds := by
  induction ds using List.reverseRecOn with
  | nil => rfl
  | append_singleton ds d ih =>
    rw [List.map_append, List.reverse_append, List.map_singleton, List.reverse_singleton,
      List.singleton_append, Nat.ofDigits_cons, ih, natOfDigits_snoc, Nat.add_comm]
    rfl

/-- A whole number in decimal digits is its own reading. -/
theorem exists_reading_of_whole {negative : Bool} {ds cs : List Char}
    (h : WritesWhole negative ds cs) :
    ∃ r : Reading none cs, r.negative = negative ∧ r.base = 10 ∧
      r.digits = ds.map decimalValue := by
  have hblank := h.writes.not_blank
  obtain ⟨hsign, hds⟩ := h
  rename_i sign
  have htext : [] ++ (sign ++ ([] ++ (ds ++ []))) = sign ++ ds := by simp
  -- the letter of a mark is no decimal digit
  have hunmarked : Unmarked none (ds ++ []) := by
    rintro mark rest heq ⟨-, hspelling⟩
    rw [List.append_nil] at heq
    obtain ⟨x, hx, hnot⟩ : ∃ x ∈ mark, x.isDigit = false := by
      rcases hspelling with rfl | rfl
      · exact ⟨'x', by simp, rfl⟩
      · exact ⟨'X', by simp, rfl⟩
    have hdigit := hds.isDigit x (heq ▸ List.mem_append_left rest hx)
    rw [hnot] at hdigit
    cases hdigit
  refine ⟨⟨[], sign, [], ds, [], negative, 10, ds.map decimalValue, htext.symm, nofun, ?_, hsign,
    fun _ => hds.unsigned [], .inl ⟨rfl, rfl⟩, fun _ => hunmarked, ?_, nofun⟩, rfl, rfl, rfl⟩
  · intro c hc
    exact hblank c (htext ▸ List.mem_of_mem_head? hc)
  · rw [List.forall₂_map_right_iff, List.forall₂_same]
    exact fun c hc => standsFor_of_isDigit (hds.isDigit c hc)

end RequestValidation.Radix
