import Mathlib.Data.List.TakeWhile
import RequestValidation.Json.Printer
import RequestValidation.Json.Reader
/-!
# Reading literals back

A string literal is read back as the string, whatever characters it has, and the text of an integer
of 64 bits as the integer, if no more of a number follows.

Results:
* `escaped_escapeChar`, `readStringBody_escaped`: how a character is written, and read back.
* `readString_quoted`: a string is.
* `readNumber_digits`: the digits of an integer are read back.
-/
namespace RequestValidation.Json

/-! ## Strings -/

theorem hexValue?_hexDigit : ∀ n < 16, hexValue? (hexDigit n) = some n := by decide

theorem hexDigit_mod (n : Nat) : hexDigit (n % 16) = hexDigit n := by
  unfold hexDigit
  rw [Nat.mod_mod]

theorem length_le_byteCount (cs : List Char) : cs.length ≤ byteCount cs := by
  have hfold : ∀ n, n + cs.length ≤ cs.foldl (fun n c => n + c.utf8Size) n := by
    induction cs with
    | nil => simp
    | cons c rest ih =>
      intro n
      have hsize : 0 < c.utf8Size := c.utf8Size_pos
      have hrest := ih (n + c.utf8Size)
      simp only [List.foldl_cons, List.length_cons]
      omega
  have hzero := hfold 0
  rw [Nat.zero_add] at hzero
  exact hzero

theorem readHex_control {n : Nat} (hn : n < 32) (rest : List Char) :
    readHex ('0' :: '0' :: hexDigit (n / 16) :: hexDigit n :: rest) = .ok (n, rest) := by
  have hbytes : ¬ byteCount ('0' :: '0' :: hexDigit (n / 16) :: hexDigit n :: rest) < 4 := by
    have hlength := length_le_byteCount ('0' :: '0' :: hexDigit (n / 16) :: hexDigit n :: rest)
    simp only [List.length_cons] at hlength
    omega
  have hzero : hexValue? '0' = some 0 := by decide
  have hhigh := hexValue?_hexDigit (n / 16) (by omega)
  have hlow := hexValue?_hexDigit (n % 16) (by omega)
  rw [hexDigit_mod] at hlow
  unfold readHex
  rw [if_neg hbytes]
  simp only [hzero, hhigh, hlow]
  rw [show ((0 * 16 + 0) * 16 + n / 16) * 16 + n % 16 = n by omega]

theorem readEscape_control {n : Nat} (hn : n < 32) (rest : List Char) :
    readEscape ('u' :: '0' :: '0' :: hexDigit (n / 16) :: hexDigit n :: rest) =
      .ok (Char.ofNat n, rest) := by
  simp only [readEscape, readHex_control hn, bind, Except.bind]
  rw [if_neg (by omega), if_neg (by omega)]

/-- How a character is written in a literal: by a letter that is read as the character, by its
number, or as it is. -/
inductive Escaped (c : Char) : List Char → Prop
  | letter {d : Char} (hd : d ∈ ['"', '\\', 'b', 't', 'n', 'f', 'r'])
      (hread : ∀ rest, readEscape (d :: rest) = .ok (c, rest)) : Escaped c ['\\', d]
  | number (h : c.toNat < 32) :
      Escaped c ['\\', 'u', '0', '0', hexDigit (c.toNat / 16), hexDigit c.toNat]
  | itself (hquote : c ≠ '"') (hslash : c ≠ '\\') (h : 32 ≤ c.toNat) : Escaped c [c]

theorem escaped_escapeChar (c : Char) : Escaped c (escapeChar c) := by
  have hletter : ∀ (d : Char) (n : Nat), c.toNat = n →
      d ∈ ['"', '\\', 'b', 't', 'n', 'f', 'r'] →
      (∀ rest, readEscape (d :: rest) = .ok (Char.ofNat n, rest)) → Escaped c ['\\', d] := by
    intro d n hn hd hread
    rw [← hn, Char.ofNat_toNat] at hread
    exact .letter hd hread
  unfold escapeChar
  split
  · rename_i hc
    exact hletter '"' 34 (by rw [hc]; rfl) (by decide) fun _ => rfl
  split
  · rename_i hc
    exact hletter '\\' 92 (by rw [hc]; rfl) (by decide) fun _ => rfl
  split
  · rename_i hc
    exact hletter 'b' 8 hc (by decide) fun _ => rfl
  split
  · rename_i hc
    exact hletter 't' 9 hc (by decide) fun _ => rfl
  split
  · rename_i hc
    exact hletter 'n' 10 hc (by decide) fun _ => rfl
  split
  · rename_i hc
    exact hletter 'f' 12 hc (by decide) fun _ => rfl
  split
  · rename_i hc
    exact hletter 'r' 13 hc (by decide) fun _ => rfl
  split
  · rename_i hc
    exact .number hc
  · rename_i hquote hslash _ _ _ _ _ hcontrol
    exact .itself hquote hslash (by omega)

/-- What stands for a character in a literal is read as the character. -/
theorem readStringBody_escaped (fuel : Nat) {c : Char} {text : List Char} (h : Escaped c text)
    (rest : List Char) :
    readStringBody (fuel + 1) (text ++ rest) =
      readStringBody fuel rest >>= fun p => .ok (c :: p.1, p.2) := by
  cases h with
  | letter _ hread =>
    simp only [List.cons_append, List.nil_append, readStringBody, hread, bind, Except.bind]
  | number h =>
    have hread := readEscape_control h rest
    rw [Char.ofNat_toNat] at hread
    simp only [List.cons_append, List.nil_append, readStringBody, hread, bind, Except.bind]
  | itself hquote hslash h =>
    rw [List.singleton_append, readStringBody]
    · rw [if_neg (by omega)]
    · exact hquote
    · exact hslash

theorem Escaped.length_pos {c : Char} {text : List Char} (h : Escaped c text) :
    0 < text.length := by
  cases h <;> exact Nat.succ_pos _

theorem length_le_flatMap_escapeChar (cs : List Char) :
    cs.length ≤ (cs.flatMap escapeChar).length := by
  induction cs with
  | nil => simp
  | cons c cs ih =>
    have hpos := (escaped_escapeChar c).length_pos
    simp only [List.flatMap_cons, List.length_cons, List.length_append]
    omega

theorem readStringBody_flatMap (cs rest : List Char) {fuel : Nat} (hfuel : cs.length < fuel) :
    readStringBody fuel (cs.flatMap escapeChar ++ '"' :: rest) = .ok (cs, rest) := by
  induction cs generalizing fuel with
  | nil =>
    obtain ⟨fuel, rfl⟩ := Nat.exists_eq_succ_of_ne_zero (Nat.ne_of_gt hfuel)
    rfl
  | cons c cs ih =>
    obtain ⟨fuel, rfl⟩ := Nat.exists_eq_succ_of_ne_zero (Nat.ne_of_gt (Nat.zero_lt_of_lt hfuel))
    rw [List.length_cons] at hfuel
    rw [List.flatMap_cons, List.append_assoc, readStringBody_escaped fuel (escaped_escapeChar c),
      ih (by omega)]
    rfl

/-- A string literal is read back behind its opening quote. -/
theorem readString_quoted (s : String) (rest : List Char) :
    readString (s.toList.flatMap escapeChar ++ '"' :: rest) = .ok (s, rest) := by
  have hlength := length_le_flatMap_escapeChar s.toList
  unfold readString
  rw [readStringBody_flatMap s.toList rest (by simp only [List.length_append]; omega)]
  simp [bind, Except.bind]

/-! ## Integers -/

/-- Whether a number that stands in front of a text ends there. -/
def EndsNumber (rest : List Char) : Prop :=
  ∀ c ∈ rest.head?, c.isDigit = false ∧ c ≠ '.' ∧ c ≠ 'e' ∧ c ≠ 'E'

theorem natOfDigits_toDigits (n : Nat) : natOfDigits (Nat.toDigits 10 n) = n := by
  unfold natOfDigits
  rw [← Nat.ofDigitChars_eq_foldl, Nat.ofDigitChars_ten_toDigits]

theorem isDigit_of_mem_toDigits {n : Nat} {c : Char} (h : c ∈ Nat.toDigits 10 n) :
    c.isDigit = true :=
  Nat.isDigit_of_mem_toDigits (by decide) (by decide) h

/-- A number but zero has no leading zero. -/
theorem head?_toDigits_ne_zero {n : Nat} (hn : n ≠ 0) : (Nat.toDigits 10 n).head? ≠ some '0' := by
  induction n using Nat.strongRecOn with
  | ind n ih =>
    by_cases hsmall : n < 10
    · have hall : ∀ m < 10, m ≠ 0 → m.digitChar ≠ '0' := by decide
      rw [Nat.toDigits_of_lt_base hsmall]
      simpa using hall n hsmall hn
    · have hfront := ih (n / 10) (by omega) (by omega)
      rw [Nat.toDigits_of_base_le (by decide) (by omega)]
      cases hdigits : Nat.toDigits 10 (n / 10) with
      | nil => exact absurd hdigits Nat.toDigits_ne_nil
      | cons c digits => rwa [hdigits] at hfront

theorem digitRun_toDigits (n : Nat) {rest : List Char} (hrest : EndsNumber rest) :
    digitRun (Nat.toDigits 10 n ++ rest) = (Nat.toDigits 10 n, rest) := by
  have hdigits : ∀ c ∈ Nat.toDigits 10 n, c.isDigit = true := fun c => isDigit_of_mem_toDigits
  unfold digitRun
  rw [List.takeWhile_append_of_pos hdigits, List.dropWhile_append_of_pos hdigits]
  cases rest with
  | nil => simp
  | cons c rest =>
    have hc := (hrest c rfl).1
    simp [hc]

/-- Digits that nothing follows are an integer. -/
theorem readFraction_of_ends (negative : Bool) (whole : List Char) {rest : List Char}
    (hrest : EndsNumber rest) :
    readFraction negative whole rest = wholeNumber negative (natOfDigits whole) rest := by
  unfold readFraction
  split
  · exact absurd rfl (hrest _ rfl).2.1
  · exact absurd rfl (hrest _ rfl).2.2.1
  · exact absurd rfl (hrest _ rfl).2.2.2
  · rfl

/-- The digits of a number are read as the integer. -/
theorem readNumber_digits (negative : Bool) (n : Nat) {rest : List Char}
    (hrest : EndsNumber rest) :
    readNumber negative (Nat.toDigits 10 n ++ rest) = wholeNumber negative n rest := by
  by_cases hn : n = 0
  · subst hn
    rw [Nat.toDigits_zero, List.singleton_append]
    cases rest with
    | nil => rfl
    | cons d rest =>
      have hd := (hrest d rfl).1
      simp only [readNumber, hd, readFraction_of_ends negative ['0'] hrest]
      rfl
  · have hhead := head?_toDigits_ne_zero hn
    have hrun := digitRun_toDigits n hrest
    have hvalue := natOfDigits_toDigits n
    cases hdigits : Nat.toDigits 10 n with
    | nil => exact absurd hdigits Nat.toDigits_ne_nil
    | cons c digits =>
      rw [hdigits] at hhead hrun hvalue
      have hc : c.isDigit = true := isDigit_of_mem_toDigits (hdigits ▸ List.mem_cons_self)
      have hzero : c ≠ '0' := by simpa using hhead
      rw [List.cons_append] at hrun ⊢
      simp [readNumber, hc, hzero, hrun, readFraction_of_ends negative _ hrest, hvalue]

end RequestValidation.Json
