import RequestValidation.Proofs.Decimal.Digits
/-!
# The grammar of numerals

A numeral is an optional sign, digits with an optional point, at least one digit in all, and an
optional exponent, which is a whole number with an optional sign. What is read of a text is such a
numeral, and a numeral that is the whole text is read as it is written.

Results:
* `readMantissa?_append`, `exists_of_readMantissa?`: the digits of a numeral.
* `readExponent_written`, `exists_of_readExponent`: its exponent.
* `Numeral.read?_eq_some_iff`: a text is read as the numeral that it writes.
* `WritesWhole.writes`: a whole number is a numeral without a point and without an exponent.
-/
namespace RequestValidation

/-- An optional sign and digits. -/
inductive WritesWhole : Bool → List Char → List Char → Prop
  | mk {negative : Bool} {sign ds : List Char} (hsign : WritesSign negative sign)
    (hds : DigitRun ds) : WritesWhole negative ds (sign ++ ds)

/-- The digits before and behind an optional point, one at least. -/
inductive WritesMantissa : List Char → List Char → List Char → Prop
  | whole {ds : List Char} (hds : DigitRun ds) : WritesMantissa ds [] ds
  | point {ds fs : List Char} (hds : DigitRun ds) (hfs : ∀ c ∈ fs, c.isDigit = true) :
    WritesMantissa ds fs (ds ++ '.' :: fs)
  | fraction {fs : List Char} (hfs : DigitRun fs) : WritesMantissa [] fs ('.' :: fs)

/-- An optional exponent, zero if there is none. -/
inductive WritesExponent : Int → List Char → Prop
  | none : WritesExponent 0 []
  | letter {e : Char} {negative : Bool} {ds whole : List Char} (he : e = 'e' ∨ e = 'E')
    (hwhole : WritesWhole negative ds whole) :
    WritesExponent (if negative then -(natOfDigits ds : Int) else natOfDigits ds) (e :: whole)

/-- A numeral by its parts. -/
inductive Numeral.Writes : Numeral → List Char → Prop
  | mk {negative : Bool} {whole fraction sign mantissa power : List Char} {exponent : Int}
    (hsign : WritesSign negative sign) (hmantissa : WritesMantissa whole fraction mantissa)
    (hpower : WritesExponent exponent power) :
    Writes ⟨negative, whole, fraction, exponent⟩ (sign ++ (mantissa ++ power))

/-- Whether a mantissa that stands in front of a text ends there. -/
def EndsMantissa (rest : List Char) : Prop := ∀ c ∈ rest.head?, c.isDigit = false ∧ c ≠ '.'

theorem WritesExponent.endsMantissa {x : Int} {cs : List Char} (h : WritesExponent x cs) :
    EndsMantissa cs := by
  cases h with
  | none => nofun
  | letter he =>
    rintro c ⟨⟩
    rcases he with rfl | rfl <;> decide

theorem WritesMantissa.unsigned {whole fraction cs : List Char}
    (h : WritesMantissa whole fraction cs) (rest : List Char) : Unsigned (cs ++ rest) := by
  cases h with
  | whole hds => exact hds.unsigned rest
  | point hds =>
    rw [List.append_assoc]
    exact hds.unsigned _
  | fraction =>
    rintro c ⟨⟩
    decide

theorem splitSign_whole {negative : Bool} {ds cs : List Char} (h : WritesWhole negative ds cs) :
    splitSign cs = (negative, ds) := by
  obtain ⟨hsign, hds⟩ := h
  have hunsigned := hds.unsigned []
  rw [List.append_nil] at hunsigned
  exact splitSign_append hsign hunsigned

namespace Numeral

theorem readMantissa?_append {whole fraction cs rest : List Char}
    (h : WritesMantissa whole fraction cs) (hrest : EndsMantissa rest) :
    readMantissa? (cs ++ rest) = some ((whole, fraction), rest) := by
  have hdigit : ∀ c ∈ rest.head?, c.isDigit = false := fun c hc => (hrest c hc).1
  have hpoint (tail : List Char) : ∀ c ∈ ('.' :: tail).head?, c.isDigit = false := by
    rintro c ⟨⟩
    rfl
  cases h with
  | whole hds =>
    have hrun := digitRun_append_digits hds.isDigit hdigit
    have hsome := List.isEmpty_eq_false_iff.mpr hds.ne_nil
    simp only [readMantissa?, hrun, hsome]
    cases rest with
    | nil => rfl
    | cons c rest =>
      have hc := (hrest c rfl).2
      split
      · rename_i heq
        exact absurd (List.cons.inj heq).1 hc
      · rfl
  | point hds hfs =>
    have hrun := digitRun_append_digits hds.isDigit (hpoint (fraction ++ rest))
    have hrun' := digitRun_append_digits hfs hdigit
    have hsome := List.isEmpty_eq_false_iff.mpr hds.ne_nil
    simp [readMantissa?, hrun, hrun', hsome]
  | fraction hfs =>
    have hrun : digitRun ('.' :: (fraction ++ rest)) = ([], '.' :: (fraction ++ rest)) := rfl
    have hrun' := digitRun_append_digits hfs.isDigit hdigit
    simp [readMantissa?, hrun, hrun', hfs.ne_nil]

theorem exists_of_readMantissa? {whole fraction cs rest : List Char}
    (h : readMantissa? cs = some ((whole, fraction), rest)) :
    ∃ front, cs = front ++ rest ∧ WritesMantissa whole fraction front := by
  unfold readMantissa? at h
  cases hrun : digitRun cs with
  | mk ds after =>
    obtain ⟨rfl, hds, -⟩ := exists_of_digitRun hrun
    rw [hrun] at h
    dsimp only at h
    split at h
    · rename_i tail
      cases hrun' : digitRun tail with
      | mk fs after' =>
        obtain ⟨rfl, hfs, -⟩ := exists_of_digitRun hrun'
        rw [hrun'] at h
        dsimp only at h
        split at h
        · cases h
        · rename_i hsome
          obtain ⟨⟨rfl, rfl⟩, rfl⟩ : (ds = whole ∧ fs = fraction) ∧ after' = rest := by
            simpa using h
          cases ds with
          | nil =>
            have hne : fs ≠ [] := by simpa using hsome
            exact ⟨'.' :: fs, by simp, .fraction ⟨hne, hfs⟩⟩
          | cons d ds =>
            exact ⟨d :: ds ++ '.' :: fs, by simp, .point ⟨by simp, hds⟩ hfs⟩
    · split at h
      · cases h
      · rename_i hsome
        obtain ⟨⟨rfl, rfl⟩, rfl⟩ : (ds = whole ∧ [] = fraction) ∧ after = rest := by
          simpa using h
        exact ⟨ds, rfl, .whole ⟨by simpa using hsome, hds⟩⟩

theorem readExponent_written {x : Int} {cs : List Char} (h : WritesExponent x cs) :
    readExponent cs = (x, []) := by
  cases h with
  | none => rfl
  | letter he hwhole =>
    have hsplit := splitSign_whole hwhole
    obtain ⟨hsign, hds⟩ := hwhole
    have hsome := List.isEmpty_eq_false_iff.mpr hds.ne_nil
    simp only [readExponent, if_pos he, hsplit, digitRun_digits hds.isDigit, hsome]
    rfl

theorem exists_of_readExponent {x : Int} {cs rest : List Char}
    (h : readExponent cs = (x, rest)) :
    ∃ front, cs = front ++ rest ∧ WritesExponent x front := by
  cases cs with
  | nil =>
    obtain ⟨rfl, rfl⟩ := Prod.mk.inj h
    exact ⟨[], rfl, .none⟩
  | cons e tail =>
    have hnone (h : (0, e :: tail) = (x, rest)) :
        ∃ front, e :: tail = front ++ rest ∧ WritesExponent x front := by
      obtain ⟨rfl, rfl⟩ := Prod.mk.inj h
      exact ⟨[], rfl, .none⟩
    cases hsplit : splitSign tail with
    | mk negative unsigned =>
      cases hrun : digitRun unsigned with
      | mk digits after =>
        simp only [readExponent, hsplit, hrun] at h
        split at h
        · rename_i he
          split at h
          · exact hnone h
          · rename_i hsome
            obtain ⟨rfl, rfl⟩ := Prod.mk.inj h
            obtain ⟨sign, hsign, rfl⟩ := exists_of_splitSign hsplit
            obtain ⟨rfl, hdigits, -⟩ := exists_of_digitRun hrun
            have hds : DigitRun digits := ⟨by simpa using hsome, hdigits⟩
            exact ⟨e :: (sign ++ digits), by simp, .letter he (.mk hsign hds)⟩
        · exact hnone h

theorem readPrefix?_written {n : Numeral} {cs : List Char} (h : n.Writes cs) :
    readPrefix? cs = some (n, []) := by
  obtain ⟨hsign, hmantissa, hpower⟩ := h
  simp only [readPrefix?, splitSign_append hsign (hmantissa.unsigned _),
    readMantissa?_append hmantissa hpower.endsMantissa, readExponent_written hpower]

theorem exists_of_readPrefix? {n : Numeral} {cs rest : List Char}
    (h : readPrefix? cs = some (n, rest)) : ∃ front, cs = front ++ rest ∧ n.Writes front := by
  cases hsplit : splitSign cs with
  | mk negative unsigned =>
    obtain ⟨sign, hsign, rfl⟩ := exists_of_splitSign hsplit
    simp only [readPrefix?, hsplit] at h
    split at h
    · cases h
    · rename_i whole fraction after hmantissa
      obtain ⟨mantissa, rfl, hwrites⟩ := exists_of_readMantissa? hmantissa
      cases hpower : readExponent after with
      | mk exponent rest' =>
        rw [hpower] at h
        obtain ⟨rfl, rfl⟩ := Prod.mk.inj (Option.some.inj h)
        obtain ⟨power, rfl, hexponent⟩ := exists_of_readExponent hpower
        exact ⟨sign ++ (mantissa ++ power), by simp, .mk hsign hwrites hexponent⟩

/-- A text is read as the numeral that it writes, and every other text as none. -/
theorem read?_eq_some_iff {n : Numeral} {cs : List Char} : read? cs = some n ↔ n.Writes cs := by
  constructor
  · intro h
    unfold read? at h
    split at h
    · rename_i m hread
      obtain rfl := Option.some.inj h
      obtain ⟨front, rfl, hwrites⟩ := exists_of_readPrefix? hread
      rwa [List.append_nil]
    · cases h
  · intro h
    rw [read?, readPrefix?_written h]

end Numeral

theorem DigitRun.writesWhole {ds : List Char} (h : DigitRun ds) : WritesWhole false ds ds :=
  .mk .none h

/-- A whole number is a numeral without a point and without an exponent. -/
theorem WritesWhole.writes {negative : Bool} {ds cs : List Char} (h : WritesWhole negative ds cs) :
    Numeral.Writes ⟨negative, ds, [], 0⟩ cs := by
  obtain ⟨hsign, hds⟩ := h
  have hwrites := Numeral.Writes.mk hsign (.whole hds) .none
  rwa [List.append_nil] at hwrites

/-! ## Blanks -/

theorem WritesSign.not_blank {negative : Bool} {sign : List Char} (h : WritesSign negative sign) :
    ∀ c ∈ sign, Text.isBlank c = false := by
  cases h with
  | none => nofun
  | plus => exact List.forall_mem_singleton.mpr rfl
  | minus => exact List.forall_mem_singleton.mpr rfl

theorem not_blank_of_isDigit {ds : List Char} (h : ∀ c ∈ ds, c.isDigit = true) :
    ∀ c ∈ ds, Text.isBlank c = false := fun c hc => isBlank_of_isDigit (h c hc)

theorem WritesMantissa.not_blank {whole fraction cs : List Char}
    (h : WritesMantissa whole fraction cs) : ∀ c ∈ cs, Text.isBlank c = false := by
  cases h with
  | whole hds => exact not_blank_of_isDigit hds.isDigit
  | point hds hfs =>
    have hwhole := not_blank_of_isDigit hds.isDigit
    have hfraction := not_blank_of_isDigit hfs
    simpa [or_imp, forall_and] using ⟨hwhole, by decide, hfraction⟩
  | fraction hfs =>
    have hfraction := not_blank_of_isDigit hfs.isDigit
    simpa [or_imp, forall_and] using ⟨by decide, hfraction⟩

theorem WritesExponent.not_blank {x : Int} {cs : List Char} (h : WritesExponent x cs) :
    ∀ c ∈ cs, Text.isBlank c = false := by
  cases h with
  | none => nofun
  | @letter e _ _ _ he hwhole =>
    obtain ⟨hsign, hds⟩ := hwhole
    have hletter : Text.isBlank e = false := by rcases he with rfl | rfl <;> decide
    have hdigits := not_blank_of_isDigit hds.isDigit
    simpa [or_imp, forall_and] using ⟨hletter, hsign.not_blank, hdigits⟩

/-- No numeral has white space in it. -/
theorem Numeral.Writes.not_blank {n : Numeral} {cs : List Char} (h : n.Writes cs) :
    ∀ c ∈ cs, Text.isBlank c = false := by
  obtain ⟨hsign, hmantissa, hpower⟩ := h
  simpa [or_imp, forall_and] using ⟨hsign.not_blank, hmantissa.not_blank, hpower.not_blank⟩

end RequestValidation
