import RequestValidation.Proofs.Decimal.Grammar
import RequestValidation.Proofs.Traversal
import RequestValidation.Rule.Check
/-!
# The languages of the numeric rules

Which texts the numeric validators accept, apart from bounds: digits with an optional sign, digits
with an optional sign and a point that digits follow, and numerals. Each of these languages holds
the one before it, and none of them has a text with white space in it.

Results:
* `isIntText_iff`, `isNumericText_iff`: what the readers of the validators take.
* `passes_float_iff`: the pattern, the texts left out and the reader of binary64 leave the numerals.
* `accepts_isInt_iff`, `accepts_isFloat_iff`, `accepts_isNumeric_iff`: what a validator accepts
  with its arguments, bounds included.
* `numeric_languages`: the languages, and which of them holds which.
-/
namespace RequestValidation

/-! ## Texts -/

/-- Whether digits are a single zero or do not start with one. -/
def NoZeroInFront (ds : List Char) : Prop := ds = ['0'] ∨ ds.head? ≠ some '0'

/-- An optional sign and digits, with an optional point in front of the last ones. -/
inductive WritesNumeric : List Char → Prop
  | whole {negative : Bool} {sign ds : List Char} (hsign : WritesSign negative sign)
    (hds : DigitRun ds) : WritesNumeric (sign ++ ds)
  | point {negative : Bool} {sign ds fs : List Char} (hsign : WritesSign negative sign)
    (hds : ∀ c ∈ ds, c.isDigit = true) (hfs : DigitRun fs) :
    WritesNumeric (sign ++ (ds ++ '.' :: fs))

theorem WritesNumeric.writes {cs : List Char} (h : WritesNumeric cs) :
    ∃ n : Numeral, n.Writes cs := by
  cases h with
  | whole hsign hds => exact ⟨_, (WritesWhole.mk hsign hds).writes⟩
  | @point _ _ ds _ hsign hds hfs =>
    cases ds with
    | nil =>
      have hwrites := Numeral.Writes.mk hsign (.fraction hfs) .none
      rw [List.append_nil] at hwrites
      exact ⟨_, hwrites⟩
    | cons d ds =>
      have hrun : DigitRun (d :: ds) := ⟨List.cons_ne_nil d ds, hds⟩
      have hwrites := Numeral.Writes.mk hsign (.point hrun hfs.isDigit) .none
      rw [List.append_nil] at hwrites
      exact ⟨_, hwrites⟩

/-- A numeral is read as the number that it denotes. -/
theorem Numeral.Writes.read? {n : Numeral} {cs : List Char} (h : n.Writes cs) :
    Extended64.read? cs = some n.value := by
  rw [Extended64.read?, Numeral.read?_eq_some_iff.mpr h]

/-! ### Readers -/

namespace TextTest

theorem isIntText_iff {zeros : Bool} {cs : List Char} :
    isIntText zeros cs = true ↔
      ∃ negative ds, WritesWhole negative ds cs ∧ (zeros = true ∨ NoZeroInFront ds) := by
  have hplain (ds : List Char) (hds : ds ≠ []) :
      ((ds.head? != some '0') = true ∨ (ds.length == 1) = true) ↔ NoZeroInFront ds := by
    match ds with
    | [] => exact absurd rfl hds
    | [d] => simp [NoZeroInFront, em]
    | d :: d' :: ds => simp [NoZeroInFront]
  constructor
  · intro h
    cases hsplit : splitSign cs with
    | mk negative ds =>
      obtain ⟨sign, hsign, rfl⟩ := exists_of_splitSign hsplit
      simp only [isIntText, hsplit, Bool.and_eq_true, Bool.or_eq_true, or_assoc,
        List.all_eq_true] at h
      obtain ⟨⟨hsome, hdigits⟩, hzeros⟩ := h
      have hds : DigitRun ds := ⟨by simpa using hsome, hdigits⟩
      rw [hplain ds hds.ne_nil] at hzeros
      exact ⟨negative, ds, .mk hsign hds, hzeros⟩
  · rintro ⟨negative, ds, hwhole, hzeros⟩
    have hsplit := splitSign_whole hwhole
    obtain ⟨-, hds⟩ := hwhole
    rw [← hplain ds hds.ne_nil] at hzeros
    simp only [isIntText, hsplit, Bool.and_eq_true, Bool.or_eq_true, or_assoc, List.all_eq_true]
    exact ⟨⟨by simpa using hds.ne_nil, hds.isDigit⟩, hzeros⟩

theorem isNumericText_iff {cs : List Char} : isNumericText cs = true ↔ WritesNumeric cs := by
  constructor
  · intro h
    cases hsplit : splitSign cs with
    | mk negative unsigned =>
      obtain ⟨sign, hsign, rfl⟩ := exists_of_splitSign hsplit
      cases hrun : digitRun unsigned with
      | mk ds rest =>
        obtain ⟨rfl, hds, -⟩ := exists_of_digitRun hrun
        simp only [isNumericText, hsplit, hrun] at h
        split at h
        · rw [List.append_nil]
          exact .whole hsign ⟨by simpa using h, hds⟩
        · rename_i fs
          simp only [Bool.and_eq_true, List.all_eq_true] at h
          exact .point hsign hds ⟨by simpa using h.1, h.2⟩
        · cases h
  · intro h
    cases h with
    | @whole _ _ ds hsign hds =>
      have hunsigned := hds.unsigned []
      rw [List.append_nil] at hunsigned
      simp [isNumericText, splitSign_append hsign hunsigned, digitRun_digits hds.isDigit,
        hds.ne_nil]
    | @point _ _ ds fs hsign hds hfs =>
      have hrun : digitRun (ds ++ '.' :: fs) = (ds, '.' :: fs) :=
        digitRun_append_digits hds (by rintro _ ⟨⟩; rfl)
      have hunsigned : Unsigned (ds ++ '.' :: fs) := by
        cases ds with
        | nil => rintro _ ⟨⟩; decide
        | cons d ds => exact .of_isDigit (hds d List.mem_cons_self) _
      simp [isNumericText, splitSign_append hsign hunsigned, hrun, hfs.ne_nil]
      exact hfs.isDigit

/-! ### Decimal numbers

The pattern for decimal numbers holds texts without a digit, and what reads a text as binary64 also
takes the words for the infinities and for no number. Both together leave the numerals. -/

theorem behindDigits_of_readMantissa? {cs rest : List Char} {parts : List Char × List Char}
    (h : Numeral.readMantissa? cs = some (parts, rest)) : behindDigits cs = rest := by
  unfold Numeral.readMantissa? at h
  unfold behindDigits
  cases hrun : digitRun cs with
  | mk whole after =>
    rw [hrun] at h
    dsimp only at h ⊢
    split at h <;> split at h <;> simp_all

theorem isFloatText_of_writes {n : Numeral} {cs : List Char} (h : n.Writes cs) :
    isFloatText cs = true := by
  obtain ⟨hsign, hmantissa, hpower⟩ := h
  have hread := Numeral.readMantissa?_append hmantissa hpower.endsMantissa
  rw [isFloatText, splitSign_append hsign (hmantissa.unsigned _),
    behindDigits_of_readMantissa? hread, Numeral.readExponent_written hpower]
  rfl

/-- No text of the pattern has a word behind its sign that begins with an `i` or an `n`. -/
theorem isFloatText_of_word {cs rest : List Char} {c : Char}
    (hword : (splitSign cs).2 = c :: rest) (hc : c.toLower = 'i' ∨ c.toLower = 'n') :
    isFloatText cs = false := by
  have hdigit : c.isDigit = false := by
    by_contra hdigit
    have hsame : c.toLower = c := by
      refine dif_neg fun hupper => ?_
      have hlow : 65 ≤ c.toNat := hupper.1
      have hhigh := digit_lt (Bool.eq_true_of_not_eq_false hdigit)
      have hzero : '0'.toNat = 48 := rfl
      omega
    rw [hsame] at hc
    rcases hc with rfl | rfl <;> exact hdigit rfl
  have hpoint : c ≠ '.' := by
    rintro rfl
    revert hc
    decide
  have hpower : ¬(c = 'e' ∨ c = 'E') := by
    rintro (rfl | rfl) <;> revert hc <;> decide
  have hrest : behindDigits (c :: rest) = c :: rest := by
    simp [behindDigits, digitRun, hdigit, hpoint]
  rw [isFloatText, hword, hrest, Numeral.readExponent, if_neg hpower]
  rfl

/-- Of the texts of the pattern only numerals are read. -/
theorem writes_of_isFloatText {cs : List Char} {x : Extended64} (h : isFloatText cs = true)
    (hread : Extended64.read? cs = some x) : ∃ n : Numeral, n.Writes cs ∧ n.value = x := by
  unfold Extended64.read? at hread
  split at hread
  · rename_i n hn
    exact ⟨n, Numeral.read?_eq_some_iff.mp hn, Option.some.inj hread⟩
  · cases hsplit : splitSign cs with
    | mk negative word =>
      rw [hsplit] at hread
      have hfirst : (word.map Char.toLower).head? = some 'i' ∨
          (word.map Char.toLower).head? = some 'n' := by
        dsimp only at hread
        split at hread
        · rename_i hinfinite
          rcases hinfinite with hinfinite | hinfinite <;> exact .inl (by rw [hinfinite]; rfl)
        · split at hread
          · rename_i hnan
            exact .inr (by rw [hnan]; rfl)
          · cases hread
      cases word with
      | nil => simp at hfirst
      | cons c rest =>
        have hword : (splitSign cs).2 = c :: rest := by rw [hsplit]
        rw [isFloatText_of_word hword (by simpa using hfirst)] at h
        cases h

/-- The texts that are left out by name are no numerals. -/
theorem not_writes_of_mem {s : String} (h : s ∈ ["", ".", "-", "+"]) (n : Numeral) :
    ¬n.Writes s.toList := by
  have hnone : ∀ s ∈ ["", ".", "-", "+"], Numeral.read? s.toList = none := by decide
  rw [← Numeral.read?_eq_some_iff, hnone s h]
  nofun

/-- The decimal numbers that pass are the numerals within the bounds. -/
theorem passes_float_iff {bounds : Bounds} {s : String} :
    (float bounds).passes s = true ↔
      ∃ n : Numeral, n.Writes s.toList ∧ bounds.contains n.value = true := by
  simp only [passes, Bool.and_eq_true, Bool.not_eq_true', List.contains_eq_mem,
    decide_eq_false_iff_not, and_assoc]
  constructor
  · rintro ⟨-, htext, hwithin⟩
    obtain ⟨x, hread, hwithin⟩ := (Option.any_eq_true _ _).mp hwithin
    obtain ⟨n, hwrites, rfl⟩ := writes_of_isFloatText htext hread
    exact ⟨n, hwrites, hwithin⟩
  · rintro ⟨n, hwrites, hwithin⟩
    refine ⟨fun hmem => not_writes_of_mem hmem n hwrites, isFloatText_of_writes hwrites, ?_⟩
    rw [hwrites.read?, Option.any_some]
    exact hwithin

end TextTest

/-! ## Validators -/

/-- Whether options name no bounds. -/
def Options.Unbounded (o : Options) : Prop :=
  ∀ key ∈ ["min", "max", "gt", "lt"], o.find? key = none

theorem Options.Unbounded.read {o : Options} (h : o.Unbounded) : Bounds.read o = .ok {} := by
  have hnone (key : String) (hkey : key ∈ ["min", "max", "gt", "lt"]) :
      o.bound? key = .ok none := by
    rw [Options.bound?, h key hkey]
  simp [Bounds.read, hnone, bind, Except.bind]

namespace Rule

/-- A validator accepts a text. -/
def Accepts (r : Rule) (args : Arguments) (t : String) : Prop :=
  r.verdicts args (some (.string t)) = .ok [⟨some (.string t), true⟩]

variable {r : Rule} {args : Arguments} {t : String}

/-- A validator of texts accepts those that pass the test which its arguments give. -/
theorem accepts_iff_passes
    (hr : ∀ value, r.verdicts args value =
      TextTest.ofRule r args >>= fun test => .ok (textVerdicts test value)) :
    r.Accepts args t ↔ ∃ test, TextTest.ofRule r args = .ok test ∧ test.passes t = true := by
  rw [Accepts, hr, bind_ok_iff]
  simp [textVerdicts, Json.textOf, Json.text_string]

theorem accepts_isInt_iff :
    isInt.Accepts args t ↔ ∃ o bounds, args.options 0 = .ok o ∧ Bounds.read o = .ok bounds ∧
      ∃ negative ds, WritesWhole negative ds t.toList ∧
        (o.flagOrOn "allow_leading_zeroes" = true ∨ NoZeroInFront ds) ∧
        bounds.contains (Numeral.value ⟨negative, ds, [], 0⟩) = true := by
  rw [accepts_iff_passes fun _ => rfl]
  constructor
  · rintro ⟨test, htest, hpasses⟩
    obtain ⟨o, ho, htest⟩ := bind_ok_iff.mp htest
    obtain ⟨bounds, hbounds, htest⟩ := bind_ok_iff.mp htest
    obtain rfl := Except.ok.inj htest
    obtain ⟨htext, hwithin⟩ := Bool.and_eq_true_iff.mp hpasses
    obtain ⟨negative, ds, hwhole, hzeros⟩ := TextTest.isIntText_iff.mp htext
    rw [hwhole.writes.read?, Option.any_some] at hwithin
    exact ⟨o, bounds, ho, hbounds, negative, ds, hwhole, hzeros, hwithin⟩
  · rintro ⟨o, bounds, ho, hbounds, negative, ds, hwhole, hzeros, hwithin⟩
    refine ⟨.int bounds (o.flagOrOn "allow_leading_zeroes"), ?_, ?_⟩
    · exact bind_ok_iff.mpr ⟨o, ho, bind_ok_iff.mpr ⟨bounds, hbounds, rfl⟩⟩
    · refine Bool.and_eq_true_iff.mpr
        ⟨TextTest.isIntText_iff.mpr ⟨negative, ds, hwhole, hzeros⟩, ?_⟩
      rw [hwhole.writes.read?, Option.any_some]
      exact hwithin

theorem accepts_isFloat_iff :
    isFloat.Accepts args t ↔ ∃ o bounds, args.options 0 = .ok o ∧ Bounds.read o = .ok bounds ∧
      ∃ n : Numeral, n.Writes t.toList ∧ bounds.contains n.value = true := by
  rw [accepts_iff_passes fun _ => rfl]
  constructor
  · rintro ⟨test, htest, hpasses⟩
    obtain ⟨o, ho, htest⟩ := bind_ok_iff.mp htest
    obtain ⟨bounds, hbounds, htest⟩ := bind_ok_iff.mp htest
    obtain rfl := Except.ok.inj htest
    obtain ⟨n, hwrites, hwithin⟩ := TextTest.passes_float_iff.mp hpasses
    exact ⟨o, bounds, ho, hbounds, n, hwrites, hwithin⟩
  · rintro ⟨o, bounds, ho, hbounds, n, hwrites, hwithin⟩
    refine ⟨.float bounds, ?_, ?_⟩
    · exact bind_ok_iff.mpr ⟨o, ho, bind_ok_iff.mpr ⟨bounds, hbounds, rfl⟩⟩
    · exact TextTest.passes_float_iff.mpr ⟨n, hwrites, hwithin⟩

theorem accepts_isNumeric_iff :
    isNumeric.Accepts args t ↔ ∃ o noSymbols, args.options 0 = .ok o ∧
      o.flag "no_symbols" = .ok noSymbols ∧
      if noSymbols then DigitRun t.toList else WritesNumeric t.toList := by
  rw [accepts_iff_passes fun _ => rfl]
  constructor
  · rintro ⟨test, htest, hpasses⟩
    obtain ⟨o, ho, htest⟩ := bind_ok_iff.mp htest
    obtain ⟨noSymbols, hflag, htest⟩ := bind_ok_iff.mp htest
    obtain rfl := Except.ok.inj htest
    refine ⟨o, noSymbols, ho, hflag, ?_⟩
    cases noSymbols with
    | false => exact TextTest.isNumericText_iff.mp hpasses
    | true =>
      obtain ⟨hsome, hdigits⟩ := Bool.and_eq_true_iff.mp hpasses
      exact ⟨by simpa using hsome, List.all_eq_true.mp hdigits⟩
  · rintro ⟨o, noSymbols, ho, hflag, hlanguage⟩
    refine ⟨.numeric noSymbols, bind_ok_iff.mpr ⟨o, ho, bind_ok_iff.mpr ⟨_, hflag, rfl⟩⟩, ?_⟩
    cases noSymbols with
    | false => exact TextTest.isNumericText_iff.mpr hlanguage
    | true =>
      obtain ⟨hsome, hdigits⟩ : DigitRun t.toList := hlanguage
      exact Bool.and_eq_true_iff.mpr ⟨by simpa using hsome, List.all_eq_true.mpr hdigits⟩

/-- Every text that a numeric validator accepts is a numeral. -/
theorem Accepts.writes (hr : r ∈ [isInt, isFloat, isNumeric]) (h : r.Accepts args t) :
    ∃ n : Numeral, n.Writes t.toList := by
  simp only [List.mem_cons, List.not_mem_nil, or_false] at hr
  rcases hr with rfl | rfl | rfl
  · obtain ⟨-, -, -, -, _, _, hwhole, -, -⟩ := accepts_isInt_iff.mp h
    exact ⟨_, hwhole.writes⟩
  · obtain ⟨-, -, -, -, n, hwrites, -⟩ := accepts_isFloat_iff.mp h
    exact ⟨n, hwrites⟩
  · obtain ⟨-, noSymbols, -, -, hlanguage⟩ := accepts_isNumeric_iff.mp h
    cases noSymbols with
    | false => exact WritesNumeric.writes hlanguage
    | true => exact ⟨_, (DigitRun.writesWhole hlanguage).writes⟩

variable {o : Options}

theorem isInt_language (ho : args.options 0 = .ok o) (hbounds : o.Unbounded) :
    isInt.Accepts args t ↔ ∃ negative ds, WritesWhole negative ds t.toList ∧
      (o.flagOrOn "allow_leading_zeroes" = true ∨ NoZeroInFront ds) := by
  rw [accepts_isInt_iff]
  constructor
  · rintro ⟨o', -, ho', -, negative, ds, hwhole, hzeros, -⟩
    obtain rfl := Except.ok.inj (ho.symm.trans ho')
    exact ⟨negative, ds, hwhole, hzeros⟩
  · rintro ⟨negative, ds, hwhole, hzeros⟩
    exact ⟨o, {}, ho, hbounds.read, negative, ds, hwhole, hzeros, rfl⟩

end Rule
end RequestValidation
