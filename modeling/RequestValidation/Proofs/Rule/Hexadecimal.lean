import RequestValidation.Proofs.Rule.Integers
import RequestValidation.Proofs.Rule.Numbers
import RequestValidation.Proofs.Text.Classes
/-!
# Hexadecimal texts

The validator for hexadecimal digits lets two marks stand in front of them, one with the letter x
and one with the letter h. The sanitizer for integers knows the first of them only: of a text with
the other one it reads no more than the zero in front of the letter. So the two agree on every text
without that mark, and on zero.

Results:
* `exists_standsFor_sixteen_iff`, `isHexadecimalText_iff`: what the validator reads.
* `toInt_of_known_mark`, `toInt_of_foreign_mark`: what the sanitizer makes of such texts.
* `hexadecimal_agrees_iff`: the validator's language, and where the sanitizer reads its number.
-/
namespace RequestValidation

open Radix

/-! ## Texts -/

/-- A mark in front of hexadecimal digits that only the validator knows. -/
def ForeignMark (cs : List Char) : Prop := cs = ['0', 'h'] ∨ cs = ['0', 'H']

/-- An optional mark and hexadecimal digits, one at least. -/
inductive WritesHexadecimal (mark : List Char) (digits : List Nat) : List Char → Prop
  | mk {run : List Char} (hmark : mark = [] ∨ IsMark (some 16) mark ∨ ForeignMark mark)
    (hsome : digits ≠ []) (hrun : List.Forall₂ (StandsFor 16) run digits) :
    WritesHexadecimal mark digits (mark ++ run)

/-- The digits of base sixteen are those that the validator takes. -/
theorem exists_standsFor_sixteen_iff {c : Char} :
    (∃ d, StandsFor 16 c d) ↔ Format.isHexDigit c = true := by
  have hcodes : '0'.toNat = 48 ∧ 'a'.toNat = 97 ∧ 'A'.toNat = 65 := ⟨rfl, rfl, rfl⟩
  simp only [← digit?_eq_some_iff, Text.isHexDigit_iff, digit?, Text.isDigit_iff,
    Text.isLower_iff, Text.isUpper_iff, Option.filter_eq_some_iff, decide_eq_true_eq]
  split_ifs <;> simp <;> omega

theorem isHexDigit_of_forall₂ {run : List Char} {digits : List Nat}
    (h : List.Forall₂ (StandsFor 16) run digits) : ∀ c ∈ run, Format.isHexDigit c = true := by
  intro c hc
  obtain ⟨d, -, hd⟩ := exists_of_forall₂ h hc
  exact exists_standsFor_sixteen_iff.mp ⟨d, hd⟩

/-- Hexadecimal digits have values. -/
theorem exists_digits {run : List Char} (h : ∀ c ∈ run, Format.isHexDigit c = true) :
    ∃ digits, List.Forall₂ (StandsFor 16) run digits := by
  obtain ⟨front, rest, digits, rfl, hfront, hrest⟩ := exists_run 16 run
  cases rest with
  | nil =>
    rw [List.append_nil]
    exact ⟨digits, hfront⟩
  | cons c rest =>
    obtain ⟨d, hd⟩ := exists_standsFor_sixteen_iff.mpr (h c (by simp))
    exact absurd hd (hrest c rfl d)

namespace TextTest

theorem isHexadecimalText_iff {cs : List Char} :
    isHexadecimalText cs = true ↔ ∃ mark digits, WritesHexadecimal mark digits cs := by
  have hletter {c : Char} : (c = 'x' ∨ c = 'X' ∨ c = 'h' ∨ c = 'H') ↔
      IsMark (some 16) ['0', c] ∨ ForeignMark ['0', c] := by
    constructor
    · rintro (rfl | rfl | rfl | rfl)
      · exact .inl ⟨.inr rfl, .inl rfl⟩
      · exact .inl ⟨.inr rfl, .inr rfl⟩
      · exact .inr (.inl rfl)
      · exact .inr (.inr rfl)
    · rintro (⟨-, h | h⟩ | h | h) <;> simp at h <;> simp [h]
  constructor
  · intro h
    have hwrites (mark run : List Char)
        (hmark : mark = [] ∨ IsMark (some 16) mark ∨ ForeignMark mark)
        (h : (!run.isEmpty && run.all Format.isHexDigit) = true) :
        ∃ mark' digits, WritesHexadecimal mark' digits (mark ++ run) := by
      simp only [Bool.and_eq_true, List.all_eq_true] at h
      obtain ⟨digits, hrun⟩ := exists_digits h.2
      refine ⟨mark, digits, .mk hmark ?_ hrun⟩
      rintro rfl
      cases hrun
      cases h.1
    unfold isHexadecimalText at h
    dsimp only at h
    split at h
    · rename_i c rest
      split at h
      · exact hwrites ['0', c] rest (.inr (hletter.mp ‹_›)) h
      · exact hwrites [] _ (.inl rfl) h
    · exact hwrites [] _ (.inl rfl) h
  · rintro ⟨mark, digits, h⟩
    obtain ⟨hmark, hsome, hrun⟩ := h
    rename_i run
    have hall := isHexDigit_of_forall₂ hrun
    have hne : run ≠ [] := by
      rintro rfl
      cases hrun
      exact hsome rfl
    have hdigits : (!run.isEmpty && run.all Format.isHexDigit) = true := by
      simp only [Bool.and_eq_true, List.all_eq_true]
      exact ⟨by simpa using hne, hall⟩
    rcases hmark with rfl | hmark
    · -- the letter of a mark is no digit
      unfold isHexadecimalText
      rw [List.nil_append]
      dsimp only
      split
      · rename_i c rest
        have hc := hall c (by simp)
        rw [if_neg]
        · exact hdigits
        · rintro (rfl | rfl | rfl | rfl) <;> cases hc
      · exact hdigits
    · obtain ⟨c, rfl⟩ : ∃ c, mark = ['0', c] := by
        rcases hmark with ⟨-, rfl | rfl⟩ | rfl | rfl <;> exact ⟨_, rfl⟩
      simp only [isHexadecimalText, List.cons_append, List.nil_append]
      rw [if_pos (hletter.mpr hmark)]
      exact hdigits

end TextTest

/-! ## Readings -/

variable {mark run : List Char} {digits : List Nat} {args args' : Arguments} {t : String}

theorem unmarked_of_digits (h : ∀ c ∈ run, Format.isHexDigit c = true) :
    Unmarked (some 16) run := by
  rintro mark rest rfl ⟨-, rfl | rfl⟩
  · cases h 'x' (by simp)
  · cases h 'X' (by simp)

/-- A reading of a text that begins with a letter or a digit has neither blanks nor a sign. -/
theorem plain_start {c : Char} {cs : List Char} (h : cs.head? = some c) (hc : c.isAlphanum = true) :
    (∀ c ∈ cs.head?, Text.isBlank c = false) ∧ Unsigned cs := by
  constructor
  · intro d hd
    obtain rfl : c = d := Option.some.inj (h.symm.trans hd)
    exact Text.isBlank_of_isAlphanum hc
  · intro d hd
    obtain rfl : c = d := Option.some.inj (h.symm.trans hd)
    constructor <;> rintro rfl <;> cases hc

theorem head?_marked (hmark : mark = [] ∨ IsMark (some 16) mark) (hne : run ≠ [])
    (h : ∀ c ∈ run, Format.isHexDigit c = true) :
    ∃ c, (mark ++ run).head? = some c ∧ c.isAlphanum = true := by
  rcases hmark with rfl | ⟨-, rfl | rfl⟩
  · cases run with
    | nil => exact absurd rfl hne
    | cons c run => exact ⟨c, rfl, Text.isAlphanum_of_isHexDigit (h c List.mem_cons_self)⟩
  · exact ⟨'0', rfl, rfl⟩
  · exact ⟨'0', rfl, rfl⟩

namespace WritesHexadecimal

variable {cs : List Char}

/-- Digits behind a mark that the reader knows, or behind none, are read to the end. -/
theorem exists_reading (h : WritesHexadecimal mark digits cs) (hmark : ¬ ForeignMark mark) :
    ∃ r : Reading (some 16) cs, r.negative = false ∧ r.base = 16 ∧ r.digits = digits := by
  obtain ⟨hmarks, hsome, hrun⟩ := h
  rename_i run
  have hknown := hmarks.imp_right fun h => h.resolve_right hmark
  have hne : run ≠ [] := by
    rintro rfl
    cases hrun
    exact hsome rfl
  have hall := isHexDigit_of_forall₂ hrun
  obtain ⟨c, hhead, hc⟩ := head?_marked hknown hne hall
  rw [← List.append_nil run] at hhead
  obtain ⟨hblank, hunsigned⟩ := plain_start hhead hc
  refine ⟨⟨[], [], mark, run, [], false, 16, digits, by simp, nofun, hblank, .none,
    fun _ => hunsigned, ?_, fun _ => ?_, hrun, nofun⟩, rfl, rfl, rfl⟩
  · exact hknown.imp (fun h => ⟨h, rfl⟩) fun h => ⟨h, rfl⟩
  · rw [List.append_nil]
    exact unmarked_of_digits hall

/-- Of digits behind the mark that the reader does not know only its zero is read. -/
theorem exists_reading_of_foreign (h : WritesHexadecimal mark digits cs)
    (hmark : ForeignMark mark) :
    ∃ r : Reading (some 16) cs, r.negative = false ∧ r.base = 16 ∧ r.digits = [0] := by
  obtain ⟨-, -, -⟩ := h
  rename_i run
  have hzero : StandsFor 16 '0' 0 := ⟨by decide, rfl⟩
  obtain ⟨letter, rfl, hletter⟩ : ∃ letter, mark = ['0', letter] ∧
      (letter = 'h' ∨ letter = 'H') := by
    rcases hmark with rfl | rfl
    · exact ⟨'h', rfl, .inl rfl⟩
    · exact ⟨'H', rfl, .inr rfl⟩
  have hhead : ('0' :: letter :: run).head? = some '0' := rfl
  obtain ⟨hblank, hunsigned⟩ := plain_start hhead rfl
  refine ⟨⟨[], [], [], ['0'], letter :: run, false, 16, [0], rfl, nofun, hblank, .none,
    fun _ => hunsigned, .inl ⟨rfl, rfl⟩, fun _ => ?_, .cons hzero .nil, ?_⟩, rfl, rfl, rfl⟩
  · rintro mark rest heq ⟨-, rfl | rfl⟩ <;> cases heq <;> rcases hletter with h | h <;> cases h
  · rintro _ ⟨⟩ d hd
    have hdigit := exists_standsFor_sixteen_iff.mp ⟨d, hd⟩
    rcases hletter with rfl | rfl <;> cases hdigit

theorem ne_nil (h : WritesHexadecimal mark digits cs) : digits ≠ [] := by
  obtain ⟨-, hsome, -⟩ := h
  exact hsome

end WritesHexadecimal

namespace Rule

theorem accepts_isHexadecimal_iff :
    isHexadecimal.Accepts args t ↔ ∃ mark digits, WritesHexadecimal mark digits t.toList := by
  rw [accepts_iff_passes fun _ => rfl, ← TextTest.isHexadecimalText_iff]
  constructor
  · rintro ⟨test, htest, hpasses⟩
    obtain rfl := Except.ok.inj htest
    exact hpasses
  · intro h
    exact ⟨.hexadecimal, rfl, h⟩

/-- A small number is read without loss. -/
theorem toInt_of_reading (hradix : Change.radix? args = .ok (some 16))
    (r : Reading (some 16) t.toList) (hnegative : r.negative = false) (hbase : r.base = 16)
    (hdigits : r.digits = digits) (hsome : digits ≠ []) (hlength : digits.length ≤ 13) :
    toInt.change args (some (.string t)) =
      .ok (some (.int (Nat.ofDigits 16 digits.reverse : Nat))) := by
  have hinteger : r.integer = (Nat.ofDigits 16 digits.reverse : Nat) := by
    rw [Reading.integer, Reading.number, hnegative, hbase, hdigits]
    rfl
  have hlt : Nat.ofDigits 16 digits.reverse < 2 ^ 52 := by
    have hdigit := r.digit_lt
    rw [hbase, hdigits] at hdigit
    calc Nat.ofDigits 16 digits.reverse
        < 16 ^ digits.reverse.length :=
          Nat.ofDigits_lt_base_pow_length (by decide) fun d hd => hdigit d (List.mem_reverse.mp hd)
      _ ≤ 16 ^ 13 := Nat.pow_le_pow_right (by decide) (by simpa using hlength)
      _ = 2 ^ 52 := by norm_num
  have haccrues : Accrues r.base r.digits r.number := by
    rw [Reading.number, hbase, hdigits]
    exact accrues_of_lt (by decide) (by omega)
  have hfits : FitsInt64 r.integer := by
    rw [hinteger]
    unfold FitsInt64
    omega
  rw [← hinteger]
  exact (toInt_eq_integer_iff hradix r (hdigits ▸ hsome) hfits).mpr ⟨_, haccrues, .inl rfl⟩

theorem toInt_of_known_mark (hradix : Change.radix? args = .ok (some 16))
    (h : WritesHexadecimal mark digits t.toList) (hmark : ¬ ForeignMark mark)
    (hlength : digits.length ≤ 13) :
    toInt.change args (some (.string t)) =
      .ok (some (.int (Nat.ofDigits 16 digits.reverse : Nat))) := by
  obtain ⟨r, hnegative, hbase, hdigits⟩ := h.exists_reading hmark
  exact toInt_of_reading hradix r hnegative hbase hdigits h.ne_nil hlength

/-- Of digits behind the foreign mark the sanitizer gives zero. -/
theorem toInt_of_foreign_mark (hradix : Change.radix? args = .ok (some 16))
    (h : WritesHexadecimal mark digits t.toList) (hmark : ForeignMark mark) :
    toInt.change args (some (.string t)) = .ok (some (.int 0)) := by
  obtain ⟨r, hnegative, hbase, hdigits⟩ := h.exists_reading_of_foreign hmark
  exact toInt_of_reading hradix r hnegative hbase hdigits (List.cons_ne_nil 0 []) (by decide)

theorem ofDigits_reverse_eq_zero_iff :
    Nat.ofDigits 16 digits.reverse = 0 ↔ ∀ d ∈ digits, d = 0 := by
  constructor
  · intro h d hd
    exact Nat.digits_zero_of_eq_zero (by decide) h d (List.mem_reverse.mpr hd)
  · intro h
    rw [List.eq_replicate_of_mem h, List.reverse_replicate, Nat.ofDigits_replicate_zero]

/-- **Where the validator and the sanitizer agree on hexadecimal texts.** The validator accepts
digits behind an optional mark. Of at most thirteen digits, which are a small number, the sanitizer
for base sixteen gives the number that they denote, but for a mark that it does not know: then it
gives zero, whatever the digits are. -/
theorem hexadecimal_agrees_iff (hradix : Change.radix? args' = .ok (some 16)) (args : Arguments)
    (t : String) :
    (isHexadecimal.Accepts args t ↔ ∃ mark digits, WritesHexadecimal mark digits t.toList) ∧
      ∀ mark digits, WritesHexadecimal mark digits t.toList → digits.length ≤ 13 →
        (toInt.change args' (some (.string t)) =
            .ok (some (.int (Nat.ofDigits 16 digits.reverse : Nat))) ↔
          ¬ ForeignMark mark ∨ ∀ d ∈ digits, d = 0) := by
  refine ⟨accepts_isHexadecimal_iff, fun mark digits h hlength => ?_⟩
  by_cases hmark : ForeignMark mark
  · rw [toInt_of_foreign_mark hradix h hmark, or_iff_right (not_not_intro hmark),
      ← ofDigits_reverse_eq_zero_iff]
    simp only [Json.int, Except.ok.injEq, Option.some.injEq, Json.number.injEq, Number.int.injEq]
    omega
  · exact iff_of_true (toInt_of_known_mark hradix h hmark hlength) (.inl hmark)

/-- A mark that both know. -/
theorem marked_byte_agrees :
    Change.radix? [.int 16] = .ok (some 16) ∧ isHexadecimal.Accepts [] "0XfF" ∧
      toInt.change [.int 16] (some (.string "0XfF")) = .ok (some (.int 255)) := by
  have hradix : Change.radix? [.int 16] = .ok (some 16) := rfl
  have hwrites : WritesHexadecimal ['0', 'X'] [15, 15] "0XfF".toList :=
    .mk (.inr (.inl ⟨.inr rfl, .inr rfl⟩)) (List.cons_ne_nil _ _)
      (.cons ⟨by decide, rfl⟩ (.cons ⟨by decide, rfl⟩ .nil))
  obtain ⟨haccepts, hagrees⟩ := hexadecimal_agrees_iff hradix [] "0XfF"
  refine ⟨hradix, haccepts.mpr ⟨_, _, hwrites⟩, ?_⟩
  exact (hagrees _ _ hwrites (by decide)).mpr (.inl (by rintro (h | h) <;> cases h))

/-- The validator accepts the digits of thirty-one behind the other mark, and the sanitizer gives
zero. -/
theorem foreign_mark_unread :
    isHexadecimal.Accepts [] "0h1F" ∧ WritesHexadecimal ['0', 'h'] [1, 15] "0h1F".toList ∧
      Nat.ofDigits 16 [1, 15].reverse = 31 ∧
      toInt.change [.int 16] (some (.string "0h1F")) = .ok (some (.int 0)) := by
  have hradix : Change.radix? [.int 16] = .ok (some 16) := rfl
  have hwrites : WritesHexadecimal ['0', 'h'] [1, 15] "0h1F".toList :=
    .mk (.inr (.inr (.inl rfl))) (List.cons_ne_nil _ _)
      (.cons ⟨by decide, rfl⟩ (.cons ⟨by decide, rfl⟩ .nil))
  exact ⟨accepts_isHexadecimal_iff.mpr ⟨_, _, hwrites⟩, hwrites, rfl,
    toInt_of_foreign_mark hradix hwrites (.inl rfl)⟩

end Rule

end RequestValidation
