import Mathlib
import RequestValidation.Proofs.Json.Literals
import RequestValidation.Proofs.Json.Spacing
/-!
# Reading a document back

A document is exact if its numbers are integers that fit 64 bits and the names in each object are
distinct. Its texts are read back as the document, wherever blanks stand, as long as no more
containers are nested than the reader takes.

Results:
* `readValue_int`, `readValue_quote`: numbers and strings.
* `readItems_spaced`, `readMembers_spaced`: the parts of containers.
* `readsBack_of_exact`: a document, in front of any text that does not go on with it.
* `read_compact_append`, `read_pretty_append`: the whole text, also with blanks behind it.
-/
namespace RequestValidation

theorem Members.insert_of_not_mem {α : Type} (ms : Members α) {key : String} (v : α)
    (h : key ∉ ms.keys) : ms.insert key v = ms ++ [(key, v)] := by
  induction ms with
  | nil => rfl
  | cons p ms ih =>
    obtain ⟨k, w⟩ := p
    simp only [Members.keys, List.map_cons, List.mem_cons, not_or] at h
    rw [Members.insert, if_neg (Ne.symm h.1), ih h.2, List.cons_append]

/-- Members with distinct names are kept as they are. -/
theorem Members.ofPairs_of_nodup {α : Type} {ms : Members α} (h : (ms.map Prod.fst).Nodup) :
    Members.ofPairs ms = ms := by
  induction ms using List.reverseRecOn with
  | nil => rfl
  | append_singleton ms p ih =>
    rw [List.map_append, List.nodup_append] at h
    have hnew : p.1 ∉ Members.keys ms := fun hmem => h.2.2 p.1 hmem p.1 (by simp) rfl
    have hfold : Members.ofPairs (ms ++ [p]) = (Members.ofPairs ms).insert p.1 p.2 := by
      simp [Members.ofPairs]
    rw [hfold, ih h.1, insert_of_not_mem ms p.2 hnew]

namespace Json

/-- A document that texts carry without loss, with at most so many containers nested. -/
inductive Exact : Nat → Json → Prop
  | null (depth : Nat) : Exact depth .null
  | bool (depth : Nat) (b : Bool) : Exact depth (.bool b)
  | int (depth : Nat) {i : Int} (hlow : -2 ^ 63 ≤ i) (hhigh : i < 2 ^ 64) :
      Exact depth (.number (.int i))
  | string (depth : Nat) (s : String) : Exact depth (.string s)
  | array {depth : Nat} {items : List Json} (h : ∀ v ∈ items, Exact depth v) :
      Exact (depth + 1) (.array items)
  | object {depth : Nat} {members : List (String × Json)}
      (hnodup : (members.map Prod.fst).Nodup) (h : ∀ p ∈ members, Exact depth p.2) :
      Exact (depth + 1) (.object members)

/-! ## Blanks and brackets -/

theorem skipBlanks_append {blanks : List Char} (h : ∀ c ∈ blanks, isSpace c = true)
    (cs : List Char) : skipBlanks (blanks ++ cs) = skipBlanks cs :=
  List.dropWhile_append_of_pos h

theorem skipBlanks_cons {c : Char} (hc : isSpace c = false) (rest : List Char) :
    skipBlanks (c :: rest) = c :: rest := by
  simp [skipBlanks, hc]

theorem readValue_blanks {blanks : List Char} (h : ∀ c ∈ blanks, isSpace c = true)
    (fuel depth : Nat) (cs : List Char) :
    readValue fuel depth (blanks ++ cs) = readValue fuel depth cs := by
  cases fuel with
  | zero => rfl
  | succ fuel => rw [readValue, readValue, skipBlanks_append h]

theorem readValue_bracket (fuel : Nat) {depth : Nat} (hdepth : 1 < depth) (rest : List Char) :
    readValue (fuel + 1) depth ('[' :: rest) =
      readItems fuel (depth - 1) true rest >>= fun p => .ok (.array p.1, p.2) := by
  have hopen : readValue (fuel + 1) depth ('[' :: rest) =
      if depth ≤ 1 then .error (Fault.next .nestedTooDeeply ('[' :: rest))
      else readItems fuel (depth - 1) true rest >>= fun p => .ok (.array p.1, p.2) := rfl
  rw [hopen, if_neg (by omega)]

theorem readValue_brace (fuel : Nat) {depth : Nat} (hdepth : 1 < depth) (rest : List Char) :
    readValue (fuel + 1) depth ('\x7b' :: rest) =
      readMembers fuel (depth - 1) true rest >>= fun p =>
        .ok (.object (Members.ofPairs p.1), p.2) := by
  have hopen : readValue (fuel + 1) depth ('\x7b' :: rest) =
      if depth ≤ 1 then .error (Fault.next .nestedTooDeeply ('\x7b' :: rest))
      else readMembers fuel (depth - 1) true rest >>= fun p =>
        .ok (.object (Members.ofPairs p.1), p.2) := rfl
  rw [hopen, if_neg (by omega)]

/-! ## Numbers -/

theorem isSpace_of_isDigit {c : Char} (h : c.isDigit = true) : isSpace c = false := by
  unfold isSpace
  simp only [Bool.or_eq_false_iff, decide_eq_false_iff_not]
  refine ⟨⟨⟨?_, ?_⟩, ?_⟩, ?_⟩ <;> (rintro rfl; exact absurd h (by decide))

/-- A value that begins with a digit is a number. -/
theorem readValue_digit (fuel depth : Nat) {c : Char} (hc : c.isDigit = true) (rest : List Char) :
    readValue (fuel + 1) depth (c :: rest) =
      readNumber false (c :: rest) >>= fun p => .ok (.number p.1, p.2) := by
  have hletters : c ≠ 'n' ∧ c ≠ 't' ∧ c ≠ 'f' ∧ c ≠ '-' := by
    refine ⟨?_, ?_, ?_, ?_⟩ <;> (rintro rfl; exact absurd hc (by decide))
  obtain ⟨hn, ht, hf, hminus⟩ := hletters
  rw [readValue, skipBlanks_cons (isSpace_of_isDigit hc)]
  simp only [hn, ht, hf, hminus, hc, if_true, if_false]

theorem toList_text_nat (n : Nat) : (Number.text (.int n)).toList = Nat.toDigits 10 n := by
  change (toString n).toList = _
  rw [Nat.toString_eq_ofList_toDigits, String.toList_ofList]

theorem toList_text_negSucc (n : Nat) :
    (Number.text (.int (.negSucc n))).toList = '-' :: Nat.toDigits 10 (n + 1) := by
  change ("-" ++ toString (n + 1)).toList = _
  rw [String.toList_append, Nat.toString_eq_ofList_toDigits]
  simp

theorem wholeNumber_nat {n : Nat} (hn : n < 2 ^ 64) (rest : List Char) :
    wholeNumber false n rest = .ok (.int n, rest) := by
  unfold wholeNumber
  rw [if_neg (by decide), if_pos (by simpa using hn)]

theorem wholeNumber_negSucc {n : Nat} (hn : n + 1 ≤ 2 ^ 63) (rest : List Char) :
    wholeNumber true (n + 1) rest = .ok (.int (.negSucc n), rest) := by
  unfold wholeNumber
  rw [if_pos rfl, if_pos ⟨Nat.succ_ne_zero n, by simpa using hn⟩]
  rfl

/-- The text of an integer is read as the integer. -/
theorem readValue_int (fuel depth : Nat) {i : Int} (hlow : -2 ^ 63 ≤ i) (hhigh : i < 2 ^ 64)
    {rest : List Char} (hrest : EndsNumber rest) :
    readValue (fuel + 1) depth ((Number.text (.int i)).toList ++ rest) =
      .ok (.number (.int i), rest) := by
  cases i with
  | ofNat n =>
    change readValue (fuel + 1) depth ((Number.text (.int n)).toList ++ rest) = _
    have hnumber := readNumber_digits false n hrest
    have hn : n < 2 ^ 64 := by
      simp only [Int.ofNat_eq_natCast] at hhigh
      omega
    rw [toList_text_nat]
    cases hdigits : Nat.toDigits 10 n with
    | nil => exact absurd hdigits Nat.toDigits_ne_nil
    | cons c digits =>
      have hc : c.isDigit = true := isDigit_of_mem_toDigits (hdigits ▸ List.mem_cons_self)
      rw [hdigits, wholeNumber_nat hn] at hnumber
      rw [List.cons_append] at hnumber ⊢
      rw [readValue_digit fuel depth hc, hnumber]
      rfl
  | negSucc n =>
    have hminus : readValue (fuel + 1) depth ('-' :: (Nat.toDigits 10 (n + 1) ++ rest)) =
        readNumber true (Nat.toDigits 10 (n + 1) ++ rest) >>= fun p => .ok (.number p.1, p.2) := rfl
    rw [toList_text_negSucc, List.cons_append, hminus, readNumber_digits true (n + 1) hrest,
      wholeNumber_negSucc (by omega)]
    rfl

/-! ## Strings -/

/-- A string literal is read as the string. -/
theorem readValue_quote (fuel depth : Nat) (s : String) (rest : List Char) :
    readValue (fuel + 1) depth (quote s ++ rest) = .ok (.string s, rest) := by
  have hopen : ∀ cs, readValue (fuel + 1) depth ('"' :: cs) =
      readString cs >>= fun p => .ok (.string p.1, p.2) := fun _ => rfl
  rw [quote, List.append_assoc, List.cons_append, List.singleton_append, hopen, readString_quoted]
  rfl

/-! ## Parts of containers -/

/-- Whether a document is read back from its text with blanks, in front of any text that does not
go on with it, as long as so many containers may be opened. -/
def ReadsBack (g : Spacing) (nested : Nat) (v : Json) : Prop :=
  ∀ (level fuel depth : Nat) (rest : List Char), nested < depth →
    2 * (spaced g level v).length ≤ fuel → EndsNumber rest →
    readValue fuel depth (spaced g level v ++ rest) = .ok (v, rest)

theorem endsNumber_blanks {blanks : List Char} (h : ∀ c ∈ blanks, isSpace c = true)
    {rest : List Char} (hrest : EndsNumber rest) : EndsNumber (blanks ++ rest) := by
  cases blanks with
  | nil => exact hrest
  | cons c blanks =>
    intro d hd
    obtain rfl : c = d := by simpa using hd
    have hc := h c List.mem_cons_self
    unfold isSpace at hc
    simp only [Bool.or_eq_true, decide_eq_true_eq] at hc
    rcases hc with ((rfl | rfl) | rfl) | rfl <;> decide

/-- What stands behind a part of a container does not go on with a number. -/
theorem endsNumber_spacedParts (g : Spacing) (level : Nat) {closing : Char}
    (hclosing : ∀ rest, EndsNumber (closing :: rest)) (texts : List (List Char))
    (rest : List Char) : EndsNumber (spacedParts g level closing false texts ++ rest) := by
  cases texts with
  | nil =>
    have hlast := endsNumber_blanks (g.isSpace_last level) (hclosing rest)
    simpa [spacedParts] using hlast
  | cons text texts =>
    intro d hd
    obtain rfl : ',' = d := by simpa [spacedParts] using hd
    decide

/-- Whether a text begins with a character that is no blank and does not close an array. -/
def BeginsPart (text : List Char) : Prop :=
  ∃ c rest, text = c :: rest ∧ isSpace c = false ∧ c ≠ ']'

theorem BeginsPart.append {text : List Char} (h : BeginsPart text) (rest : List Char) :
    BeginsPart (text ++ rest) := by
  obtain ⟨c, tail, rfl, hspace, hclose⟩ := h
  exact ⟨c, tail ++ rest, rfl, hspace, hclose⟩

theorem BeginsPart.length_pos {text : List Char} (h : BeginsPart text) : 0 < text.length := by
  obtain ⟨c, tail, rfl, -, -⟩ := h
  exact Nat.succ_pos _

theorem beginsPart_digits (n : Nat) : BeginsPart (Nat.toDigits 10 n) := by
  cases hdigits : Nat.toDigits 10 n with
  | nil => exact absurd hdigits Nat.toDigits_ne_nil
  | cons c digits =>
    have hc : c.isDigit = true := isDigit_of_mem_toDigits (hdigits ▸ List.mem_cons_self)
    refine ⟨c, digits, rfl, isSpace_of_isDigit hc, ?_⟩
    rintro rfl
    exact absurd hc (by decide)

theorem beginsPart_spaced (g : Spacing) (level : Nat) {nested : Nat} {v : Json}
    (h : Exact nested v) : BeginsPart (spaced g level v) := by
  cases h with
  | null => exact ⟨'n', "ull".toList, by rw [spaced]; rfl, rfl, by decide⟩
  | bool _ b =>
    cases b with
    | true => exact ⟨'t', "rue".toList, by rw [spaced]; rfl, rfl, by decide⟩
    | false => exact ⟨'f', "alse".toList, by rw [spaced]; rfl, rfl, by decide⟩
  | @int _ i _ _ =>
    rw [spaced]
    cases i with
    | ofNat n => exact (toList_text_nat n).symm ▸ beginsPart_digits n
    | negSucc n => exact ⟨'-', _, toList_text_negSucc n, rfl, by decide⟩
  | string _ s => exact ⟨'"', _, by rw [spaced, quote, List.cons_append], rfl, by decide⟩
  | array _ => exact ⟨'[', _, spaced_array g level _, rfl, by decide⟩
  | object _ _ => exact ⟨'\x7b', _, spaced_object g level _, rfl, by decide⟩

section
variable {blanks : List Char} (h : ∀ c ∈ blanks, isSpace c = true)
include h

/-- In front of an item stand a comma, unless it is the first, and blanks. -/
theorem nextItem_part (first : Bool) {text : List Char} (htext : BeginsPart text) :
    nextItem first ((if first then [] else [',']) ++ (blanks ++ text)) = .ok (some text) := by
  obtain ⟨c, rest, rfl, hspace, hclose⟩ := htext
  have hskip : skipBlanks (blanks ++ c :: rest) = c :: rest := by
    rw [skipBlanks_append h, skipBlanks_cons hspace]
  cases first with
  | true =>
    simp only [if_true, List.nil_append]
    unfold nextItem
    rw [hskip]
    simp
  | false =>
    simp only [Bool.false_eq_true, if_false, List.singleton_append]
    unfold nextItem
    rw [skipBlanks_cons (by decide)]
    simp [hskip, hclose]

theorem nextItem_close (first : Bool) (rest : List Char) :
    nextItem first (blanks ++ ']' :: rest) = .ok none := by
  unfold nextItem
  rw [skipBlanks_append h]
  rfl

/-- The same in front of a member, which begins with the quote of its name. -/
theorem nextName_part (first : Bool) (rest : List Char) :
    nextName first ((if first then [] else [',']) ++ (blanks ++ '"' :: rest)) =
      .ok (some rest) := by
  have hskip : skipBlanks (blanks ++ '"' :: rest) = '"' :: rest := by
    rw [skipBlanks_append h]
    rfl
  cases first with
  | true =>
    simp only [if_true, List.nil_append]
    unfold nextName
    rw [hskip]
    rfl
  | false =>
    simp only [Bool.false_eq_true, if_false, List.singleton_append]
    unfold nextName
    rw [skipBlanks_cons (by decide)]
    dsimp only
    rw [if_neg (by decide), if_neg (by decide), if_pos rfl, hskip]
    rfl

theorem nextName_close (first : Bool) (rest : List Char) :
    nextName first (blanks ++ '\x7d' :: rest) = .ok none := by
  unfold nextName
  rw [skipBlanks_append h]
  rfl

theorem drop_skipBlanks_close {closing : Char} (hclosing : isSpace closing = false)
    (rest : List Char) : (skipBlanks (blanks ++ closing :: rest)).drop 1 = rest := by
  rw [skipBlanks_append h, skipBlanks_cons hclosing]
  rfl

end

theorem isSpace_closing (g : Spacing) (level : Nat) (first : Bool) :
    ∀ c ∈ (if first then [] else g.last level), isSpace c = true := by
  cases first with
  | true => simp
  | false => exact g.isSpace_last level

theorem spacedParts_length_pos (g : Spacing) (level : Nat) (closing : Char)
    (texts : List (List Char)) : 0 < (spacedParts g level closing false texts).length := by
  rw [spacedParts_false, List.length_append, List.length_singleton]
  omega

theorem readItems_of_part {fuel depth : Nat} {first : Bool} {cs here after rest : List Char}
    {v : Json} {items : List Json} (hnext : nextItem first cs = .ok (some here))
    (hv : readValue fuel depth here = .ok (v, after))
    (hitems : readItems fuel depth false after = .ok (items, rest)) :
    readItems (fuel + 1) depth first cs = .ok (v :: items, rest) := by
  rw [readItems, hnext]
  simp only [bind, Except.bind, hv, hitems]

theorem readMembers_of_part {fuel depth : Nat} {first : Bool}
    {cs here colon value after rest : List Char} {key : String} {v : Json}
    {members : List (String × Json)} (hnext : nextName first cs = .ok (some here))
    (hkey : readString here = .ok (key, colon)) (hcolon : readColon colon = .ok ((), value))
    (hv : readValue fuel depth value = .ok (v, after))
    (hmembers : readMembers fuel depth false after = .ok (members, rest)) :
    readMembers (fuel + 1) depth first cs = .ok ((key, v) :: members, rest) := by
  rw [readMembers, hnext]
  simp only [bind, Except.bind, hkey, hcolon, hv, hmembers]

/-- The items of an array are read back up to its closing bracket. -/
theorem readItems_spaced (g : Spacing) (level : Nat) {nested : Nat} {items : List Json}
    (hexact : ∀ v ∈ items, Exact nested v) (hback : ∀ v ∈ items, ReadsBack g nested v)
    (first : Bool) {fuel depth : Nat} (hdepth : nested < depth)
    (hfuel : 2 * (spacedParts g level ']' first (items.map (spaced g (level + 1)))).length ≤ fuel)
    (rest : List Char) :
    readItems fuel depth first
        (spacedParts g level ']' first (items.map (spaced g (level + 1))) ++ rest) =
      .ok (items, rest) := by
  induction items generalizing first fuel with
  | nil =>
    have hblanks := isSpace_closing g level first
    simp only [List.map_nil, spacedParts, List.length_append, List.length_singleton] at hfuel
    obtain ⟨fuel, rfl⟩ : ∃ n, fuel = n + 1 := ⟨fuel - 1, by omega⟩
    simp only [List.map_nil, spacedParts, List.append_assoc, List.singleton_append]
    rw [readItems, nextItem_close hblanks]
    simp only [bind, Except.bind]
    rw [drop_skipBlanks_close hblanks (by decide)]
  | cons v items ih =>
    have hbegins := beginsPart_spaced g (level + 1) (hexact v List.mem_cons_self)
    have hpos := hbegins.length_pos
    have hpos' := spacedParts_length_pos g level ']' (items.map (spaced g (level + 1)))
    have hends : EndsNumber
        (spacedParts g level ']' false (items.map (spaced g (level + 1))) ++ rest) :=
      endsNumber_spacedParts g level (by simp [EndsNumber]) _ rest
    rw [List.map_cons, spacedParts] at hfuel ⊢
    simp only [List.length_append] at hfuel
    obtain ⟨fuel, rfl⟩ : ∃ n, fuel = n + 1 := ⟨fuel - 1, by omega⟩
    have hnext := nextItem_part (g.isSpace_part (level + 1)) first (hbegins.append
      (spacedParts g level ']' false (items.map (spaced g (level + 1))) ++ rest))
    have hv := hback v List.mem_cons_self (level + 1) fuel depth
      (spacedParts g level ']' false (items.map (spaced g (level + 1))) ++ rest) hdepth
      (by omega) hends
    have hfuel' : 2 * (spacedParts g level ']' false
        (items.map (spaced g (level + 1)))).length ≤ fuel := by omega
    have hitems := ih (fun w hw => hexact w (List.mem_cons_of_mem v hw))
      (fun w hw => hback w (List.mem_cons_of_mem v hw)) false hfuel'
    simp only [List.append_assoc]
    exact readItems_of_part hnext hv hitems

/-- The members of an object are read back up to its closing brace. -/
theorem readMembers_spaced (g : Spacing) (level : Nat) {nested : Nat}
    {members : List (String × Json)} (hback : ∀ p ∈ members, ReadsBack g nested p.2)
    (first : Bool) {fuel depth : Nat} (hdepth : nested < depth)
    (hfuel : 2 * (spacedParts g level '\x7d' first
      (members.map (spacedMember g (level + 1)))).length ≤ fuel)
    (rest : List Char) :
    readMembers fuel depth first
        (spacedParts g level '\x7d' first (members.map (spacedMember g (level + 1))) ++ rest) =
      .ok (members, rest) := by
  induction members generalizing first fuel with
  | nil =>
    have hblanks := isSpace_closing g level first
    simp only [List.map_nil, spacedParts, List.length_append, List.length_singleton] at hfuel
    obtain ⟨fuel, rfl⟩ : ∃ n, fuel = n + 1 := ⟨fuel - 1, by omega⟩
    simp only [List.map_nil, spacedParts, List.append_assoc, List.singleton_append]
    rw [readMembers, nextName_close hblanks]
    simp only [bind, Except.bind]
    rw [drop_skipBlanks_close hblanks (by decide)]
  | cons p members ih =>
    obtain ⟨key, v⟩ := p
    have hpos := spacedParts_length_pos g level '\x7d' (members.map (spacedMember g (level + 1)))
    have hends : EndsNumber
        (spacedParts g level '\x7d' false (members.map (spacedMember g (level + 1))) ++ rest) :=
      endsNumber_spacedParts g level (by simp [EndsNumber]) _ rest
    generalize htail : spacedParts g level '\x7d' false
      (members.map (spacedMember g (level + 1))) = tail at hpos hends
    rw [List.map_cons, spacedParts, spacedMember, quote, htail] at hfuel ⊢
    simp only [List.length_append, List.length_cons] at hfuel
    obtain ⟨fuel, rfl⟩ : ∃ n, fuel = n + 1 := ⟨fuel - 1, by omega⟩
    have hnext := nextName_part (g.isSpace_part (level + 1)) first
      (key.toList.flatMap escapeChar ++ '"' :: ':' ::
        (g.value ++ (spaced g (level + 1) v ++ (tail ++ rest))))
    have hkey := readString_quoted key
      (':' :: (g.value ++ (spaced g (level + 1) v ++ (tail ++ rest))))
    have hv := hback (key, v) List.mem_cons_self (level + 1) fuel depth (tail ++ rest) hdepth
      (by simp only; omega) hends
    rw [← readValue_blanks g.isSpace_value] at hv
    have hfuel' : 2 * (spacedParts g level '\x7d' false
        (members.map (spacedMember g (level + 1)))).length ≤ fuel := by
      rw [htail]
      omega
    have hmembers := ih (fun q hq => hback q (List.mem_cons_of_mem _ hq)) false hfuel'
    rw [htail] at hmembers
    simp only [List.append_assoc, List.cons_append]
    exact readMembers_of_part hnext hkey rfl hv hmembers

/-! ## Documents -/

/-- An exact document is read back from its text with blanks. -/
theorem readsBack_of_exact (g : Spacing) {nested : Nat} {v : Json} (h : Exact nested v) :
    ReadsBack g nested v := by
  induction h with
  | null =>
    intro level fuel depth rest _ hfuel _
    rw [spaced] at hfuel ⊢
    obtain ⟨fuel, rfl⟩ : ∃ n, fuel = n + 1 := ⟨fuel - 1, by simp at hfuel; omega⟩
    rfl
  | bool _ b =>
    intro level fuel depth rest _ hfuel _
    rw [spaced] at hfuel ⊢
    obtain ⟨fuel, rfl⟩ : ∃ n, fuel = n + 1 := ⟨fuel - 1, by cases b <;> simp at hfuel <;> omega⟩
    cases b <;> rfl
  | int depth hlow hhigh =>
    intro level fuel depth' rest _ hfuel hrest
    have hpos := (beginsPart_spaced g level (.int depth hlow hhigh)).length_pos
    obtain ⟨fuel, rfl⟩ : ∃ n, fuel = n + 1 := ⟨fuel - 1, by omega⟩
    rw [spaced]
    exact readValue_int fuel depth' hlow hhigh hrest
  | string depth s =>
    intro level fuel depth' rest _ hfuel _
    have hpos := (beginsPart_spaced g level (.string depth s)).length_pos
    obtain ⟨fuel, rfl⟩ : ∃ n, fuel = n + 1 := ⟨fuel - 1, by omega⟩
    rw [spaced]
    exact readValue_quote fuel depth' s rest
  | array hexact ih =>
    intro level fuel depth rest hdepth hfuel _
    rw [spaced_array] at hfuel ⊢
    rw [List.length_cons] at hfuel
    obtain ⟨fuel, rfl⟩ : ∃ n, fuel = n + 1 := ⟨fuel - 1, by omega⟩
    rw [List.cons_append, readValue_bracket fuel (by omega),
      readItems_spaced g level hexact ih true (by omega) (by omega)]
    rfl
  | object hnodup hexact ih =>
    intro level fuel depth rest hdepth hfuel _
    rw [spaced_object] at hfuel ⊢
    rw [List.length_cons] at hfuel
    obtain ⟨fuel, rfl⟩ : ∃ n, fuel = n + 1 := ⟨fuel - 1, by omega⟩
    rw [List.cons_append, readValue_brace fuel (by omega),
      readMembers_spaced g level ih true (by omega) (by omega)]
    simp only [bind, Except.bind]
    rw [Members.ofPairs_of_nodup hnodup]

/-- An exact document that is nested few enough levels is read back from its whole text, also with
blanks behind it. -/
theorem read_spaced (g : Spacing) {v : Json} (h : Exact 127 v) {blanks : List Char}
    (hblanks : ∀ c ∈ blanks, isSpace c = true) :
    read (String.ofList (spaced g 0 v ++ blanks)) = .ok v := by
  have hends : EndsNumber (blanks ++ []) := endsNumber_blanks hblanks (by simp [EndsNumber])
  rw [List.append_nil] at hends
  have hback := readsBack_of_exact g h 0 (stepsFor (spaced g 0 v ++ blanks)) depthLimit blanks
    (by decide) (by simp only [stepsFor, List.length_append]; omega) hends
  have hend : readEnd (v, blanks) = .ok v := by
    have hskip : skipBlanks blanks = [] := List.dropWhile_eq_nil_iff.mpr hblanks
    rw [readEnd, hskip]
  unfold read readNested
  simp only [String.toList_ofList, hback, bind, Except.bind, hend]

theorem read_compact_append {v : Json} (h : Exact 127 v) {blanks : List Char}
    (hblanks : ∀ c ∈ blanks, isSpace c = true) :
    read (v.compact ++ String.ofList blanks) = .ok v := by
  rw [compact, ← spaced_tight v 0, ← String.ofList_append]
  exact read_spaced .tight h hblanks

theorem read_pretty_append {v : Json} (h : Exact 127 v) {blanks : List Char}
    (hblanks : ∀ c ∈ blanks, isSpace c = true) :
    read (v.pretty ++ String.ofList blanks) = .ok v := by
  rw [pretty, ← spaced_lines v 0, ← String.ofList_append]
  exact read_spaced .lines h hblanks

theorem read_compact {v : Json} (h : Exact 127 v) : read v.compact = .ok v := by
  have hread := read_compact_append h (List.forall_mem_nil (isSpace · = true))
  rwa [String.ofList_nil, String.append_empty] at hread

theorem read_pretty {v : Json} (h : Exact 127 v) : read v.pretty = .ok v := by
  have hread := read_pretty_append h (List.forall_mem_nil (isSpace · = true))
  rwa [String.ofList_nil, String.append_empty] at hread

end Json

end RequestValidation
