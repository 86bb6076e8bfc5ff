import RequestValidation.Proofs.Json.Literals
import RequestValidation.Proofs.Request.Lookup
import RequestValidation.Proofs.Request.PlainKeys
import RequestValidation.Proofs.Text.Pieces
/-!
# Paths read back

A path is written step by step: a key behind a point, an index between brackets. It is read back as
these steps if its keys hold none of the signs that path syntax reserves and its indices are not
beyond the largest. A bracket goes with the part of the path in which it stands, so of the path
before an index one has to know that its last part is over: it is empty, a key, or ends in a
bracket.

Results:
* `ofPath_append_point`: the paths before and behind a point are read one after the other.
* `ofPath_appendName`, `ofPath_appendIndex`: one more key, one more index.
* `ofPath_spell`: the steps that are written are read back.
* `inRange_of_mem_ofPath`: an index that is read is not beyond the largest.
-/
namespace RequestValidation

/-- A key that makes a step of its own in a path: plain, and not the sign for every item. -/
def StepKey (k : String) : Prop := PlainKey k ∧ k ≠ "*"

-- the characters of the key are gone through, and not all characters there are
instance : DecidablePred PlainKey := fun k =>
  haveI : Decidable (∀ c ∈ k.toList, c ≠ '.' ∧ c ≠ '[') := List.decidableBAll _ _
  inferInstanceAs (Decidable (k ≠ "" ∧ ∀ c ∈ k.toList, c ≠ '.' ∧ c ≠ '['))

instance : DecidablePred StepKey := fun k => inferInstanceAs (Decidable (PlainKey k ∧ k ≠ "*"))

namespace Segment

/-- Whether a step is not an index beyond the largest. -/
def InRange : Segment → Prop
  | .index i => i ≤ maxIndex
  | .key _ => True
  | .wildcard => True

/-- Whether a step is read back from the path in which it is written. -/
def ReadsBack : Segment → Prop
  | .key k => StepKey k
  | .index i => i ≤ maxIndex
  | .wildcard => False

/-! ## Points -/

/-- The steps that some characters of a path are read as. -/
def ofChars (cs : List Char) : List Segment := (cs.splitOn '.').flatMap ofPart

/-- Empty parts are read as no steps, so they need not be left out. -/
theorem ofPath_eq_ofChars (path : String) : ofPath path = ofChars path.toList := by
  have hempty : ofPart [] = [] := rfl
  unfold ofPath ofChars
  generalize path.toList.splitOn '.' = parts
  induction parts with
  | nil => rfl
  | cons part parts ih =>
    cases part with
    | nil => simpa [hempty] using ih
    | cons c part => simpa using ih

theorem ofChars_append_point (u v : List Char) :
    ofChars (u ++ '.' :: v) = ofChars u ++ ofChars v := by
  unfold ofChars
  rw [List.splitOn_append_cons_self, List.flatMap_append]

theorem ofChars_of_no_point {u : List Char} (hu : '.' ∉ u) : ofChars u = ofPart u := by
  unfold ofChars
  rw [List.splitOn_eq_singleton hu, List.flatMap_singleton]

/-- The paths before and behind a point are read one after the other. -/
theorem ofPath_append_point (path rest : String) :
    ofPath (path ++ "." ++ rest) = ofPath path ++ ofPath rest := by
  have hchars : (path ++ "." ++ rest).toList = path.toList ++ '.' :: rest.toList := by simp
  rw [ofPath_eq_ofChars, hchars, ofChars_append_point, ofPath_eq_ofChars, ofPath_eq_ofChars]

/-! ## Keys -/

theorem ofPart_plain {k : List Char} (hne : k ≠ []) (hk : '[' ∉ k) (rest : List Char) :
    ofPart (k ++ '[' :: rest) = ofKey k :: ofTail none ('[' :: rest) ∧ ofPart k = [ofKey k] := by
  have hall : ∀ c ∈ k, decide (c ≠ '[') = true := by
    intro c hc
    refine decide_eq_true ?_
    rintro rfl
    exact hk hc
  have hempty : k.isEmpty = false := by simpa using hne
  constructor
  · unfold ofPart
    rw [List.takeWhile_append_of_pos hall, List.dropWhile_append_of_pos hall]
    simp [hempty]
  · have htake : k.takeWhile (fun c => decide (c ≠ '[')) = k := List.takeWhile_eq_self_iff.mpr hall
    have hdrop : k.dropWhile (fun c => decide (c ≠ '[')) = [] := List.dropWhile_eq_nil_iff.mpr hall
    unfold ofPart
    rw [htake, hdrop]
    simp [hempty, ofTail]

theorem StepKey.toList {k : String} (hk : StepKey k) :
    k.toList ≠ [] ∧ '.' ∉ k.toList ∧ '[' ∉ k.toList ∧ ofKey k.toList = .key k := by
  obtain ⟨⟨hempty, hplain⟩, hstar⟩ := hk
  refine ⟨by simpa using hempty, fun h => (hplain _ h).1 rfl, fun h => (hplain _ h).2 rfl, ?_⟩
  have hne : k.toList ≠ ['*'] := by
    intro h
    exact hstar (String.toList_inj.mp h)
  rw [ofKey, if_neg hne, String.ofList_toList]

theorem ofPath_key {k : String} (hk : StepKey k) : ofPath k = [.key k] := by
  obtain ⟨hne, hpoint, hbracket, hkey⟩ := StepKey.toList hk
  rw [ofPath_eq_ofChars, ofChars_of_no_point hpoint, (ofPart_plain hne hbracket []).2,
    hkey]

/-- One more key is read as one more step. -/
theorem ofPath_appendName {k : String} (hk : StepKey k) (path : String) :
    ofPath (appendName path k) = ofPath path ++ [.key k] := by
  unfold appendName
  split
  · rename_i hempty
    subst hempty
    exact ofPath_key hk
  · rw [ofPath_append_point, ofPath_key hk]

/-! ## Indices -/

theorem isMark_of_digit {n : Nat} {c : Char} (hc : c ∈ Nat.toDigits 10 n) : isMark c = false := by
  have hdigit := Json.isDigit_of_mem_toDigits hc
  cases hm : isMark c with
  | false => rfl
  | true =>
    rcases (isMark_iff c).mp hm with rfl | rfl | rfl | rfl | rfl | rfl <;> simp at hdigit

theorem natUpTo?_toDigits {i limit : Nat} (hi : i ≤ limit) :
    natUpTo? limit (Nat.toDigits 10 i) = some i := by
  have hdigits : ∀ c ∈ Nat.toDigits 10 i, c.isDigit = true := fun c => Json.isDigit_of_mem_toDigits
  have hne : Nat.toDigits 10 i ≠ [] := Nat.toDigits_ne_nil
  have hvalue := Json.natOfDigits_toDigits i
  generalize Nat.toDigits 10 i = digits at hdigits hne hvalue
  cases digits with
  | nil => exact absurd rfl hne
  | cons c rest =>
    have hsign : c ≠ '+' := by
      rintro rfl
      exact absurd (hdigits '+' List.mem_cons_self) (by decide)
    have hall : (c :: rest).all Char.isDigit = true := List.all_eq_true.mpr hdigits
    unfold natUpTo?
    split
    · rename_i heq
      exact absurd (List.cons.inj heq).1 hsign
    · simp [hall, hvalue, hi]

/-- The digits of an index between brackets are read as the index. -/
theorem ofTail_index {i : Nat} (hi : i ≤ maxIndex) (rest : List Char) :
    ofTail none ('[' :: (Nat.toDigits 10 i ++ ']' :: rest)) = .index i :: ofTail none rest := by
  have hbracket : ofBracket (Nat.toDigits 10 i) = .index i := by
    simp [ofBracket, natUpTo?_toDigits hi]
  have hopen : ofTail none ('[' :: (Nat.toDigits 10 i ++ ']' :: rest)) =
      ofTail (some []) (Nat.toDigits 10 i ++ ']' :: rest) := by simp [ofTail]
  rw [hopen, ofTail_append (fun c => isMark_of_digit), ofTail, if_pos rfl, List.append_nil,
    List.reverse_reverse, hbracket]

/-- Whether a bracket behind a part is read apart from it. -/
def TakesBracket (part : List Char) : Prop :=
  ∀ rest, ofPart (part ++ '[' :: rest) = ofPart part ++ ofTail none ('[' :: rest)

theorem takesBracket_nil : TakesBracket [] := by
  intro rest
  simp [ofPart, ofTail]

theorem takesBracket_key {k : String} (hk : StepKey k) : TakesBracket k.toList := by
  obtain ⟨hne, -, hbracket, -⟩ := StepKey.toList hk
  intro rest
  obtain ⟨happend, halone⟩ := ofPart_plain hne hbracket rest
  rw [happend, halone, List.singleton_append]

theorem TakesBracket.index {part : List Char} (h : TakesBracket part) {i : Nat}
    (hi : i ≤ maxIndex) :
    ofPart (part ++ '[' :: (Nat.toDigits 10 i ++ [']'])) = ofPart part ++ [.index i] ∧
      TakesBracket (part ++ '[' :: (Nat.toDigits 10 i ++ [']'])) := by
  have hone : ofPart (part ++ '[' :: (Nat.toDigits 10 i ++ [']'])) =
      ofPart part ++ [.index i] := by
    rw [h, ofTail_index hi []]
    rfl
  refine ⟨hone, fun rest => ?_⟩
  have hassoc : part ++ '[' :: (Nat.toDigits 10 i ++ [']']) ++ '[' :: rest =
      part ++ '[' :: (Nat.toDigits 10 i ++ ']' :: '[' :: rest) := by simp
  rw [hone, hassoc, h, ofTail_index hi, List.append_assoc, List.singleton_append]

/-- Whether an index behind a path is read as one more step: the last part of the path, behind what
is read apart from it, takes a bracket. -/
def TakesIndex (path : String) : Prop :=
  ∃ front last, path.toList = front ++ last ∧ '.' ∉ last ∧ TakesBracket last ∧
    ∀ part, '.' ∉ part → ofChars (front ++ part) = ofChars front ++ ofPart part

theorem takesIndex_empty : TakesIndex "" :=
  ⟨[], [], rfl, List.not_mem_nil, takesBracket_nil, fun _ => ofChars_of_no_point⟩

theorem takesIndex_appendName {k : String} (hk : StepKey k) (path : String) :
    TakesIndex (appendName path k) := by
  have hpoint := (StepKey.toList hk).2.1
  unfold appendName
  split
  · refine ⟨[], k.toList, rfl, hpoint, takesBracket_key hk, ?_⟩
    intro part
    exact ofChars_of_no_point
  · refine ⟨path.toList ++ ['.'], k.toList, by simp, hpoint, takesBracket_key hk, ?_⟩
    intro part hpart
    have hnothing : ofChars [] = [] := rfl
    rw [List.append_assoc, List.singleton_append, ofChars_append_point, ofChars_append_point,
      ofChars_of_no_point hpart, hnothing, List.append_nil]

/-- One more index is read as one more step, and takes an index again. -/
theorem ofPath_appendIndex {path : String} (h : TakesIndex path) {i : Nat} (hi : i ≤ maxIndex) :
    ofPath (appendIndex path i) = ofPath path ++ [.index i] ∧ TakesIndex (appendIndex path i) := by
  obtain ⟨front, last, hpath, hpoint, htakes, hapart⟩ := h
  obtain ⟨hread, htakes'⟩ := htakes.index hi
  have hindex : (appendIndex path i).toList =
      front ++ (last ++ '[' :: (Nat.toDigits 10 i ++ [']'])) := by
    rw [toList_appendIndex, hpath, Nat.toString_eq_ofList_toDigits, String.toList_ofList,
      List.append_assoc]
  have hpoint' : '.' ∉ last ++ '[' :: (Nat.toDigits 10 i ++ [']']) := by
    intro hmem
    simp only [List.mem_append, List.mem_cons, List.not_mem_nil, or_false] at hmem
    rcases hmem with h | h | h | h
    · exact hpoint h
    · cases h
    · cases isMark_of_digit h
    · cases h
  refine ⟨?_, front, _, hindex, hpoint', htakes', hapart⟩
  rw [ofPath_eq_ofChars, hindex, hapart _ hpoint', hread, ofPath_eq_ofChars, hpath,
    hapart last hpoint, List.append_assoc]

/-! ## Whole paths -/

/-- The steps that are written behind a path are read back behind its own. -/
theorem ofPath_spell {segments : List Segment} (h : ∀ s ∈ segments, s.ReadsBack) {path : String}
    (hpath : TakesIndex path) : ofPath (spell segments path) = ofPath path ++ segments := by
  induction segments generalizing path with
  | nil => simp [spell]
  | cons s segments ih =>
    have hs := h s List.mem_cons_self
    have hrest : ∀ t ∈ segments, t.ReadsBack := fun t ht => h t (List.mem_cons_of_mem s ht)
    cases s with
    | key k =>
      have hnext := takesIndex_appendName hs path
      rw [spell, ih hrest hnext, ofPath_appendName hs, List.append_assoc, List.singleton_append]
    | index i =>
      obtain ⟨hread, hnext⟩ := ofPath_appendIndex hpath hs
      rw [spell, ih hrest hnext, hread, List.append_assoc, List.singleton_append]
    | wildcard => exact absurd hs id

/-- Written from the start, the steps are read back as they are. -/
theorem ofPath_spell_empty {segments : List Segment} (h : ∀ s ∈ segments, s.ReadsBack) :
    ofPath (spell segments "") = segments := ofPath_spell h takesIndex_empty

/-! ## What is read -/

theorem natUpTo?_le {limit n : Nat} {cs : List Char} (h : natUpTo? limit cs = some n) :
    n ≤ limit := by
  unfold natUpTo? at h
  extract_lets digits at h
  split at h
  · cases h
  · split at h
    · rename_i hle
      obtain rfl := Option.some.inj h
      exact hle
    · cases h

theorem inRange_ofKey (k : List Char) : (ofKey k).InRange := by
  unfold ofKey
  split <;> trivial

theorem inRange_ofBracket (inner : List Char) : (ofBracket inner).InRange := by
  unfold ofBracket
  split
  · rename_i n hn
    exact natUpTo?_le hn
  · exact inRange_ofKey _

theorem inRange_of_mem_ofTail {cs : List Char} {inside : Option (List Char)} :
    ∀ s ∈ ofTail inside cs, s.InRange := by
  induction cs generalizing inside with
  | nil =>
    intro s hs
    cases inside with
    | none => cases hs
    | some inner =>
      obtain rfl := List.mem_singleton.mp hs
      trivial
  | cons c cs ih =>
    intro s hs
    cases inside with
    | none =>
      rw [ofTail] at hs
      split at hs
      · exact ih s hs
      · obtain rfl := List.mem_singleton.mp hs
        trivial
    | some inner =>
      rw [ofTail] at hs
      split at hs
      · rcases List.mem_cons.mp hs with rfl | hs
        · exact inRange_ofBracket _
        · exact ih s hs
      · exact ih s hs

/-- An index that is read is not beyond the largest. -/
theorem inRange_of_mem_ofPath {path : String} : ∀ s ∈ ofPath path, s.InRange := by
  intro s hs
  obtain ⟨part, -, hs⟩ := List.mem_flatMap.mp hs
  simp only [ofPart] at hs
  split at hs
  · exact inRange_of_mem_ofTail s hs
  · rcases List.mem_cons.mp hs with rfl | hs
    · exact inRange_ofKey _
    · exact inRange_of_mem_ofTail s hs

end Segment

end RequestValidation
