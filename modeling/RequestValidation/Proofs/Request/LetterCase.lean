import Mathlib.Data.List.Forall2
import RequestValidation.Proofs.Text.Pieces
import RequestValidation.Request.Occurrence
/-!
# Paths in small letters

Headers are looked up by the path in small letters. The signs that path syntax is made of, its
marks, have no letter case: a path in small letters has the same marks with other characters again
between them. A wildcard consists of marks alone, so small letters bring none.

Results:
* `sameMarks_lower`: small letters leave the marks of a text as they are.
* `SameMarks.eq_of_marks`: a text of marks alone is the only one with its marks.
* `wildcard_mem_ofPath`: other characters between the same marks bring no wildcard.
-/
namespace RequestValidation

/-- Whether a character has a meaning of its own in a path. -/
def isMark (c : Char) : Bool := ['.', '[', ']', '*', '"', '\''].contains c

/-- The second text has the marks of the first, and other characters where the first has some. -/
inductive SameMarks : List Char → List Char → Prop
  | nil : SameMarks [] []
  | mark {c : Char} {s t : List Char} (hc : isMark c = true) (h : SameMarks s t) :
      SameMarks (c :: s) (c :: t)
  | other {c : Char} {image s t : List Char} (hc : isMark c = false) (hne : image ≠ [])
      (himage : ∀ d ∈ image, isMark d = false) (h : SameMarks s t) :
      SameMarks (c :: s) (image ++ t)

/-! ## Small letters -/

theorem isMark_iff (c : Char) :
    isMark c = true ↔ c = '.' ∨ c = '[' ∨ c = ']' ∨ c = '*' ∨ c = '"' ∨ c = '\'' := by
  simp [isMark]

theorem toNat_of_isMark {c : Char} (h : isMark c = true) : 0 < c.toNat ∧ c.toNat < 97 := by
  rcases (isMark_iff c).mp h with rfl | rfl | rfl | rfl | rfl | rfl <;> decide

theorem toNat_ofNat (n : Nat) : (Char.ofNat n).toNat = n ∨ (Char.ofNat n).toNat = 0 := by
  by_cases h : n.isValidChar
  · rw [Char.ofNat, dif_pos h]
    exact .inl rfl
  · rw [Char.ofNat, dif_neg h]
    exact .inr rfl

/-- No code point from the small letters on is a mark. -/
theorem isMark_ofNat {n : Nat} (h : 97 ≤ n) : isMark (Char.ofNat n) = false := by
  cases hm : isMark (Char.ofNat n) with
  | false => rfl
  | true =>
    have := toNat_of_isMark hm
    rcases toNat_ofNat n with hn | hn <;> omega

namespace Text

set_option maxRecDepth 2000 in
/-- Capital letters become letters from `a` on. -/
theorem lowerRuns_target : ∀ r ∈ lowerRuns, 97 ≤ r.target := by decide

theorem isMark_mapRuns {c : Char} (hc : isMark c = false) :
    isMark (mapRuns lowerRuns c) = false := by
  unfold mapRuns
  cases h : lowerRuns.findSome? (·.map? c.toNat) with
  | none => exact hc
  | some n =>
    obtain ⟨r, hr, hn⟩ := List.exists_of_findSome?_eq_some h
    have htarget := lowerRuns_target r hr
    unfold CaseRun.map? at hn
    split at hn
    · refine isMark_ofNat ?_
      have := Option.some.inj hn
      omega
    · cases hn

theorem isMark_toLower {c : Char} (hascii : c.toNat < 128) (hc : isMark c = false) :
    isMark c.toLower = false := by
  have key : ∀ n < 128, isMark (Char.ofNat n) = false → isMark (Char.ofNat n).toLower = false := by
    decide
  have := key c.toNat hascii
  rw [Char.ofNat_toNat] at this
  exact this hc

theorem lowerChar_of_mark {c : Char} (hc : isMark c = true) : lowerChar c = [c] := by
  rcases (isMark_iff c).mp hc with rfl | rfl | rfl | rfl | rfl | rfl <;> decide

theorem lowerChar_of_not_mark {c : Char} (hc : isMark c = false) :
    lowerChar c ≠ [] ∧ ∀ d ∈ lowerChar c, isMark d = false := by
  unfold lowerChar
  split
  · rename_i hascii
    simpa using isMark_toLower hascii hc
  · split
    · refine ⟨List.cons_ne_nil _ _, fun d hd => ?_⟩
      rcases List.mem_pair.mp hd with rfl | rfl <;> rfl
    · simpa using isMark_mapRuns hc

theorem sameMarks_lowerAfter (before cs : List Char) : SameMarks cs (lowerAfter before cs) := by
  induction cs generalizing before with
  | nil => exact .nil
  | cons c cs ih =>
    unfold lowerAfter
    cases hc : isMark c with
    | true =>
      have hsigma : c.toNat ≠ 931 := by
        have := toNat_of_isMark hc
        omega
      rw [if_neg hsigma, lowerChar_of_mark hc]
      exact .mark hc (ih (c :: before))
    | false =>
      refine .other hc ?_ ?_ (ih (c :: before))
      · split
        · simp
        · exact (lowerChar_of_not_mark hc).1
      · split
        · intro d hd
          obtain rfl := List.mem_singleton.mp hd
          exact isMark_ofNat (by split <;> decide)
        · exact (lowerChar_of_not_mark hc).2

/-- Small letters leave the marks of a text as they are. -/
theorem sameMarks_lower (s : String) : SameMarks s.toList (lower s).toList := by
  rw [lower, String.toList_ofList]
  exact sameMarks_lowerAfter [] s.toList

end Text

/-! ## Texts with the same marks -/

namespace SameMarks

theorem append {s t u v : List Char} (h : SameMarks s t) (h' : SameMarks u v) :
    SameMarks (s ++ u) (t ++ v) := by
  induction h with
  | nil => exact h'
  | mark hc _ ih => exact .mark hc ih
  | other hc hne himage _ ih =>
    rw [List.append_assoc]
    exact .other hc hne himage ih

/-- A text of marks alone is the only one with its marks. -/
theorem eq_of_marks {s t : List Char} (h : SameMarks s t) (ht : ∀ c ∈ t, isMark c = true) :
    s = t := by
  induction h with
  | nil => rfl
  | mark _ _ ih => rw [ih fun c hc => ht c (List.mem_cons_of_mem _ hc)]
  | @other c image s t _ hne himage _ _ =>
    obtain ⟨d, hd⟩ := List.exists_mem_of_ne_nil image hne
    have := ht d (List.mem_append_left t hd)
    rw [himage d hd] at this
    cases this

theorem nil_iff {s t : List Char} (h : SameMarks s t) : s = [] ↔ t = [] := by
  cases h with
  | nil => simp
  | mark _ _ => simp
  | other _ hne _ _ => simp [hne]

/-- A run of characters that only marks can end, and what is behind it, have the same marks. -/
theorem span {p : Char → Bool} (hp : ∀ c, isMark c = false → p c = true) {s t : List Char}
    (h : SameMarks s t) :
    SameMarks (s.takeWhile p) (t.takeWhile p) ∧ SameMarks (s.dropWhile p) (t.dropWhile p) := by
  induction h with
  | nil => exact ⟨.nil, .nil⟩
  | @mark c s t hc h ih =>
    rw [List.takeWhile_cons, List.dropWhile_cons, List.takeWhile_cons, List.dropWhile_cons]
    split
    · exact ⟨mark hc ih.1, ih.2⟩
    · exact ⟨nil, mark hc h⟩
  | @other c image s t hc hne himage _ ih =>
    rw [List.takeWhile_append_of_pos fun d hd => hp d (himage d hd),
      List.dropWhile_append_of_pos fun d hd => hp d (himage d hd),
      List.takeWhile_cons_of_pos (hp c hc), List.dropWhile_cons_of_pos (hp c hc)]
    exact ⟨other hc hne himage ih.1, ih.2⟩

/-- The pieces between the occurrences of a mark have the same marks one by one. -/
theorem split {m : Char} (hm : isMark m = true) {s t : List Char} (h : SameMarks s t) :
    List.Forall₂ SameMarks (s.splitOn m) (t.splitOn m) := by
  have front : ∀ {u v s t : List Char}, m ∉ u → m ∉ v → SameMarks u v →
      List.Forall₂ SameMarks (s.splitOn m) (t.splitOn m) →
      List.Forall₂ SameMarks ((u ++ s).splitOn m) ((v ++ t).splitOn m) := by
    intro u v s t hu hv huv h
    rw [Text.splitOn_append hu, Text.splitOn_append hv]
    generalize s.splitOn m = ps at h ⊢
    generalize t.splitOn m = qs at h ⊢
    cases h with
    | nil => exact .nil
    | cons hp hps => exact .cons (huv.append hp) hps
  have hnot : ∀ {u : List Char}, (∀ d ∈ u, isMark d = false) → m ∉ u := by
    intro u hu hmem
    have := hu m hmem
    rw [hm] at this
    cases this
  induction h with
  | nil => exact .cons .nil .nil
  | @mark c s t hc _ ih =>
    by_cases hcm : c = m
    · simpa [Text.splitOn_cons_self, hcm] using ⟨nil, ih⟩
    · have hne : m ∉ [c] := fun h => hcm (List.mem_singleton.mp h).symm
      exact front hne hne (.mark hc .nil) ih
  | @other c image s t hc hne himage _ ih =>
    have himage' := other hc hne himage .nil
    rw [List.append_nil] at himage'
    exact front (u := [c]) (hnot (by simpa using hc)) (hnot himage) himage' ih

end SameMarks

/-! ## Wildcards -/

namespace Segment

theorem mem_dropWhile_or {p : Char → Bool} {c : Char} {l : List Char} (h : c ∈ l) :
    p c = true ∨ c ∈ l.dropWhile p := by
  rw [← List.takeWhile_append_dropWhile (p := p) (l := l), List.mem_append] at h
  rcases h with h | h
  · exact .inl (List.all_eq_true.mp List.all_takeWhile c h)
  · exact .inr h

/-- Only marks stand between brackets that hold a wildcard. -/
theorem marks_of_ofBracket {inner : List Char} (h : ofBracket inner = .wildcard) :
    ∀ c ∈ inner, isMark c = true := by
  have hquote : ∀ c, isQuote c = true → isMark c = true := by
    intro c hc
    have : c = '"' ∨ c = '\'' := by simpa [isQuote] using hc
    rcases this with rfl | rfl <;> decide
  unfold ofBracket at h
  split at h
  · cases h
  · intro c hc
    unfold ofKey at h
    split at h
    · rename_i hstar
      rcases mem_dropWhile_or (p := isQuote) hc with hq | hc
      · exact hquote c hq
      · rcases mem_dropWhile_or (p := isQuote) (List.mem_reverse.mpr hc) with hq | hc
        · exact hquote c hq
        · rw [← List.mem_reverse, hstar, List.mem_singleton] at hc
          rw [hc]
          decide
    · cases h

/-- A wildcard between brackets is one in every text with the same marks. -/
theorem ofBracket_eq_wildcard {s t : List Char} (h : SameMarks s t)
    (ht : ofBracket t = .wildcard) : ofBracket s = .wildcard := by
  rw [h.eq_of_marks (marks_of_ofBracket ht)]
  exact ht

theorem ofKey_eq_wildcard {s t : List Char} (h : SameMarks s t) (ht : ofKey t = .wildcard) :
    ofKey s = .wildcard := by
  have hstar : t = ['*'] := by
    unfold ofKey at ht
    split at ht
    · assumption
    · cases ht
  rw [h.eq_of_marks (by simp [hstar, isMark]), ht]

/-- Inside a bracket other characters are taken up to the next mark. -/
theorem ofTail_append {image : List Char} (himage : ∀ d ∈ image, isMark d = false)
    (inner t : List Char) :
    ofTail (some inner) (image ++ t) = ofTail (some (image.reverse ++ inner)) t := by
  induction image generalizing inner with
  | nil => rfl
  | cons d image ih =>
    have hd : d ≠ ']' := by
      rintro rfl
      exact absurd (himage _ List.mem_cons_self) (by decide)
    rw [List.cons_append, ofTail, if_neg hd, ih fun c hc => himage c (List.mem_cons_of_mem d hc)]
    simp

/-- A wildcard of a bracketed tail is one of every tail with the same marks. -/
theorem wildcard_mem_ofTail {s t : List Char} (h : SameMarks s t) :
    (.wildcard ∈ ofTail none t → .wildcard ∈ ofTail none s) ∧
      ∀ a b, SameMarks a.reverse b.reverse →
        .wildcard ∈ ofTail (some b) t → .wildcard ∈ ofTail (some a) s := by
  -- along the common marks: a bracket opens, goes on and closes in both tails together
  induction h with
  | nil => simp [ofTail]
  | @mark c s t hc h ih =>
    refine ⟨fun ht => ?_, fun a b hab ht => ?_⟩
    · rw [ofTail] at ht ⊢
      split at ht
      · rename_i hopen
        rw [if_pos hopen]
        exact ih.2 [] [] .nil ht
      · simp at ht
    · rw [ofTail] at ht ⊢
      split at ht
      · rename_i hclose
        rw [if_pos hclose]
        rcases List.mem_cons.mp ht with ht | ht
        · exact List.mem_cons.mpr (.inl (ofBracket_eq_wildcard hab ht.symm).symm)
        · exact List.mem_cons_of_mem _ (ih.1 ht)
      · rename_i hinside
        rw [if_neg hinside]
        refine ih.2 (c :: a) (c :: b) ?_ ht
        rw [List.reverse_cons, List.reverse_cons]
        exact hab.append (.mark hc .nil)
  | @other c image s t hc hne himage _ ih =>
    refine ⟨fun ht => ?_, fun a b hab ht => ?_⟩
    · obtain ⟨d, rest, rfl⟩ := List.exists_cons_of_ne_nil hne
      have hd : d ≠ '[' := by
        rintro rfl
        exact absurd (himage _ List.mem_cons_self) (by decide)
      rw [List.cons_append, ofTail, if_neg hd] at ht
      simp at ht
    · rw [ofTail_append himage] at ht
      have hmark : ∀ d ∈ [c], isMark d = false := by simpa using hc
      have hone := ofTail_append hmark a s
      rw [List.singleton_append] at hone
      rw [hone]
      refine ih.2 _ _ ?_ ht
      rw [List.reverse_append, List.reverse_append, List.reverse_reverse, List.reverse_reverse]
      have himage' : SameMarks [c] (image ++ []) := .other hc hne himage .nil
      rw [List.append_nil] at himage'
      exact hab.append himage'

theorem wildcard_mem_ofPart {s t : List Char} (h : SameMarks s t)
    (ht : .wildcard ∈ ofPart t) : .wildcard ∈ ofPart s := by
  have hopen : ∀ c, isMark c = false → decide (c ≠ '[') = true := by
    intro c hc
    refine decide_eq_true ?_
    rintro rfl
    cases hc
  obtain ⟨hhead, htail⟩ := h.span hopen
  have hempty := hhead.nil_iff
  simp only [ofPart, List.isEmpty_iff] at ht ⊢
  split at ht
  · rename_i he
    rw [if_pos (hempty.mpr he)]
    exact (wildcard_mem_ofTail htail).1 ht
  · rename_i he
    rw [if_neg fun e => he (hempty.mp e), List.mem_cons]
    rcases List.mem_cons.mp ht with ht | ht
    · exact .inl (ofKey_eq_wildcard hhead ht.symm).symm
    · exact .inr ((wildcard_mem_ofTail htail).1 ht)

/-- Other characters between the same marks bring no wildcard. -/
theorem wildcard_mem_ofPath {s t : String} (h : SameMarks s.toList t.toList)
    (ht : .wildcard ∈ ofPath t) : .wildcard ∈ ofPath s := by
  have pieces := h.split (m := '.') (by decide)
  unfold ofPath at ht ⊢
  generalize s.toList.splitOn '.' = ps at pieces ⊢
  generalize t.toList.splitOn '.' = qs at pieces ht
  revert ht
  induction pieces with
  | nil => exact id
  | @cons p q ps qs hpq _ ih =>
    have hne : (!p.isEmpty) = !q.isEmpty := by
      rw [Bool.eq_iff_iff]
      simpa using not_congr hpq.nil_iff
    rw [List.filter_cons, List.filter_cons, hne]
    split
    · rw [List.flatMap_cons, List.flatMap_cons, List.mem_append, List.mem_append]
      exact Or.imp (wildcard_mem_ofPart hpq) ih
    · exact ih

end Segment

end RequestValidation
