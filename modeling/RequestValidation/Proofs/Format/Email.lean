import Mathlib.Data.List.Basic
import RequestValidation.Format.Email
import RequestValidation.Proofs.Rule.Numbers
import RequestValidation.Proofs.Text.Pieces
/-!
# The grammar of e-mail addresses

An address is a name and a domain with the sign between them. Points divide the name into atoms and
the domain into labels, at least two; the last label is a word of letters. The reader keeps no
pieces: it goes through the text once, and knows of the name only whether an atom has begun and of
the domain only whether a label came before.

Results:
* `afterLocalPart_eq_some_iff`: where the name ends, from any state of the reader.
* `isDomain_iff`: which labels may still come, from any state of the reader.
* `isEmail_iff`, `accepts_isEmail_iff`: the reader and the validator accept the grammar.
-/
namespace RequestValidation.Format

/-! ## Grammar -/

/-- A character of an atom. -/
def AtomChar (c : Char) : Prop :=
  c.isAlphanum = true ∨ c ∈ "!#$%&'*+/=?^_\x60\x7b|\x7d~-".toList

/-- A part of the name in front of the sign. -/
structure Atom (cs : List Char) : Prop where
  ne_nil : cs ≠ []
  chars : ∀ c ∈ cs, AtomChar c

/-- A part of the domain: letters, digits and hyphens, with none of the hyphens at an end. -/
structure HostLabel (cs : List Char) : Prop where
  ne_nil : cs ≠ []
  length_le : cs.length ≤ 63
  chars : ∀ c ∈ cs, c.isAlphanum = true ∨ c = '-'
  head : cs.head? ≠ some '-'
  last : cs.getLast? ≠ some '-'

/-- The last part of the domain. -/
structure TopLabel (cs : List Char) : Prop where
  two_le_length : 2 ≤ cs.length
  chars : ∀ c ∈ cs, c.isAlpha = true

/-- The labels of a domain, those in front and the last one. -/
structure Domain (labels : List (List Char)) (top : List Char) : Prop where
  ne_nil : labels ≠ []
  labels : ∀ label ∈ labels, HostLabel label
  top : TopLabel top

/-- An address by its parts. -/
inductive Address : List Char → Prop
  | mk {name domain : List Char} {labels : List (List Char)} {top : List Char}
    (hname : ∀ atom ∈ name.splitOn '.', Atom atom) (hdomain : domain.splitOn '.' = labels ++ [top])
    (hlabels : Domain labels top) : Address (name ++ '@' :: domain)

/-! ## Characters and labels -/

theorem isAtomChar_iff {c : Char} : isAtomChar c = true ↔ AtomChar c := by
  simp only [isAtomChar, AtomChar, Bool.or_eq_true, List.contains_iff_mem]

theorem isHostLabel_iff {cs : List Char} : isHostLabel cs = true ↔ HostLabel cs := by
  simp only [isHostLabel, isLabelChar, Bool.and_eq_true, Bool.not_eq_true',
    List.isEmpty_eq_false_iff, decide_eq_true_eq, List.all_eq_true, Bool.or_eq_true, bne_iff_ne]
  constructor
  · rintro ⟨⟨⟨⟨hne, hlength⟩, hchars⟩, hhead⟩, hlast⟩
    exact ⟨hne, hlength, hchars, hhead, hlast⟩
  · rintro ⟨hne, hlength, hchars, hhead, hlast⟩
    exact ⟨⟨⟨⟨hne, hlength⟩, hchars⟩, hhead⟩, hlast⟩

theorem isTopLabel_iff {cs : List Char} : isTopLabel cs = true ↔ TopLabel cs := by
  simp only [isTopLabel, Bool.and_eq_true, decide_eq_true_eq, List.all_eq_true]
  exact ⟨fun ⟨h, h'⟩ => ⟨h, h'⟩, fun ⟨h, h'⟩ => ⟨h, h'⟩⟩

/-! ## The name -/

/-- The atoms that are still to come behind the beginning of one. -/
def AtomsFrom (started : Bool) : List (List Char) → Prop
  | [] => False
  | first :: atoms =>
    (started = true ∨ first ≠ []) ∧ (∀ c ∈ first, AtomChar c) ∧ ∀ atom ∈ atoms, Atom atom

theorem atomsFrom_false_iff {pieces : List (List Char)} (h : pieces ≠ []) :
    AtomsFrom false pieces ↔ ∀ atom ∈ pieces, Atom atom := by
  cases pieces with
  | nil => exact absurd rfl h
  | cons first atoms =>
    simp only [AtomsFrom, Bool.false_eq_true, false_or, List.forall_mem_cons, ← and_assoc]
    exact and_congr_left fun _ => ⟨fun ⟨h, h'⟩ => ⟨h, h'⟩, fun ⟨h, h'⟩ => ⟨h, h'⟩⟩

theorem atomsFrom_cons {started : Bool} {c : Char} {pieces : List (List Char)} :
    AtomsFrom started (pieces.modifyHead (c :: ·)) ↔ AtomChar c ∧ AtomsFrom true pieces := by
  cases pieces with
  | nil => simp [AtomsFrom]
  | cons first atoms => simp [AtomsFrom, and_assoc]

theorem atomsFrom_point {started : Bool} {pieces : List (List Char)} (h : pieces ≠ []) :
    AtomsFrom started ([] :: pieces) ↔ started = true ∧ AtomsFrom false pieces := by
  rw [atomsFrom_false_iff h]
  simp [AtomsFrom]

theorem afterLocalPart_eq_some_iff {started : Bool} {cs domain : List Char} :
    afterLocalPart started cs = some domain ↔
      ∃ name, cs = name ++ '@' :: domain ∧ AtomsFrom started (name.splitOn '.') := by
  induction cs generalizing started with
  | nil => simp [afterLocalPart]
  | cons c rest ih =>
    have hpoint : isAtomChar '.' = false := by decide
    have hsign : isAtomChar '@' = false := by decide
    rw [afterLocalPart]
    constructor
    · intro h
      split at h
      · rename_i hc
        obtain ⟨name, rfl, hname⟩ := ih.mp h
        have hne : c ≠ '.' := by
          rintro rfl
          rw [hpoint] at hc
          cases hc
        refine ⟨c :: name, rfl, ?_⟩
        rw [Text.splitOn_cons_of_ne hne, atomsFrom_cons]
        exact ⟨isAtomChar_iff.mp hc, hname⟩
      · split at h
        · rename_i hc
          obtain ⟨rfl, hstarted⟩ := hc
          obtain ⟨name, rfl, hname⟩ := ih.mp h
          refine ⟨'.' :: name, rfl, ?_⟩
          rw [Text.splitOn_cons_self, atomsFrom_point (List.splitOn_ne_nil _ _)]
          exact ⟨hstarted, hname⟩
        · split at h
          · rename_i hc
            obtain ⟨rfl, hstarted⟩ := hc
            obtain rfl := Option.some.inj h
            exact ⟨[], rfl, .inl hstarted, nofun, nofun⟩
          · cases h
    · rintro ⟨name, heq, hname⟩
      cases name with
      | nil =>
        obtain ⟨rfl, rfl⟩ := List.cons.inj heq
        have hstarted : started = true := hname.1.resolve_right fun h => h rfl
        simp [hsign, hstarted]
      | cons d name =>
        obtain ⟨rfl, rfl⟩ := List.cons.inj heq
        by_cases hc : c = '.'
        · subst hc
          rw [Text.splitOn_cons_self, atomsFrom_point (List.splitOn_ne_nil _ _)] at hname
          rw [if_neg (by simp [hpoint]), if_pos ⟨rfl, hname.1⟩]
          exact ih.mpr ⟨name, rfl, hname.2⟩
        · rw [Text.splitOn_cons_of_ne hc, atomsFrom_cons, ← isAtomChar_iff] at hname
          rw [if_pos hname.1]
          exact ih.mpr ⟨name, rfl, hname.2⟩

/-! ## The domain -/

/-- The labels that are still to come. -/
def LabelsFrom (others : Bool) : List (List Char) → Prop
  | [] => False
  | [top] => others = true ∧ TopLabel top
  | label :: labels => HostLabel label ∧ LabelsFrom true labels

theorem labelsFrom_cons {others : Bool} {label : List Char} {labels : List (List Char)}
    (h : labels ≠ []) :
    LabelsFrom others (label :: labels) ↔ HostLabel label ∧ LabelsFrom true labels := by
  cases labels with
  | nil => exact absurd rfl h
  | cons next labels => rfl

theorem labelsFrom_append {others : Bool} {labels : List (List Char)} {top : List Char} :
    LabelsFrom others (labels ++ [top]) ↔
      (others = true ∨ labels ≠ []) ∧ (∀ label ∈ labels, HostLabel label) ∧ TopLabel top := by
  induction labels generalizing others with
  | nil => simp [LabelsFrom]
  | cons label labels ih =>
    rw [List.cons_append, labelsFrom_cons (by simp), ih]
    simp [and_assoc]

theorem labelsFrom_false_iff {pieces : List (List Char)} :
    LabelsFrom false pieces ↔ ∃ labels top, pieces = labels ++ [top] ∧ Domain labels top := by
  constructor
  · intro h
    rcases List.eq_nil_or_concat pieces with rfl | ⟨labels, top, rfl⟩
    · cases h
    · rw [List.concat_eq_append, labelsFrom_append] at h
      obtain ⟨hsome, hlabels, htop⟩ := h
      exact ⟨labels, top, List.concat_eq_append, hsome.resolve_left Bool.false_ne_true, hlabels,
        htop⟩
  · rintro ⟨labels, top, rfl, hsome, hlabels, htop⟩
    exact labelsFrom_append.mpr ⟨.inr hsome, hlabels, htop⟩

theorem modifyHead_nil_append (pieces : List (List Char)) :
    pieces.modifyHead (([] : List Char).reverse ++ ·) = pieces := by
  cases pieces <;> rfl

theorem isDomain_iff {others : Bool} {label cs : List Char} :
    isDomain others label cs = true ↔
      LabelsFrom others ((cs.splitOn '.').modifyHead (label.reverse ++ ·)) := by
  induction cs generalizing others label with
  | nil => simp [isDomain, LabelsFrom, isTopLabel_iff]
  | cons c rest ih =>
    rw [isDomain]
    split
    · rename_i hc
      subst hc
      rw [Bool.and_eq_true, isHostLabel_iff, ih, modifyHead_nil_append, Text.splitOn_cons_self,
        List.modifyHead_cons, List.append_nil, labelsFrom_cons (List.splitOn_ne_nil _ _)]
    · rename_i hc
      rw [ih, Text.splitOn_cons_of_ne hc, List.modifyHead_modifyHead, List.reverse_cons]
      simp [Function.comp_def]

/-- The reader of addresses goes by the grammar. -/
theorem isEmail_iff {text : String} :
    isEmail text = true ↔ text.utf8ByteSize ≤ 254 ∧ Address text.toList := by
  have hdomain (domain : List Char) : isDomain false [] domain = true ↔
      ∃ labels top, domain.splitOn '.' = labels ++ [top] ∧ Domain labels top := by
    rw [isDomain_iff, modifyHead_nil_append, labelsFrom_false_iff]
  unfold isEmail maxEmailBytes
  generalize text.toList = cs
  rw [Bool.and_eq_true, decide_eq_true_eq]
  refine and_congr_right fun _ => ?_
  constructor
  · intro h
    split at h
    · rename_i domain hname
      obtain ⟨name, rfl, hatoms⟩ := afterLocalPart_eq_some_iff.mp hname
      obtain ⟨labels, top, hlabels, h⟩ := (hdomain domain).mp h
      exact .mk ((atomsFrom_false_iff (List.splitOn_ne_nil _ _)).mp hatoms) hlabels h
    · cases h
  · rintro ⟨hatoms, hlabels, h⟩
    rename_i name domain labels top
    have hname : afterLocalPart false (name ++ '@' :: domain) = some domain :=
      afterLocalPart_eq_some_iff.mpr
        ⟨name, rfl, (atomsFrom_false_iff (List.splitOn_ne_nil _ _)).mpr hatoms⟩
    rw [hname]
    exact (hdomain domain).mpr ⟨labels, top, hlabels, h⟩

end RequestValidation.Format

namespace RequestValidation.Rule

/-- The validator goes by the reader. -/
theorem accepts_isEmail_iff (args : Arguments) (t : String) :
    isEmail.Accepts args t ↔ t.utf8ByteSize ≤ 254 ∧ Format.Address t.toList := by
  rw [accepts_iff_passes fun _ => rfl, ← Format.isEmail_iff]
  constructor
  · rintro ⟨test, htest, hpasses⟩
    obtain rfl := Except.ok.inj htest
    exact hpasses
  · intro h
    exact ⟨.email, rfl, h⟩

end RequestValidation.Rule
