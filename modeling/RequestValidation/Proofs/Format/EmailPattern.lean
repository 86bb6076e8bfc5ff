import Mathlib
import RequestValidation.Proofs.Format.Email
/-!
# Addresses as one pattern

An address is often written as one regular pattern: an atom and any number of points with an atom,
the sign, a label and any number of points with a label, a point and the last label. A text has many
divisions into such parts, as the last label may be one of the others as well. The language of the
pattern is the grammar by pieces all the same, and so what the reader accepts.

Results:
* `mem_joined_iff`: any number of words with points between them are the pieces of a text.
* `mem_hostLabel_iff`, `mem_topLabel_iff`, `mem_atom_iff`: the parts of the pattern.
* `mem_pattern_iff`: the pattern is the grammar.
* `email_language`: the validator accepts the grammar, which is the pattern.
-/
namespace RequestValidation.Format

open scoped Computability

/-! ## Patterns -/

/-- One character of a class. -/
def one (p : Char → Prop) : Language Char := {cs | ∃ c, cs = [c] ∧ p c}

/-- One word, and any number of points with a word behind. -/
def joined (l : Language Char) : Language Char := l * (one (· = '.') * l)∗

variable {p : Char → Prop} {l : Language Char} {c : Char} {cs : List Char}

theorem mem_one_mul_iff : cs ∈ one p * l ↔ ∃ c rest, cs = c :: rest ∧ p c ∧ rest ∈ l := by
  rw [Language.mem_mul]
  constructor
  · rintro ⟨_, ⟨c, rfl, hc⟩, rest, hrest, rfl⟩
    exact ⟨c, rest, rfl, hc, hrest⟩
  · rintro ⟨c, rest, rfl, hc, hrest⟩
    exact ⟨[c], ⟨c, rfl, hc⟩, rest, hrest, rfl⟩

theorem mem_mul_one_iff : cs ∈ l * one p ↔ ∃ front c, cs = front ++ [c] ∧ front ∈ l ∧ p c := by
  rw [Language.mem_mul]
  constructor
  · rintro ⟨front, hfront, _, ⟨c, rfl, hc⟩, rfl⟩
    exact ⟨front, c, rfl, hfront, hc⟩
  · rintro ⟨front, c, rfl, hfront, hc⟩
    exact ⟨front, hfront, [c], ⟨c, rfl, hc⟩, rfl⟩

/-- Any number of characters of a class. -/
theorem mem_one_star_iff : cs ∈ (one p)∗ ↔ ∀ c ∈ cs, p c := by
  rw [Language.mem_kstar]
  constructor
  · rintro ⟨words, rfl, hwords⟩ c hc
    obtain ⟨word, hword, hc⟩ := List.mem_flatten.mp hc
    obtain ⟨d, rfl, hd⟩ := hwords word hword
    rwa [List.mem_singleton.mp hc]
  · intro h
    refine ⟨cs.map ([·]), ?_, fun word hword => ?_⟩
    · induction cs with
      | nil => rfl
      | cons c cs ih => simpa using ih fun d hd => h d (List.mem_cons_of_mem c hd)
    · obtain ⟨c, hc, rfl⟩ := List.mem_map.mp hword
      exact ⟨c, rfl, h c hc⟩

/-- At most so many characters of a class. -/
theorem mem_optional_pow_iff {n : Nat} :
    cs ∈ (1 + one p) ^ n ↔ cs.length ≤ n ∧ ∀ c ∈ cs, p c := by
  induction n generalizing cs with
  | zero =>
    rw [pow_zero, Language.mem_one, Nat.le_zero, List.length_eq_zero_iff]
    exact ⟨fun h => ⟨h, by simp [h]⟩, And.left⟩
  | succ n ih =>
    rw [pow_succ', add_mul, one_mul, Language.mem_add, ih, mem_one_mul_iff]
    constructor
    · rintro (⟨hlength, h⟩ | ⟨c, rest, rfl, hc, hrest⟩)
      · exact ⟨Nat.le_succ_of_le hlength, h⟩
      · rw [ih] at hrest
        exact ⟨Nat.succ_le_succ hrest.1, List.forall_mem_cons.mpr ⟨hc, hrest.2⟩⟩
    · rintro ⟨hlength, h⟩
      cases cs with
      | nil => exact .inl ⟨Nat.zero_le n, h⟩
      | cons c rest =>
        obtain ⟨hc, hrest⟩ := List.forall_mem_cons.mp h
        exact .inr ⟨c, rest, rfl, hc, ih.mpr ⟨Nat.le_of_succ_le_succ hlength, hrest⟩⟩

/-- Words without points and the points between them are the pieces of a text. -/
theorem mem_joined_iff (hl : ∀ {word}, word ∈ l → '.' ∉ word) :
    cs ∈ joined l ↔ ∀ piece ∈ cs.splitOn '.', piece ∈ l := by
  constructor
  · rw [joined, Language.mem_mul]
    rintro ⟨word, hword, _, ⟨parts, rfl, hparts⟩, rfl⟩
    induction parts generalizing word with
    | nil =>
      rw [List.flatten_nil, List.append_nil, List.splitOn_eq_singleton (hl hword)]
      exact List.forall_mem_singleton.mpr hword
    | cons part parts ih =>
      obtain ⟨hpart, hmore⟩ := List.forall_mem_cons.mp hparts
      obtain ⟨_, next, rfl, rfl, hnext⟩ := mem_one_mul_iff.mp hpart
      rw [List.flatten_cons, List.cons_append, List.splitOn_append_cons_self,
        List.splitOn_eq_singleton (hl hword)]
      exact List.forall_mem_cons.mpr ⟨hword, ih next hnext hmore⟩
  · intro h
    generalize hpieces : cs.splitOn '.' = pieces at h
    induction pieces generalizing cs with
    | nil => exact absurd hpieces (List.splitOn_ne_nil '.' cs)
    | cons word pieces ih =>
      obtain ⟨hword, hmore⟩ := List.forall_mem_cons.mp h
      cases pieces with
      | nil =>
        rw [Text.eq_of_splitOn_singleton hpieces, ← List.append_nil word]
        exact Language.append_mem_mul hword (Language.nil_mem_kstar _)
      | cons next pieces =>
        obtain ⟨u, v, rfl, hu, hv⟩ := Text.exists_of_splitOn_append (List.cons_ne_nil word [])
          (List.cons_ne_nil next pieces) hpieces
        obtain ⟨first, hfirst, _, ⟨parts, rfl, hparts⟩, rfl⟩ := Language.mem_mul.mp (ih hv hmore)
        rw [Text.eq_of_splitOn_singleton hu]
        refine Language.append_mem_mul hword ⟨('.' :: first) :: parts, rfl, ?_⟩
        exact List.forall_mem_cons.mpr ⟨mem_one_mul_iff.mpr ⟨'.', first, rfl, rfl, hfirst⟩, hparts⟩

/-! ## The pattern -/

/-- Characters of an atom. -/
def atom : Language Char := one AtomChar * (one AtomChar)∗

/-- A letter or digit, and behind it letters, digits and hyphens of which the last is no hyphen. -/
def hostLabel : Language Char :=
  one (·.isAlphanum = true) *
    (1 + (1 + one fun c => c.isAlphanum = true ∨ c = '-') ^ 61 * one (·.isAlphanum = true))

/-- Letters, at least two. -/
def topLabel : Language Char :=
  one (·.isAlpha = true) * (one (·.isAlpha = true) * (one (·.isAlpha = true))∗)

/-- An address from its first to its last character. -/
def pattern : Language Char :=
  joined atom * (one (· = '@') * (joined hostLabel * (one (· = '.') * topLabel)))

theorem mem_atom_iff : cs ∈ atom ↔ Atom cs := by
  rw [atom, mem_one_mul_iff]
  constructor
  · rintro ⟨c, rest, rfl, hc, hrest⟩
    exact ⟨List.cons_ne_nil c rest, List.forall_mem_cons.mpr ⟨hc, mem_one_star_iff.mp hrest⟩⟩
  · rintro ⟨hne, hchars⟩
    obtain ⟨c, rest, rfl⟩ := List.exists_cons_of_ne_nil hne
    obtain ⟨hc, hrest⟩ := List.forall_mem_cons.mp hchars
    exact ⟨c, rest, rfl, hc, mem_one_star_iff.mpr hrest⟩

theorem mem_topLabel_iff : cs ∈ topLabel ↔ TopLabel cs := by
  rw [topLabel, mem_one_mul_iff]
  simp only [mem_one_mul_iff, mem_one_star_iff]
  constructor
  · rintro ⟨c, _, rfl, hc, d, rest, rfl, hd, hrest⟩
    exact ⟨Nat.le_add_left 2 rest.length,
      List.forall_mem_cons.mpr ⟨hc, List.forall_mem_cons.mpr ⟨hd, hrest⟩⟩⟩
  · rintro ⟨hlength, hchars⟩
    rcases cs with _ | ⟨c, _ | ⟨d, rest⟩⟩
    · exact absurd hlength (by decide)
    · exact absurd hlength (by simp)
    · obtain ⟨hc, hchars⟩ := List.forall_mem_cons.mp hchars
      obtain ⟨hd, hrest⟩ := List.forall_mem_cons.mp hchars
      exact ⟨c, _, rfl, hc, d, rest, rfl, hd, hrest⟩

theorem ne_hyphen_of_isAlphanum (h : c.isAlphanum = true) : c ≠ '-' := by
  rintro rfl
  cases h

theorem mem_hostLabel_iff : cs ∈ hostLabel ↔ HostLabel cs := by
  rw [hostLabel, mem_one_mul_iff]
  simp only [Language.mem_add, Language.mem_one, mem_mul_one_iff, mem_optional_pow_iff]
  constructor
  · rintro ⟨c, rest, rfl, hc, rfl | ⟨mid, d, rfl, ⟨hlength, hmid⟩, hd⟩⟩
    · have hne : some c ≠ some '-' := (ne_hyphen_of_isAlphanum hc <| Option.some.inj ·)
      exact ⟨List.cons_ne_nil c [], by simp, List.forall_mem_singleton.mpr (.inl hc), hne, hne⟩
    · refine ⟨List.cons_ne_nil c _, ?_, ?_, ?_, ?_⟩
      · simp only [List.length_cons, List.length_append, List.length_nil]
        omega
      · refine List.forall_mem_cons.mpr ⟨.inl hc, List.forall_mem_append.mpr ⟨hmid, ?_⟩⟩
        exact List.forall_mem_singleton.mpr (.inl hd)
      · exact (ne_hyphen_of_isAlphanum hc <| Option.some.inj ·)
      · rw [← List.cons_append, List.getLast?_concat]
        exact (ne_hyphen_of_isAlphanum hd <| Option.some.inj ·)
  · rintro ⟨hne, hlength, hchars, hhead, hlast⟩
    obtain ⟨c, rest, rfl⟩ := List.exists_cons_of_ne_nil hne
    obtain ⟨hc, hrest⟩ := List.forall_mem_cons.mp hchars
    refine ⟨c, rest, rfl, hc.resolve_right (hhead <| congrArg some ·), ?_⟩
    rcases List.eq_nil_or_concat rest with rfl | ⟨mid, d, rfl⟩
    · exact .inl rfl
    · rw [List.concat_eq_append] at hrest hlength hlast ⊢
      rw [← List.cons_append, List.getLast?_concat] at hlast
      obtain ⟨hmid, hd⟩ := List.forall_mem_append.mp hrest
      refine .inr ⟨mid, d, rfl, ⟨?_, hmid⟩, ?_⟩
      · simp only [List.length_cons, List.length_append, List.length_nil] at hlength
        omega
      · exact (hd d (List.mem_singleton.mpr rfl)).resolve_right (hlast <| congrArg some ·)

theorem not_mem_atom {word : List Char} (h : word ∈ atom) : '.' ∉ word := by
  intro hpoint
  have hchar := (mem_atom_iff.mp h).chars '.' hpoint
  rw [← isAtomChar_iff] at hchar
  cases hchar

theorem not_mem_hostLabel {word : List Char} (h : word ∈ hostLabel) : '.' ∉ word := by
  intro hpoint
  rcases (mem_hostLabel_iff.mp h).chars '.' hpoint with hchar | hchar
  · cases hchar
  · cases hchar

theorem not_mem_topLabel {word : List Char} (h : word ∈ topLabel) : '.' ∉ word := by
  intro hpoint
  cases (mem_topLabel_iff.mp h).chars '.' hpoint

/-- The labels in front of the last point are those in front of the last label. -/
theorem mem_domain_iff :
    cs ∈ joined hostLabel * (one (· = '.') * topLabel) ↔
      ∃ labels top, cs.splitOn '.' = labels ++ [top] ∧ Domain labels top := by
  rw [Language.mem_mul]
  constructor
  · rintro ⟨front, hfront, _, hlast, rfl⟩
    obtain ⟨_, top, rfl, rfl, htop⟩ := mem_one_mul_iff.mp hlast
    refine ⟨front.splitOn '.', top, ?_, List.splitOn_ne_nil _ _, fun label hlabel => ?_,
      mem_topLabel_iff.mp htop⟩
    · rw [List.splitOn_append_cons_self, List.splitOn_eq_singleton (not_mem_topLabel htop)]
    · exact mem_hostLabel_iff.mp ((mem_joined_iff not_mem_hostLabel).mp hfront label hlabel)
  · rintro ⟨labels, top, h, hne, hlabels, htop⟩
    obtain ⟨front, last, rfl, rfl, hlast⟩ :=
      Text.exists_of_splitOn_append hne (List.cons_ne_nil top []) h
    rw [Text.eq_of_splitOn_singleton hlast]
    refine ⟨front, (mem_joined_iff not_mem_hostLabel).mpr fun label hlabel => ?_, _,
      mem_one_mul_iff.mpr ⟨'.', top, rfl, rfl, mem_topLabel_iff.mpr htop⟩, rfl⟩
    exact mem_hostLabel_iff.mpr (hlabels label hlabel)

/-- The pattern is the grammar. -/
theorem mem_pattern_iff : cs ∈ pattern ↔ Address cs := by
  have hatoms (name : List Char) : name ∈ joined atom ↔ ∀ piece ∈ name.splitOn '.', Atom piece := by
    simp only [mem_joined_iff not_mem_atom, mem_atom_iff]
  rw [pattern, Language.mem_mul]
  constructor
  · rintro ⟨name, hname, _, hbehind, rfl⟩
    obtain ⟨_, domain, rfl, rfl, hdomain⟩ := mem_one_mul_iff.mp hbehind
    obtain ⟨labels, top, h, hlabels⟩ := mem_domain_iff.mp hdomain
    exact .mk ((hatoms name).mp hname) h hlabels
  · rintro ⟨hname, h, hlabels⟩
    exact ⟨_, (hatoms _).mpr hname, _,
      mem_one_mul_iff.mpr ⟨'@', _, rfl, rfl, mem_domain_iff.mpr ⟨_, _, h, hlabels⟩⟩, rfl⟩

end RequestValidation.Format

namespace RequestValidation.Rule

/-- **The validator accepts the addresses of at most 254 bytes**, and nothing else. The pattern
matches the same addresses, in whatever ways a text can be divided. -/
theorem email_language (args : Arguments) (t : String) :
    (isEmail.Accepts args t ↔ t.utf8ByteSize ≤ 254 ∧ Format.Address t.toList) ∧
      (t.toList ∈ Format.pattern ↔ Format.Address t.toList) :=
  ⟨accepts_isEmail_iff args t, Format.mem_pattern_iff⟩

end RequestValidation.Rule
