import RequestValidation.Rule.Change
/-!
# Escaped markup

The escaping sanitizer writes eight characters as entities and leaves all others alone. No entity
holds an ampersand but at its front, so a reader that looks for entities from left to right finds
the ones that were written and no others, whatever the text looked like before.

Results:
* `escapeMarkupChar_of_mem`, `escapeMarkupChar_of_not_mem`: which characters become entities.
* `unescape_escapeMarkup`: a pass over an escaped text gives the text back.
* `starts_entity`: the ampersands of an escaped text stand at the front of entities.
* `escape_safe_and_reversible`: escaped texts are safe, escaping is injective and goes through
  appended texts.
-/
namespace RequestValidation.Change

/-- The characters of markup, each with its entity. -/
def entities : List (Char × List Char) :=
  [('&', "&amp;".toList), ('"', "&quot;".toList), ('\'', "&#x27;".toList), ('<', "&lt;".toList),
    ('>', "&gt;".toList), ('/', "&#x2F;".toList), ('\\', "&#x5C;".toList),
    ('\x60', "&#96;".toList)]

/-- The characters that may not stand in an escaped text at all. -/
def markup : List Char := ['<', '>', '"', '\'', '/', '\\', '\x60']

/-- The character of the entity at the front of a text, and what follows. -/
def readEntity? (cs : List Char) : Option (Char × List Char) :=
  (entities.find? fun p => p.2.isPrefixOf cs).map fun p => (p.1, cs.drop p.2.length)

/-! ## Entities -/

/-- An ampersand stands at the front of each entity and nowhere else in it. -/
theorem entity_eq_cons : ∀ p ∈ entities, ∃ name, p.2 = '&' :: name ∧ '&' ∉ name := by
  simp [entities]

theorem not_markup_of_mem_entity : ∀ p ∈ entities, ∀ c ∈ p.2, c ∉ markup := by
  simp [entities, markup]

theorem mem_entities_iff (p : Char × List Char) :
    p ∈ entities ↔ p = ('&', "&amp;".toList) ∨ p = ('"', "&quot;".toList) ∨
      p = ('\'', "&#x27;".toList) ∨ p = ('<', "&lt;".toList) ∨ p = ('>', "&gt;".toList) ∨
      p = ('/', "&#x2F;".toList) ∨ p = ('\\', "&#x5C;".toList) ∨ p = ('\x60', "&#96;".toList) := by
  simp only [entities, List.mem_cons, List.not_mem_nil, or_false]

theorem readEntity?_entity {p : Char × List Char} (hp : p ∈ entities) (rest : List Char) :
    readEntity? (p.2 ++ rest) = some (p.1, rest) := by
  rcases (mem_entities_iff p).mp hp with rfl | rfl | rfl | rfl | rfl | rfl | rfl | rfl <;> rfl

theorem readEntity?_of_ne {c : Char} (hc : c ≠ '&') (rest : List Char) :
    readEntity? (c :: rest) = none := by
  rw [readEntity?, Option.map_eq_none_iff, List.find?_eq_none]
  intro p hp hprefix
  obtain ⟨name, hname, -⟩ := entity_eq_cons p hp
  rw [hname, List.isPrefixOf, Bool.and_eq_true, beq_iff_eq] at hprefix
  exact hc hprefix.1.symm

/-- Reading an entity takes characters from the text. -/
theorem length_of_readEntity? {cs rest : List Char} {c : Char}
    (h : readEntity? cs = some (c, rest)) : rest.length < cs.length := by
  obtain ⟨p, hp, he⟩ := Option.map_eq_some_iff.mp h
  have hfound := List.find?_some hp
  have hprefix : p.2 <+: cs := List.isPrefixOf_iff_prefix.mp hfound
  obtain ⟨name, hname, -⟩ := entity_eq_cons p (List.mem_of_find?_eq_some hp)
  have hlength := hprefix.length_le
  have hpos : 0 < p.2.length := by rw [hname]; simp
  obtain rfl := (Prod.mk.inj he).2
  rw [List.length_drop]
  omega

/-- One pass over a text from left to right, in which each entity becomes its character. -/
def unescape (cs : List Char) : List Char :=
  match _h : readEntity? cs with
  | some (c, rest) => c :: unescape rest
  | none =>
    match cs with
    | [] => []
    | c :: rest => c :: unescape rest
termination_by cs.length
decreasing_by
  · exact length_of_readEntity? _h
  · simp

theorem unescape_entity {p : Char × List Char} (hp : p ∈ entities) (rest : List Char) :
    unescape (p.2 ++ rest) = p.1 :: unescape rest := by
  rw [unescape]
  split
  · rename_i c after h
    rw [readEntity?_entity hp, Option.some.injEq, Prod.mk.injEq] at h
    rw [h.1, h.2]
  · rename_i h
    rw [readEntity?_entity hp] at h
    cases h

theorem unescape_cons {c : Char} (hc : c ≠ '&') (rest : List Char) :
    unescape (c :: rest) = c :: unescape rest := by
  rw [unescape]
  split
  · rename_i h
    rw [readEntity?_of_ne hc] at h
    cases h
  · rfl

/-! ## What is written for a character -/

theorem escapeMarkupChar_of_mem {p : Char × List Char} (hp : p ∈ entities) :
    escapeMarkupChar p.1 = p.2 := by
  rcases (mem_entities_iff p).mp hp with rfl | rfl | rfl | rfl | rfl | rfl | rfl | rfl <;> rfl

theorem escapeMarkupChar_of_not_mem {c : Char} (h : c ∉ entities.map Prod.fst) :
    escapeMarkupChar c = [c] := by
  simp only [entities, List.map_cons, List.map_nil, List.mem_cons, List.not_mem_nil, or_false,
    not_or] at h
  simp [escapeMarkupChar, h]

/-- A character is written as its entity, or as itself if it is no markup. -/
theorem escapeMarkupChar_cases (c : Char) :
    (∃ p ∈ entities, p.1 = c ∧ escapeMarkupChar c = p.2) ∨
      c ≠ '&' ∧ c ∉ markup ∧ escapeMarkupChar c = [c] := by
  by_cases h : c ∈ entities.map Prod.fst
  · obtain ⟨p, hp, rfl⟩ := List.mem_map.mp h
    exact .inl ⟨p, hp, rfl, escapeMarkupChar_of_mem hp⟩
  · refine .inr ⟨?_, ?_, escapeMarkupChar_of_not_mem h⟩
    · rintro rfl
      exact h (by simp [entities])
    · intro hc
      have hall : ∀ d ∈ markup, d ∈ entities.map Prod.fst := by simp [markup, entities]
      exact h (hall c hc)

theorem escapeMarkup_cons (c : Char) (cs : List Char) :
    escapeMarkup (c :: cs) = escapeMarkupChar c ++ escapeMarkup cs := List.flatMap_cons

/-! ## Escaped texts -/

theorem not_markup_of_mem_escapeMarkup {cs : List Char} {c : Char} (hc : c ∈ escapeMarkup cs) :
    c ∉ markup := by
  obtain ⟨d, -, hd⟩ := List.mem_flatMap.mp hc
  rcases escapeMarkupChar_cases d with ⟨p, hp, -, he⟩ | ⟨-, hplain, he⟩
  · exact not_markup_of_mem_entity p hp c (he ▸ hd)
  · rw [he, List.mem_singleton] at hd
    rwa [hd]

/-- A suffix that begins with an ampersand does not begin in a part without one. -/
theorem suffix_of_not_mem {front cs rest : List Char} (h : '&' ∉ front)
    (hsuffix : '&' :: rest <:+ front ++ cs) : '&' :: rest <:+ cs := by
  induction front with
  | nil => exact hsuffix
  | cons d front ih =>
    rw [List.mem_cons, not_or] at h
    rw [List.cons_append, List.suffix_cons_iff] at hsuffix
    rcases hsuffix with heq | hsuffix
    · exact absurd (List.cons.inj heq).1 h.1
    · exact ih h.2 hsuffix

/-- Wherever an ampersand stands in an escaped text, an entity begins. -/
theorem starts_entity {cs rest : List Char} (h : '&' :: rest <:+ escapeMarkup cs) :
    ∃ p ∈ entities, p.2 <+: '&' :: rest := by
  induction cs with
  | nil => exact absurd (List.suffix_nil.mp h) (by simp)
  | cons c cs ih =>
    rw [escapeMarkup_cons] at h
    rcases escapeMarkupChar_cases c with ⟨p, hp, -, he⟩ | ⟨hc, -, he⟩
    · -- the ampersand is the one in front of this entity, or stands behind the entity
      obtain ⟨name, hname, hmem⟩ := entity_eq_cons p hp
      rw [he, hname, List.cons_append, List.suffix_cons_iff] at h
      rcases h with heq | h
      · exact ⟨p, hp, by rw [heq, hname, ← List.cons_append]; exact List.prefix_append _ _⟩
      · exact ih (suffix_of_not_mem hmem h)
    · rw [he] at h
      exact ih (suffix_of_not_mem (by simpa using hc.symm) h)

/-- A pass over an escaped text gives the text back, entities that stood in it included. -/
theorem unescape_escapeMarkup (cs : List Char) : unescape (escapeMarkup cs) = cs := by
  induction cs with
  | nil => rw [escapeMarkup, List.flatMap_nil, unescape]; rfl
  | cons c cs ih =>
    rw [escapeMarkup_cons]
    rcases escapeMarkupChar_cases c with ⟨p, hp, rfl, he⟩ | ⟨hc, -, he⟩
    · rw [he, unescape_entity hp, ih]
    · rw [he, List.singleton_append, unescape_cons hc, ih]

/-- The text that the escaping sanitizer leaves of a text. -/
def escaped (s : String) : String := String.ofList (escapeMarkup s.toList)

theorem toList_escaped (s : String) : (escaped s).toList = escapeMarkup s.toList :=
  String.toList_ofList

theorem change_escape (args : Arguments) (s : String) :
    Rule.escape.change args (some (.string s)) = .ok (some (.string (escaped s))) := rfl

theorem escaped_append (s t : String) : escaped (s ++ t) = escaped s ++ escaped t := by
  rw [escaped, String.toList_append, escapeMarkup_append, String.ofList_append]
  rfl

/-- **Escaping is safe and can be undone.** The sanitizer makes of every text one without markup
characters, in which each ampersand begins one of the entities that stand for such characters. A
pass from left to right that puts the characters back gives the text again, so no two texts are
escaped alike; and appended texts are escaped one by one. -/
theorem escape_safe_and_reversible (args : Arguments) (s t : String) :
    Rule.escape.change args (some (.string s)) = .ok (some (.string (escaped s))) ∧
    (∀ c ∈ (escaped s).toList, c ∉ ['<', '>', '"', '\'', '/', '\\', '\x60']) ∧
    (∀ rest, '&' :: rest <:+ (escaped s).toList → ∃ p ∈ entities, p.2 <+: '&' :: rest) ∧
    (∀ p ∈ entities, escapeMarkup [p.1] = p.2) ∧
    unescape (escaped s).toList = s.toList ∧
    (escaped s = escaped t → s = t) ∧
    escaped (s ++ t) = escaped s ++ escaped t := by
  have hback (r : String) : unescape (escaped r).toList = r.toList := by
    rw [toList_escaped, unescape_escapeMarkup]
  refine ⟨change_escape args s, ?_, ?_, ?_, hback s, ?_, escaped_append s t⟩
  · intro c hc
    rw [toList_escaped] at hc
    exact not_markup_of_mem_escapeMarkup hc
  · intro rest h
    rw [toList_escaped] at h
    exact starts_entity h
  · intro p hp
    rw [escapeMarkup, List.flatMap_singleton, escapeMarkupChar_of_mem hp]
  · intro h
    have hlist : s.toList = t.toList := by rw [← hback s, ← hback t, h]
    exact String.toList_inj.mp hlist

/-- Entities that stand in a text are told from those that are written for its characters. -/
example : (escaped "&lt;<").toList = "&amp;lt;&lt;".toList := by decide

end RequestValidation.Change
