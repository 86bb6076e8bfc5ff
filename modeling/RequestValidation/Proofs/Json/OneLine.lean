import RequestValidation.Proofs.Json.RoundTrip
/-!
# Blanks outside of strings

Without the blanks that stand outside of its string literals, every text of an exact document is the
compact one. That has no control characters, so it is one line.

Results:
* `squeeze_quote`: a string literal is left alone.
* `squeeze_spaced`, `squeeze_pretty`: the indented text becomes the compact one.
* `noControls_compact`: the compact text has no control characters.
-/
namespace RequestValidation.Json

/-- The text without the blanks outside of its string literals. Does it begin inside of one? -/
def squeeze : (inside : Bool) → List Char → List Char
  | _, [] => []
  | true, '\\' :: c :: rest => '\\' :: c :: squeeze true rest
  | true, c :: rest => c :: squeeze (c ≠ '"') rest
  | false, c :: rest =>
    if isSpace c then squeeze false rest else c :: squeeze (c = '"') rest

/-! ## Literals -/

theorem squeeze_blanks {blanks : List Char} (h : ∀ c ∈ blanks, isSpace c = true)
    (cs : List Char) : squeeze false (blanks ++ cs) = squeeze false cs := by
  induction blanks with
  | nil => rfl
  | cons c blanks ih =>
    rw [List.cons_append, squeeze, if_pos (h c List.mem_cons_self),
      ih fun d hd => h d (List.mem_cons_of_mem c hd)]

theorem squeeze_cons {c : Char} (hspace : isSpace c = false) (hquote : c ≠ '"') (cs : List Char) :
    squeeze false (c :: cs) = c :: squeeze false cs := by
  rw [squeeze]
  simp [hspace, hquote]

theorem squeeze_word {word : List Char} (h : ∀ c ∈ word, isSpace c = false ∧ c ≠ '"')
    (cs : List Char) : squeeze false (word ++ cs) = word ++ squeeze false cs := by
  induction word with
  | nil => rfl
  | cons c word ih =>
    obtain ⟨hspace, hquote⟩ := h c List.mem_cons_self
    rw [List.cons_append, squeeze_cons hspace hquote,
      ih fun d hd => h d (List.mem_cons_of_mem c hd), List.cons_append]

theorem squeeze_digits (n : Nat) (cs : List Char) :
    squeeze false (Nat.toDigits 10 n ++ cs) = Nat.toDigits 10 n ++ squeeze false cs := by
  apply squeeze_word
  intro c hc
  have hdigit := isDigit_of_mem_toDigits hc
  refine ⟨isSpace_of_isDigit hdigit, ?_⟩
  rintro rfl
  exact absurd hdigit (by decide)

theorem squeeze_inside {c : Char} (hquote : c ≠ '"') (hslash : c ≠ '\\') (cs : List Char) :
    squeeze true (c :: cs) = c :: squeeze true cs := by
  rw [squeeze]
  · simp [hquote]
  · rintro d rest rfl
    exact absurd rfl hslash

/-- A hexadecimal digit is printed and is no quote or backslash. -/
theorem hexDigit_plain (n : Nat) :
    32 ≤ (hexDigit n).toNat ∧ hexDigit n ≠ '"' ∧ hexDigit n ≠ '\\' := by
  have hall : ∀ k < 16, 32 ≤ (hexDigit k).toNat ∧ hexDigit k ≠ '"' ∧ hexDigit k ≠ '\\' := by
    decide
  rw [← hexDigit_mod]
  exact hall (n % 16) (by omega)

/-- What stands for a character in a literal is left alone. -/
theorem squeeze_escaped {c : Char} {text : List Char} (h : Escaped c text) (cs : List Char) :
    squeeze true (text ++ cs) = text ++ squeeze true cs := by
  cases h with
  | letter _ _ => rfl
  | number _ =>
    obtain ⟨-, hquote, hslash⟩ := hexDigit_plain (c.toNat / 16)
    obtain ⟨-, hquote', hslash'⟩ := hexDigit_plain c.toNat
    simp only [List.cons_append, List.nil_append]
    rw [squeeze, squeeze_inside (by decide) (by decide), squeeze_inside (by decide) (by decide),
      squeeze_inside hquote hslash, squeeze_inside hquote' hslash']
  | itself hquote hslash _ => exact squeeze_inside hquote hslash cs

theorem squeeze_quote (s : String) (cs : List Char) :
    squeeze false (quote s ++ cs) = quote s ++ squeeze false cs := by
  have hbody : ∀ text : List Char, squeeze true (text.flatMap escapeChar ++ '"' :: cs) =
      text.flatMap escapeChar ++ '"' :: squeeze false cs := by
    intro text
    induction text with
    | nil => rfl
    | cons c text ih =>
      rw [List.flatMap_cons, List.append_assoc, squeeze_escaped (escaped_escapeChar c), ih,
        List.append_assoc]
  have hopen : ∀ rest, squeeze false ('"' :: rest) = '"' :: squeeze true rest := fun _ => rfl
  simp only [quote, List.cons_append, List.append_assoc, List.nil_append]
  rw [hopen, hbody]

/-! ## Documents -/

/-- Without blanks the parts of a container are as without blanks between them. -/
theorem squeeze_spacedParts {α : Type} (g : Spacing) (level : Nat) {closing : Char}
    (hspace : isSpace closing = false) (hquote : closing ≠ '"') {text tight : α → List Char}
    {parts : List α}
    (h : ∀ x ∈ parts, ∀ cs, squeeze false (text x ++ cs) = tight x ++ squeeze false cs)
    (first : Bool) (cs : List Char) :
    squeeze false (spacedParts g level closing first (parts.map text) ++ cs) =
      spacedParts .tight level closing first (parts.map tight) ++ squeeze false cs := by
  induction parts generalizing first with
  | nil =>
    simp only [List.map_nil, spacedParts, List.append_assoc, List.singleton_append]
    rw [squeeze_blanks (isSpace_closing g level first), squeeze_cons hspace hquote]
    cases first <;> rfl
  | cons x parts ih =>
    have hrest := ih (fun y hy => h y (List.mem_cons_of_mem x hy)) false
    have hcomma : ∀ rest, squeeze false ((if first then [] else [',']) ++ rest) =
        (if first then [] else [',']) ++ squeeze false rest := by
      intro rest
      cases first <;> rfl
    simp only [List.map_cons, spacedParts, List.append_assoc]
    rw [hcomma, squeeze_blanks (g.isSpace_part _), h x List.mem_cons_self, hrest]
    rfl

/-- Without blanks every text of an exact document is the compact one. -/
theorem squeeze_spaced (g : Spacing) {nested : Nat} {v : Json} (h : Exact nested v) (level : Nat)
    (cs : List Char) :
    squeeze false (spaced g level v ++ cs) = spaced .tight level v ++ squeeze false cs := by
  induction h generalizing level cs with
  | null => rw [spaced, spaced, squeeze_word (by simp [isSpace])]
  | bool _ b => cases b <;> rw [spaced, spaced, squeeze_word (by simp [isSpace])]
  | @int _ i _ _ =>
    rw [spaced, spaced]
    cases i with
    | ofNat n => exact (toList_text_nat n).symm ▸ squeeze_digits n cs
    | negSucc n =>
      rw [toList_text_negSucc, List.cons_append, squeeze_cons rfl (by decide), squeeze_digits,
        List.cons_append]
  | string _ s => rw [spaced, spaced, squeeze_quote]
  | array _ ih =>
    rw [spaced_array, spaced_array, List.cons_append, squeeze_cons rfl (by decide),
      squeeze_spacedParts g level rfl (by decide) fun v hv => ih v hv (level + 1),
      List.cons_append]
  | object _ _ ih =>
    rw [spaced_object, spaced_object, List.cons_append, squeeze_cons rfl (by decide),
      squeeze_spacedParts g level rfl (by decide), List.cons_append]
    intro p hp rest
    simp only [spacedMember, List.append_assoc, List.cons_append]
    rw [squeeze_quote, squeeze_cons rfl (by decide), squeeze_blanks g.isSpace_value, ih p hp]
    rfl

/-- Without blanks the indented text is the compact one. -/
theorem squeeze_pretty {nested : Nat} {v : Json} (h : Exact nested v) :
    squeeze false v.pretty.toList = v.compact.toList := by
  have hsqueeze := squeeze_spaced .lines h 0 []
  rw [List.append_nil, spaced_lines, spaced_tight] at hsqueeze
  rw [pretty, compact, String.toList_ofList, String.toList_ofList, hsqueeze]
  exact List.append_nil _

/-! ## One line -/

/-- Whether a text has no control characters, so neither line feeds nor carriage returns. -/
def NoControls (cs : List Char) : Prop := ∀ c ∈ cs, 32 ≤ c.toNat

theorem noControls_nil : NoControls [] := List.forall_mem_nil _

theorem noControls_append {xs ys : List Char} (hx : NoControls xs) (hy : NoControls ys) :
    NoControls (xs ++ ys) :=
  List.forall_mem_append.mpr ⟨hx, hy⟩

theorem noControls_cons {c : Char} {cs : List Char} (hc : 32 ≤ c.toNat) (h : NoControls cs) :
    NoControls (c :: cs) :=
  List.forall_mem_cons.mpr ⟨hc, h⟩

theorem noControls_digits (n : Nat) : NoControls (Nat.toDigits 10 n) := by
  intro c hc
  have hdigit := isDigit_of_mem_toDigits hc
  simp only [Char.isDigit, Bool.and_eq_true, decide_eq_true_eq] at hdigit
  have hlow : 48 ≤ c.toNat := hdigit.1
  omega

theorem noControls_escaped {c : Char} {text : List Char} (h : Escaped c text) :
    NoControls text := by
  cases h with
  | letter hd _ =>
    have hall : ∀ d ∈ ['"', '\\', 'b', 't', 'n', 'f', 'r'], 32 ≤ d.toNat := by simp
    exact noControls_cons (by decide) (noControls_cons (hall _ hd) noControls_nil)
  | number _ =>
    have hdigits := noControls_cons (hexDigit_plain (c.toNat / 16)).1
      (noControls_cons (hexDigit_plain c.toNat).1 noControls_nil)
    have hstart : NoControls ['\\', 'u', '0', '0'] := by simp [NoControls]
    exact noControls_append hstart hdigits
  | itself _ _ h => exact noControls_cons h noControls_nil

theorem noControls_quote (s : String) : NoControls (quote s) := by
  apply noControls_append
  · apply noControls_cons (by decide)
    intro c hc
    obtain ⟨d, -, hd⟩ := List.mem_flatMap.mp hc
    exact noControls_escaped (escaped_escapeChar d) c hd
  · exact noControls_cons (by decide) noControls_nil

theorem noControls_spacedParts {closing : Char} (hclosing : 32 ≤ closing.toNat) (level : Nat)
    {texts : List (List Char)} (h : ∀ text ∈ texts, NoControls text) (first : Bool) :
    NoControls (spacedParts .tight level closing first texts) := by
  induction texts generalizing first with
  | nil => cases first <;> exact noControls_cons hclosing noControls_nil
  | cons text texts ih =>
    have hrest := ih (fun t ht => h t (List.mem_cons_of_mem text ht)) false
    have htext := noControls_append (h text List.mem_cons_self) hrest
    cases first with
    | true => exact htext
    | false => exact noControls_cons (by decide) htext

/-- The text without blanks of an exact document has no control characters. -/
theorem noControls_spaced {nested : Nat} {v : Json} (h : Exact nested v) (level : Nat) :
    NoControls (spaced .tight level v) := by
  induction h generalizing level with
  | null => simp [spaced, NoControls]
  | bool _ b => cases b <;> simp [spaced, NoControls]
  | @int _ i _ _ =>
    rw [spaced]
    cases i with
    | ofNat n => exact (toList_text_nat n).symm ▸ noControls_digits n
    | negSucc n =>
      rw [toList_text_negSucc]
      exact noControls_cons (by decide) (noControls_digits _)
  | string _ s => rw [spaced]; exact noControls_quote s
  | array _ ih =>
    rw [spaced_array]
    apply noControls_cons (by decide)
    apply noControls_spacedParts (by decide)
    intro text htext
    obtain ⟨v, hv, rfl⟩ := List.mem_map.mp htext
    exact ih v hv (level + 1)
  | object _ _ ih =>
    rw [spaced_object]
    apply noControls_cons (by decide)
    apply noControls_spacedParts (by decide)
    intro text htext
    obtain ⟨p, hp, rfl⟩ := List.mem_map.mp htext
    exact noControls_append (noControls_quote p.1)
      (noControls_cons (by decide) (ih p hp (level + 1)))

/-- The compact text of an exact document is one line. -/
theorem noControls_compact {nested : Nat} {v : Json} (h : Exact nested v) :
    NoControls v.compact.toList := by
  rw [compact, String.toList_ofList, ← spaced_tight v 0]
  exact noControls_spaced h 0

end RequestValidation.Json
