import RequestValidation.Proofs.Json.Spacing
import RequestValidation.Proofs.Redaction.Crossing
import RequestValidation.Proofs.Redaction.Document
/-!
# Redacting twice

What was redacted is redacted again. The second time nothing more is struck out, but for two ways in
which the first replacement leaves a new find behind. A closing quote is replaced together with its
secret, so what adjoins the quote afterwards adjoins the mask and is taken for the rest of a secret.
And the sign that is put behind the word `token` is a character of tokens, so the word and the sign
are one where a scheme stands in front.

Results:
* `free_replaceAll_findToken`: no token is left where tokens were replaced.
* `replaceAll_findSecret_twice_iff`: when replacing secrets a second time changes nothing.
* `free_replaceAll_findSecret_iff`: when replacing secrets leaves no token behind.
* `redactText_twice_iff`, `redaction_settles_iff`: when redacting a second time changes nothing.
-/
namespace RequestValidation.Redaction

variable {b b₁ b₂ b' : Option Char} {c : Char} {cs cs' put : List Char} {n : Nat}

/-! ## Edges

Behind a mask stands another character than behind what it is put in place of. -/

/-- Every scheme begins with the letter b, which no scheme has a second time. -/
theorem foldChar_of_scheme {scheme : List Char} (h : SpellsOne schemes scheme) :
    ∃ c tail, scheme = c :: tail ∧ Text.foldChar c = 'b' ∧ ∀ d ∈ tail, Text.foldChar d ≠ 'b' := by
  have hall : ∀ v ∈ schemes, v.head? = some 'b' ∧ 'b' ∉ v.tail := by decide
  obtain ⟨hhead, htail⟩ := hall _ h
  cases scheme with
  | nil => cases hhead
  | cons c tail =>
    exact ⟨c, tail, rfl, Option.some.inj hhead,
      fun d hd hb => htail (hb ▸ List.mem_map_of_mem hd)⟩

theorem findToken_of_head (h : ∀ c ∈ cs.head?, Text.foldChar c ≠ 'b') : findToken b cs = none := by
  by_contra hfound
  obtain ⟨-, scheme, blanks, token, htoken, -, tail, rfl⟩ := findToken_ne_none_iff.mp hfound
  obtain ⟨c, rest, rfl, hc, -⟩ := foldChar_of_scheme htoken.scheme
  exact h c rfl hc

/-- Two edges in front of a text that are the same for the finder of tokens. -/
def SameEdge (b₁ b₂ : Option Char) (cs : List Char) : Prop :=
  b₁.any Pattern.isWordChar = b₂.any Pattern.isWordChar ∨ ∀ c ∈ cs.head?, Text.foldChar c ≠ 'b'

theorem SameEdge.findToken_eq (h : SameEdge b₁ b₂ cs) : findToken b₁ cs = findToken b₂ cs := by
  rcases h with h | h
  · simp only [findToken, h]
  · rw [findToken_of_head h, findToken_of_head h]

/-- A part without that letter is free, so only what stands behind it counts. -/
theorem free_findToken_append {front : List Char}
    (hfront : ∀ c ∈ front, Text.foldChar c ≠ 'b') :
    Free findToken b (front ++ cs) ↔ Free findToken (front.getLast?.or b) cs := by
  induction front generalizing b with
  | nil => rfl
  | cons c front ih =>
    have hnone : findToken b (c :: (front ++ cs)) = none :=
      findToken_of_head (by rintro _ ⟨⟩; exact hfront c List.mem_cons_self)
    have hfront' : ∀ d ∈ front, Text.foldChar d ≠ 'b' :=
      fun d hd => hfront d (List.mem_cons_of_mem c hd)
    rw [List.cons_append, Free, getLast?_cons_or, ← ih hfront']
    exact and_iff_right hnone

theorem isTokenChar_of_foldChar (h : Text.foldChar c = 'b') : isTokenChar c = true := by
  simp only [isTokenChar, h]
  decide

/-! ## Tokens -/

theorem getLast?_put (w : List Char) (sign : Char) (b : Option Char) :
    (w ++ sign :: mask).getLast?.or b = some '*' := by
  simp [mask, List.getLast?_append]

/-- Where a token was replaced none is found. -/
theorem findToken_put {scheme : List Char} (hscheme : SpellsOne schemes scheme) (b : Option Char)
    (rest : List Char) : findToken b (scheme ++ ' ' :: (mask ++ rest)) = none := by
  cases hb : b.any Pattern.isWordChar with
  | true => simp [findToken, hb]
  | false =>
    have hruns : scheme ++ ' ' :: (mask ++ rest) = scheme ++ ([' '] ++ ([] ++ (mask ++ rest))) :=
      rfl
    rw [hruns, findToken_runs hb hscheme (List.forall_mem_singleton.mpr rfl) ?_
      (List.forall_mem_nil _) ?_]
    · rfl
    · rintro _ ⟨⟩
      decide
    · rintro _ ⟨⟩
      decide

theorem foldChar_of_mask (sign : Char) (hsign : Text.foldChar sign ≠ 'b') :
    ∀ c ∈ sign :: mask, Text.foldChar c ≠ 'b' := by
  have hmask : 'b' ∉ mask.map Text.foldChar := by decide
  exact List.forall_mem_cons.mpr ⟨hsign, fun c hc hb => hmask (hb ▸ List.mem_map_of_mem hc)⟩

/-- Where tokens were replaced none is left. -/
theorem free_replaceAll_findToken (h : SameEdge b₁ b₂ cs) :
    Free findToken b₁ (replaceAll findToken b₂ cs) := by
  induction b₂, cs using replaceAll.induct findToken generalizing b₁ with
  | case1 b₂ =>
    rw [replaceAll_nil]
    trivial
  | case2 b₂ c cs put n hfound ih =>
    obtain ⟨scheme, blanks, token, rest, hcs, -, htoken, hrest, rfl, hn⟩ :=
      findToken_eq_some_iff.mp hfound
    -- only the first letter of what is put in place could begin a token
    obtain ⟨s, tail, rfl, -, htail⟩ := foldChar_of_scheme htoken.scheme
    obtain ⟨-, hdrop⟩ := getElem?_and_drop_of_append
      (h := hcs.trans (by simp : _ = ((s :: tail) ++ (blanks ++ token)) ++ rest)) (n := n)
      (by simp only [List.length_append, List.length_cons] at hn ⊢; omega)
    have hfront : ∀ d ∈ tail ++ ' ' :: mask, Text.foldChar d ≠ 'b' := by
      intro d hd
      rcases List.mem_append.mp hd with hd | hd
      · exact htail d hd
      · exact foldChar_of_mask ' ' (by decide) d hd
    have hedge : SameEdge (some '*') (c :: cs)[n]? (cs.drop n) := by
      refine .inr fun d hd hb => ?_
      rw [hdrop] at hd
      exact absurd (isTokenChar_of_foldChar hb) (by simp [hrest d hd])
    rw [replaceAll_of_some hfound, List.cons_append, List.cons_append]
    refine ⟨?_, ?_⟩
    · simpa using findToken_put htoken.scheme b₁ (replaceAll findToken (c :: cs)[n]? (cs.drop n))
    · rw [free_findToken_append hfront, getLast?_put]
      exact ih hedge
  | case3 b₂ c cs hnone ih =>
    rw [replaceAll_of_none hnone]
    have hedge : SameEdge b₁ b₂ (c :: replaceAll findToken (some c) cs) := h
    refine ⟨?_, ih (.inl rfl)⟩
    rw [hedge.findToken_eq]
    exact findToken_cons_replaceAll hnone

/-! ## Secrets -/

theorem length_replaceAll_findSecret_le (b : Option Char) (cs : List Char) :
    (replaceAll findSecret b cs).length ≤ cs.length :=
  length_replaceAll_le shrinks_findSecret b cs

/-- Replacing keeps the first character. -/
theorem head?_replaceAll_findSecret (b : Option Char) (cs : List Char) :
    (replaceAll findSecret b cs).head? = cs.head? := by
  cases cs with
  | nil => rw [replaceAll_nil]
  | cons c cs =>
    cases h : findSecret b (c :: cs) with
    | none =>
      rw [replaceAll_of_none h]
      rfl
    | some found =>
      obtain ⟨word, after, hcs, hword, hput⟩ := keepsWord_findSecret _ _ _ _ h
      obtain ⟨d, word, rfl⟩ := List.exists_cons_of_ne_nil (isWord_of_secretWord hword).ne_nil
      obtain ⟨rfl, -⟩ := List.cons.inj hcs
      rw [replaceAll_of_some h, hput]
      rfl

theorem closed_replaceAll_iff (b : Option Char) (rest : List Char) :
    Closed (replaceAll findSecret b rest) ↔ Closed rest := by
  rw [Closed, Closed, head?_replaceAll_findSecret]

/-- What is found at the front of a text, if something is, is followed by its end or by a character
that ends secrets. -/
def Ends (b : Option Char) (cs : List Char) : Prop :=
  ∀ put n, findSecret b cs = some (put, n) → Closed (cs.drop (n + 1))

theorem ends_of_none (h : findSecret b cs = none) : Ends b cs := by
  intro put n hfound
  cases h.symm.trans hfound

theorem ends_append_iff {found rest : List Char}
    (h : findSecret b (found ++ rest) = some (put, n)) (hn : found.length = n + 1) :
    Ends b (found ++ rest) ↔ Closed rest := by
  have hdrop : (found ++ rest).drop (n + 1) = rest := by rw [← hn, List.drop_left]
  constructor
  · intro hends
    have hrest := hends put n h
    rwa [hdrop] at hrest
  · intro hrest put' n' h'
    obtain ⟨rfl, rfl⟩ := Prod.mk.inj (Option.some.inj (h.symm.trans h'))
    rwa [hdrop]

/-- The finder of secrets does not look at the character before. -/
theorem replaceAll_findSecret_before (b b' : Option Char) (cs : List Char) :
    replaceAll findSecret b cs = replaceAll findSecret b' cs := by
  cases cs with
  | nil => rw [replaceAll_nil, replaceAll_nil]
  | cons c cs =>
    have hsame : findSecret b (c :: cs) = findSecret b' (c :: cs) := rfl
    rw [replaceAll, replaceAll, hsame]

/-- Replacing secrets a second time changes nothing, exactly if all that is found ends. -/
theorem replaceAll_findSecret_twice_iff :
    replaceAll findSecret b (replaceAll findSecret b cs) = replaceAll findSecret b cs ↔
      ∀ b' cs', Reaches findSecret b cs b' cs' → Ends b' cs' := by
  induction b, cs using replaceAll.induct findSecret with
  | case1 b =>
    rw [forall_reaches_nil_iff, replaceAll_nil, replaceAll_nil]
    exact iff_of_true rfl (ends_of_none rfl)
  | case2 b c cs put n hfound ih =>
    obtain ⟨word, found, rest, hcs, hlength, hword, -, rfl, -⟩ := exists_found hfound
    obtain ⟨hlast, hdrop⟩ := getElem?_and_drop_of_append hcs hlength
    rw [hlast, hdrop] at ih
    rw [hcs] at hfound ⊢
    rw [forall_reaches_append_of_some hfound hlength, replaceAll_append_of_some hfound hlength,
      ends_append_iff hfound hlength, ← ih, ← closed_replaceAll_iff found.getLast? rest]
    generalize replaceAll findSecret found.getLast? rest = out
    -- the second run finds the mask, and with it what adjoins
    obtain ⟨more, behind, rfl, hmore, hmasked⟩ := findSecret_masked hword b out
    have hput : (word ++ '=' :: mask ++ more).length = word.length + 3 + more.length + 1 := by
      rw [List.length_append, length_append_mask]
      omega
    have hagain : replaceAll findSecret b (word ++ '=' :: mask ++ (more ++ behind)) =
        word ++ '=' :: mask ++
          replaceAll findSecret (word ++ '=' :: mask ++ more).getLast? behind := by
      rw [← List.append_assoc]
      refine replaceAll_append_of_some ?_ hput
      simpa using hmasked
    rw [hagain, List.append_cancel_left_eq, ← hmore,
      replaceAll_findSecret_before _ found.getLast? behind]
    constructor
    · intro heq
      have hshorter := length_replaceAll_findSecret_le found.getLast? behind
      rw [heq, List.length_append] at hshorter
      obtain rfl : more = [] := List.eq_nil_of_length_eq_zero (by omega)
      exact ⟨rfl, heq⟩
    · rintro ⟨rfl, heq⟩
      exact heq
  | case3 b c cs hnone ih =>
    rw [forall_reaches_of_none hnone, replaceAll_of_none hnone,
      replaceAll_of_none (findSecret_cons_replaceAll hnone), List.cons_inj_right, ih]
    exact (and_iff_right (ends_of_none hnone)).symm

/-! ## Tokens behind replaced secrets -/

theorem foldChar_of_closed {rest : List Char} (h : Closed rest) :
    ∀ c ∈ rest.head?, Text.foldChar c ≠ 'b' := by
  intro c hc
  rcases h c hc with hblank | rfl | rfl
  · rw [foldChar_of_isBlank hblank]
    rintro rfl
    cases hblank
  · decide
  · decide

theorem foldChar_of_secretWord {word : List Char} (h : SpellsOne secretWords word) :
    ∀ c ∈ word, Text.foldChar c ≠ 'b' := by
  have hall : ∀ v ∈ secretWords, 'b' ∉ v := by decide
  exact fun c hc hb => hall _ h (hb ▸ List.mem_map_of_mem hc)

theorem not_tempts_of_head (h : ∀ c ∈ cs.head?, Text.foldChar c ≠ 'b') : ¬ Tempts b cs := by
  rintro ⟨-, hscheme, -, -, -, -⟩
  obtain ⟨c, tail, rfl, hc, -⟩ := foldChar_of_scheme hscheme
  exact h c rfl hc

/-- Behind a replaced secret the edge is as it was: only a quote lets the text go on. -/
theorem sameEdge_of_found {found rest : List Char}
    (h : Closed rest ∨ ∃ c, found.getLast? = some c ∧ isQuote c = true) :
    SameEdge (some '*') found.getLast? rest := by
  rcases h with hclosed | ⟨c, hc, hquote⟩
  · exact .inr (foldChar_of_closed hclosed)
  · refine .inl ?_
    rw [hc]
    simp only [isQuote, Bool.or_eq_true, decide_eq_true_eq] at hquote
    rcases hquote with rfl | rfl
    · decide +kernel
    · decide +kernel

/-- In a text without tokens replacing secrets leaves none behind, exactly if none is tempted. -/
theorem free_replaceAll_findSecret_iff (hfree : Free findToken b₂ cs) (hedge : SameEdge b₁ b₂ cs) :
    Free findToken b₁ (replaceAll findSecret b₂ cs) ↔
      ∀ b' cs', Reaches findSecret b₂ cs b' cs' → ¬ Tempts b' cs' := by
  induction b₂, cs using replaceAll.induct findSecret generalizing b₁ with
  | case1 b₂ =>
    rw [forall_reaches_nil_iff, replaceAll_nil]
    exact iff_of_true trivial (not_tempts_of_head (by simp))
  | case2 b₂ c cs put n hfound ih =>
    obtain ⟨word, found, rest, hcs, hlength, hword, hbegins, rfl, hends⟩ := exists_found hfound
    obtain ⟨hlast, hdrop⟩ := getElem?_and_drop_of_append hcs hlength
    rw [hlast, hdrop] at ih
    rw [hcs] at hfound hfree ⊢
    have hput : ∀ d ∈ word ++ '=' :: mask, Text.foldChar d ≠ 'b' := by
      intro d hd
      rcases List.mem_append.mp hd with hd | hd
      · exact foldChar_of_secretWord hword d hd
      · exact foldChar_of_mask '=' (by decide) d hd
    have hhead : ∀ d ∈ (found ++ rest).head?, Text.foldChar d ≠ 'b' := by
      obtain ⟨tail, rfl⟩ := hbegins
      obtain ⟨e, word, rfl⟩ := List.exists_cons_of_ne_nil (isWord_of_secretWord hword).ne_nil
      rintro d ⟨⟩
      exact foldChar_of_secretWord hword e List.mem_cons_self
    have hrest : Free findToken found.getLast? rest := by
      have hor : found.getLast?.or b₂ = found.getLast? := by
        rw [List.getLast?_eq_some_getLast (List.ne_nil_of_length_eq_add_one hlength),
          Option.some_or]
      exact hor ▸ hfree.behind
    rw [forall_reaches_append_of_some hfound hlength, replaceAll_append_of_some hfound hlength,
      free_findToken_append hput, getLast?_put, ih hrest (sameEdge_of_found hends)]
    exact (and_iff_right (not_tempts_of_head hhead)).symm
  | case3 b₂ c cs hnone ih =>
    have hsame : SameEdge b₁ b₂ (c :: replaceAll findSecret (some c) cs) := hedge
    rw [forall_reaches_of_none hnone, replaceAll_of_none hnone, Free, hsame.findToken_eq,
      findToken_replaceAll_eq_none_iff hfree.1 hnone, ih hfree.2 (.inl rfl)]

/-! ## The whole text -/

/-- A state at which the run leaves no find behind: what is found ends, and no token is tempted. -/
structure Settled (b : Option Char) (cs : List Char) : Prop where
  ends : Ends b cs
  not_tempts : ¬ Tempts b cs

/-- A text in which every state is settled that the run comes to in which secrets are replaced. -/
def SettledText (cs : List Char) : Prop :=
  ∀ b' cs', Reaches findSecret none (replaceAll findToken none cs) b' cs' → Settled b' cs'

/-- Both replacements together change nothing if none of them does. -/
theorem redactText_eq_self_iff :
    redactText cs = cs ↔ Free findToken none cs ∧ replaceAll findSecret none cs = cs := by
  rw [redactText]
  constructor
  · intro h
    have hsecrets := length_replaceAll_findSecret_le none (replaceAll findToken none cs)
    have htokens := length_replaceAll_le shrinksStrictly_findToken.shrinks none cs
    have hfree : Free findToken none cs := by
      refine free_of_length_replaceAll shrinksStrictly_findToken ?_
      rw [h] at hsecrets
      exact Nat.le_antisymm htokens hsecrets
    rw [replaceAll_of_free hfree] at h
    exact ⟨hfree, h⟩
  · rintro ⟨hfree, h⟩
    rw [replaceAll_of_free hfree, h]

/-- Redacting a text a second time changes nothing, exactly if it is settled. -/
theorem redactText_twice_iff : redactText (redactText cs) = redactText cs ↔ SettledText cs := by
  have hfree : Free findToken none (replaceAll findToken none cs) :=
    free_replaceAll_findToken (.inl rfl)
  rw [redactText_eq_self_iff, redactText, free_replaceAll_findSecret_iff hfree (.inl rfl),
    replaceAll_findSecret_twice_iff, SettledText]
  constructor
  · rintro ⟨htempts, hends⟩ b' cs' hrun
    exact ⟨hends b' cs' hrun, htempts b' cs' hrun⟩
  · intro h
    exact ⟨fun b' cs' hrun => (h b' cs' hrun).not_tempts, fun b' cs' hrun => (h b' cs' hrun).ends⟩

/-! ## Documents -/

theorem redact_string (s : String) :
    redact (.string s) = .string (String.ofList (redactText s.toList)) := by
  rw [redact]

theorem redact_string_twice_iff (s : String) :
    redact (redact (.string s)) = redact (.string s) ↔ SettledText s.toList := by
  rw [redact_string, redact_string, Json.string.injEq, String.ofList_inj, String.toList_ofList,
    redactText_twice_iff]

theorem redact_redact_array_iff (vs : List Json) :
    redact (redact (.array vs)) = redact (.array vs) ↔
      ∀ v ∈ vs, redact (redact v) = redact v := by
  simp only [redact_array, Json.array.injEq, List.map_map, List.map_inj_left, Function.comp_apply]

theorem redact_redact_object_iff (ms : List (String × Json)) :
    redact (redact (.object ms)) = redact (.object ms) ↔
      ∀ k v, (k, v) ∈ ms → ¬ Sensitive k → redact (redact v) = redact v := by
  simp only [redact_object, Json.object.injEq, List.map_map, List.map_inj_left,
    Function.comp_apply, Prod.forall]
  refine forall₃_congr fun k v hm => ?_
  by_cases hk : Sensitive k
  · simp [redactMember_of_sensitive hk, hk]
  · simp [redactMember_of_not_sensitive hk, hk]

/-- What is exposed in a document that stays as it is stays as it is. -/
theorem redact_twice_of_exposed {v w : Json} {places : List Nat} (h : Exposed v places w)
    (hv : redact (redact v) = redact v) : redact (redact w) = redact w := by
  induction h with
  | here v => exact hv
  | item hitem _ ih =>
    exact ih ((redact_redact_array_iff _).mp hv _ (List.mem_of_getElem? hitem))
  | member hmember hk _ ih =>
    exact ih ((redact_redact_object_iff _).mp hv _ _ (List.mem_of_getElem? hmember) hk)

theorem redact_twice_of_settled (v : Json)
    (h : ∀ places s, Exposed v places (.string s) → SettledText s.toList) :
    redact (redact v) = redact v := by
  induction v using Json.ind with
  | null => rw [redact_null, redact_null]
  | bool b => rw [redact_bool, redact_bool]
  | number n => rw [redact_number, redact_number]
  | string s => exact (redact_string_twice_iff s).mpr (h [] s (.here _))
  | array vs ih =>
    refine (redact_redact_array_iff vs).mpr fun w hw => ?_
    obtain ⟨i, hi⟩ := List.mem_iff_getElem?.mp hw
    exact ih w hw fun places s hs => h (i :: places) s (.item hi hs)
  | object ms ih =>
    refine (redact_redact_object_iff ms).mpr fun k w hm hk => ?_
    obtain ⟨i, hi⟩ := List.mem_iff_getElem?.mp hm
    exact ih (k, w) hm fun places s hs => h (i :: places) s (.member hi hk hs)

/-- **When one redaction is enough.** Redacting a text again changes nothing, exactly if everything
that is struck out as a secret ends, so that nothing adjoins its closing quote, and no secret behind
the word `token` has a scheme in front. Redacting a document again changes nothing, exactly if this
holds of every exposed text. -/
theorem redaction_settles_iff (cs : List Char) (v : Json) :
    (redactText (redactText cs) = redactText cs ↔ SettledText cs) ∧
      (redact (redact v) = redact v ↔
        ∀ places s, Exposed v places (.string s) → SettledText s.toList) := by
  refine ⟨redactText_twice_iff, fun h places s hs => ?_, redact_twice_of_settled v⟩
  exact (redact_string_twice_iff s).mp (redact_twice_of_exposed hs h)

/-- What adjoins the closing quote is struck out the second time only, and so is the word behind a
scheme. -/
theorem struck_out_the_second_time :
    redactText "password=\"hunt\"er22".toList = "password=***er22".toList ∧
      redactText "password=***er22".toList = "password=***".toList ∧
      redactText "basic token:abc".toList = "basic token=***".toList ∧
      redactText "basic token=***".toList = "basic ******".toList := by
  decide +kernel

/-! ## Plain texts -/

theorem Reaches.subset {find : Finder} (h : Reaches find b cs b' cs') : cs' ⊆ cs := by
  induction h with
  | here => exact List.Subset.refl _
  | passed _ _ ih => exact List.subset_cons_of_subset _ ih
  | replaced _ _ ih =>
    exact List.subset_cons_of_subset _ (List.Subset.trans ih (List.drop_subset _ _))

/-- A text without quotes and without the letter that schemes begin with is settled. -/
theorem settledText_of_plain (hquote : ∀ c ∈ cs, isQuote c = false)
    (hletter : ∀ c ∈ cs, Text.foldChar c ≠ 'b') : SettledText cs := by
  have hfree : Free findToken none cs := by
    rw [← List.append_nil cs, free_findToken_append hletter]
    trivial
  intro b' cs' hrun
  rw [replaceAll_of_free hfree] at hrun
  refine ⟨fun put n hfound => ?_, not_tempts_of_head fun c hc =>
    hletter c (hrun.subset (List.mem_of_mem_head? hc))⟩
  obtain ⟨word, found, rest, rfl, hlength, -, -, -, hends⟩ := exists_found hfound
  rw [← hlength, List.drop_left]
  refine hends.resolve_right ?_
  rintro ⟨c, hc, hc'⟩
  have hplain := hquote c (hrun.subset (List.mem_append_left _ (List.mem_of_getLast? hc)))
  rw [hplain] at hc'
  cases hc'

end RequestValidation.Redaction
