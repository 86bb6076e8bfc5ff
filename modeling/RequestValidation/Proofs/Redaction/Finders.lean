import RequestValidation.Proofs.Redaction.Replacing
import RequestValidation.Proofs.Text.Classes
import RequestValidation.Proofs.Text.Margins
/-!
# What is found of a token and of a secret

The finder of tokens and the finder of secrets as grammars: what stands at the front of a text when
they find something, and which beginning of a text is enough that they do.

Results:
* `foldChar_of_isBlank`, `foldChar_of_isMark`: characters that no word is written with.
* `findToken_eq_some_iff`, `findToken_ne_none_iff`: what a token is, and where one begins.
* `findSecret_eq_some`, `findSecret_ne_none_iff`: the same of secrets.
* `findSecret_masked`: what is found of a secret that is replaced already.
-/
namespace RequestValidation.Redaction

variable {b : Option Char} {c : Char} {cs put : List Char} {n : Nat}

/-! ## Characters -/

/-- The code points of white space. -/
def blankCodes : List Nat :=
  [9, 10, 11, 12, 13, 32, 133, 160, 5760, 8192, 8193, 8194, 8195, 8196, 8197, 8198, 8199, 8200,
    8201, 8202, 8232, 8233, 8239, 8287, 12288]

theorem toNat_mem_blankCodes (h : Text.isBlank c = true) : c.toNat ∈ blankCodes := by
  simp only [Text.isBlank, Bool.or_eq_true, Bool.and_eq_true, decide_eq_true_eq, beq_iff_eq] at h
  simp only [blankCodes, List.mem_cons, List.not_mem_nil, or_false]
  omega

theorem foldChar_of_isBlank (h : Text.isBlank c = true) : Text.foldChar c = c := by
  have hall : ∀ n ∈ blankCodes, Text.foldChar (Char.ofNat n) = Char.ofNat n := by decide +kernel
  simpa using hall c.toNat (toNat_mem_blankCodes h)

theorem isTokenChar_of_isBlank (h : Text.isBlank c = true) : isTokenChar c = false := by
  have hall : ∀ n ∈ blankCodes, isTokenChar (Char.ofNat n) = false := by decide +kernel
  simpa using hall c.toNat (toNat_mem_blankCodes h)

/-- A character that stands between a word and a secret. -/
def IsMark (c : Char) : Prop := isSeparator c = true ∨ isQuote c = true

theorem foldChar_of_isMark (h : IsMark c) : Text.foldChar c = c := by
  simp only [IsMark, isSeparator, isQuote, Bool.or_eq_true, decide_eq_true_eq] at h
  rcases h with ((rfl | rfl) | h) | rfl | rfl
  · decide
  · decide
  · exact foldChar_of_isBlank h
  · decide
  · decide

theorem isSecretChar_eq_false_iff :
    isSecretChar c = false ↔ Text.isBlank c = true ∨ isQuote c = true ∨ c = ';' ∨ c = '&' := by
  simp only [isSecretChar, Bool.not_eq_false', Bool.or_eq_true, decide_eq_true_eq, or_assoc]

/-! ## Words -/

/-- A text that writes one of the words, in any letter case. -/
def SpellsOne (words : List (List Char)) (cs : List Char) : Prop := cs.map Text.foldChar ∈ words

/-- None of the words is the beginning of another. -/
def PrefixFree (words : List (List Char)) : Prop :=
  ∀ w ∈ words, ∀ v ∈ words, w <+: v → w = v

theorem prefixFree_schemes : PrefixFree schemes := by
  unfold PrefixFree
  decide

theorem prefixFree_secretWords : PrefixFree secretWords := by
  unfold PrefixFree
  decide

theorem startsWithWord_iff {word : List Char} :
    startsWithWord word cs = true ↔ word <+: cs.map Text.foldChar := by
  induction word generalizing cs with
  | nil => simp [startsWithWord]
  | cons w word ih =>
    cases cs with
    | nil => simp [startsWithWord]
    | cons c cs =>
      rw [startsWithWord, Bool.and_eq_true, beq_iff_eq, ih, List.map_cons, List.cons_prefix_cons,
        eq_comm]

variable {words : List (List Char)} {w word : List Char}

theorem find?_word_append (hwords : PrefixFree words) (hw : SpellsOne words w)
    (rest : List Char) :
    words.find? (startsWithWord · (w ++ rest)) = some (w.map Text.foldChar) := by
  have hself : w.map Text.foldChar <+: (w ++ rest).map Text.foldChar := by simp
  cases hfind : words.find? (startsWithWord · (w ++ rest)) with
  | none => exact absurd (startsWithWord_iff.mpr hself) (List.find?_eq_none.mp hfind _ hw)
  | some v =>
    have hv : v ∈ words := List.mem_of_find?_eq_some hfind
    have hstarts := List.find?_some hfind
    rw [startsWithWord_iff] at hstarts
    rcases List.prefix_or_prefix_of_prefix hstarts hself with h | h
    · rw [hwords v hv _ hw h]
    · rw [hwords _ hw v hv h]

theorem exists_word_of_find? (h : words.find? (startsWithWord · cs) = some word) :
    ∃ w rest, cs = w ++ rest ∧ SpellsOne words w ∧ w.map Text.foldChar = word := by
  have hstarts := List.find?_some h
  rw [startsWithWord_iff] at hstarts
  obtain ⟨tail, htail⟩ := hstarts
  obtain ⟨w, rest, rfl, hw, -⟩ := List.map_eq_append_iff.mp htail.symm
  refine ⟨w, rest, rfl, ?_, hw⟩
  rw [SpellsOne, hw]
  exact List.mem_of_find?_eq_some h

/-! ## Tokens -/

/-- A scheme, blanks and a token. -/
structure IsToken (scheme blanks token : List Char) : Prop where
  scheme : SpellsOne schemes scheme
  blanks_ne_nil : blanks ≠ []
  blanks : ∀ c ∈ blanks, Text.isBlank c = true
  length_token : minToken ≤ token.length
  token : ∀ c ∈ token, isTokenChar c = true

/-- The finder by the runs that stand behind a scheme. -/
theorem findToken_runs {blanks token rest : List Char} (hb : b.any Pattern.isWordChar = false)
    (hw : SpellsOne schemes w) (hblanks : ∀ c ∈ blanks, Text.isBlank c = true)
    (hstop : ∀ c ∈ (token ++ rest).head?, Text.isBlank c = false)
    (htoken : ∀ c ∈ token, isTokenChar c = true) (hrest : ∀ c ∈ rest.head?, isTokenChar c = false) :
    findToken b (w ++ (blanks ++ (token ++ rest))) =
      if blanks.isEmpty || token.length < minToken then none
      else some (w ++ ' ' :: mask, w.length + blanks.length + token.length - 1) := by
  have hfind := find?_word_append prefixFree_schemes hw (blanks ++ (token ++ rest))
  simp only [findToken, hb, hfind, List.length_map, List.drop_left, List.take_left,
    Text.takeWhile_run hblanks hstop, Text.takeWhile_run htoken hrest]
  rfl

theorem head?_append_of_token {token rest : List Char} (hne : token ≠ [])
    (htoken : ∀ c ∈ token, isTokenChar c = true) :
    ∀ c ∈ (token ++ rest).head?, Text.isBlank c = false := by
  obtain ⟨d, token, rfl⟩ := List.exists_cons_of_ne_nil hne
  rintro c ⟨⟩
  by_contra hc
  rw [Bool.not_eq_false] at hc
  exact absurd (htoken _ List.mem_cons_self) (by simp [isTokenChar_of_isBlank hc])

/-- What the finder of tokens finds. -/
theorem findToken_eq_some_iff :
    findToken b cs = some (put, n) ↔
      ∃ scheme blanks token rest, cs = scheme ++ (blanks ++ (token ++ rest)) ∧
        b.any Pattern.isWordChar = false ∧ IsToken scheme blanks token ∧
        (∀ c ∈ rest.head?, isTokenChar c = false) ∧ put = scheme ++ ' ' :: mask ∧
        n + 1 = scheme.length + blanks.length + token.length := by
  constructor
  · intro h
    cases hb : b.any Pattern.isWordChar with
    | true => simp [findToken, hb] at h
    | false =>
      cases hfind : schemes.find? (startsWithWord · cs) with
      | none => simp [findToken, hb, hfind] at h
      | some word =>
        obtain ⟨w, after, rfl, hw, -⟩ := exists_word_of_find? hfind
        obtain ⟨blanks, behind, rfl, hblanks, hstop⟩ := Text.exists_run Text.isBlank after
        obtain ⟨token, rest, rfl, htoken, hrest⟩ := Text.exists_run isTokenChar behind
        rw [findToken_runs hb hw hblanks hstop htoken hrest] at h
        split at h
        · cases h
        · rename_i hlong
          simp only [Bool.or_eq_true, List.isEmpty_iff, decide_eq_true_eq, not_or,
            Nat.not_lt] at hlong
          obtain ⟨hne, hlength⟩ := hlong
          obtain ⟨rfl, rfl⟩ := Prod.mk.inj (Option.some.inj h)
          refine ⟨w, blanks, token, rest, rfl, rfl, ⟨hw, hne, hblanks, hlength, htoken⟩, hrest, rfl,
            ?_⟩
          unfold minToken at hlength
          omega
  · rintro ⟨scheme, blanks, token, rest, rfl, hb, htoken, hrest, rfl, hn⟩
    have hlength := htoken.length_token
    have hne : token ≠ [] := List.ne_nil_of_length_pos (by unfold minToken at hlength; omega)
    rw [findToken_runs hb htoken.scheme htoken.blanks (head?_append_of_token hne htoken.token)
      htoken.token hrest, if_neg (by simpa [htoken.blanks_ne_nil] using hlength), ← hn,
      Nat.add_sub_cancel]

/-- A token begins with a scheme, blanks and as many characters as the shortest has. -/
theorem findToken_ne_none_iff :
    findToken b cs ≠ none ↔ b.any Pattern.isWordChar = false ∧
      ∃ scheme blanks token, IsToken scheme blanks token ∧ token.length = minToken ∧
        scheme ++ (blanks ++ token) <+: cs := by
  rw [Option.ne_none_iff_exists']
  constructor
  · rintro ⟨⟨put, n⟩, h⟩
    obtain ⟨scheme, blanks, token, rest, rfl, hb, htoken, -, -, -⟩ := findToken_eq_some_iff.mp h
    refine ⟨hb, scheme, blanks, token.take minToken, ⟨htoken.scheme, htoken.blanks_ne_nil,
      htoken.blanks, ?_, fun c hc => htoken.token c (List.mem_of_mem_take hc)⟩, ?_, ?_⟩
    · rw [List.length_take, Nat.min_eq_left htoken.length_token]
    · rw [List.length_take, Nat.min_eq_left htoken.length_token]
    · rw [List.prefix_append_right_inj, List.prefix_append_right_inj]
      exact (List.take_prefix _ _).trans (List.prefix_append _ _)
  · rintro ⟨hb, scheme, blanks, token, htoken, -, behind, rfl⟩
    obtain ⟨run, rest, rfl, hrun, hrest⟩ := Text.exists_run isTokenChar behind
    have hlonger : IsToken scheme blanks (token ++ run) :=
      ⟨htoken.scheme, htoken.blanks_ne_nil, htoken.blanks,
        htoken.length_token.trans (by simp), fun c hc =>
          (List.mem_append.mp hc).elim (htoken.token c) (hrun c)⟩
    have hpos := htoken.length_token
    refine ⟨(scheme ++ ' ' :: mask, scheme.length + blanks.length + (token ++ run).length - 1),
      findToken_eq_some_iff.mpr ⟨scheme, blanks, token ++ run, rest, by simp, hb, hlonger, hrest,
        rfl, ?_⟩⟩
    unfold minToken at hpos
    rw [List.length_append]
    omega

/-! ## Secrets -/

/-- One quote, or none. -/
def OptionalQuote (cs : List Char) : Prop := cs = [] ∨ ∃ c, cs = [c] ∧ isQuote c = true

/-- What stands behind a secret is no part of one: a blank, a semicolon or an ampersand, if
anything. -/
def Closed (rest : List Char) : Prop :=
  ∀ c ∈ rest.head?, Text.isBlank c = true ∨ c = ';' ∨ c = '&'

theorem isQuote_of_isBlank (h : Text.isBlank c = true) : isQuote c = false := by
  have hall : ∀ n ∈ blankCodes, isQuote (Char.ofNat n) = false := by decide +kernel
  simpa using hall c.toNat (toNat_mem_blankCodes h)

theorem closed_iff {rest : List Char} :
    Closed rest ↔ ∀ c ∈ rest.head?, isSecretChar c = false ∧ isQuote c = false := by
  refine forall₂_congr fun c _ => ?_
  rw [isSecretChar_eq_false_iff]
  constructor
  · rintro (h | rfl | rfl)
    · exact ⟨.inl h, isQuote_of_isBlank h⟩
    · decide
    · decide
  · rintro ⟨h | h | h, hquote⟩
    · exact .inl h
    · rw [h] at hquote
      cases hquote
    · exact .inr h

/-- A quote or none stands at the front of any text. -/
theorem exists_quote (cs : List Char) :
    ∃ quote rest, cs = quote ++ rest ∧ OptionalQuote quote ∧
      (quote = [] → ∀ c ∈ rest.head?, isQuote c = false) := by
  cases cs with
  | nil => exact ⟨[], [], rfl, .inl rfl, nofun⟩
  | cons c cs =>
    cases hc : isQuote c with
    | true => exact ⟨[c], cs, rfl, .inr ⟨c, rfl, hc⟩, nofun⟩
    | false => exact ⟨[], c :: cs, rfl, .inl rfl, by rintro - _ ⟨⟩; exact hc⟩

theorem quoteLength_append {quote rest : List Char} (h : OptionalQuote quote)
    (hstop : quote = [] → ∀ c ∈ rest.head?, isQuote c = false) :
    quoteLength (quote ++ rest) = quote.length := by
  rcases h with rfl | ⟨c, rfl, hc⟩
  · cases rest with
    | nil => rfl
    | cons c rest => simp [quoteLength, hstop rfl c rfl]
  · simp [quoteLength, hc]

/-- A secret with its quotes, and what stands behind. -/
structure IsSecret (opening secret closing rest : List Char) : Prop where
  opens : OptionalQuote opening
  le_length : minSecret ≤ secret.length
  chars : ∀ c ∈ secret, isSecretChar c = true
  closes : OptionalQuote closing
  closed : closing = [] → Closed rest

/-- The length of a secret by the runs that the text begins with. -/
theorem secretLength?_runs {opening secret closing rest : List Char}
    (hopening : OptionalQuote opening)
    (hnone : opening = [] → ∀ c ∈ (secret ++ (closing ++ rest)).head?, isQuote c = false)
    (hsecret : ∀ c ∈ secret, isSecretChar c = true)
    (hstop : ∀ c ∈ (closing ++ rest).head?, isSecretChar c = false)
    (hclosing : OptionalQuote closing)
    (hrest : closing = [] → ∀ c ∈ rest.head?, isQuote c = false) :
    secretLength? (opening ++ (secret ++ (closing ++ rest))) =
      if secret.length < minSecret then none
      else some (opening.length + secret.length + closing.length) := by
  have hused : (opening ++ (secret ++ (closing ++ rest))).drop (opening.length + secret.length) =
      closing ++ rest := by
    rw [← List.append_assoc, List.drop_left' List.length_append]
  simp only [secretLength?, quoteLength_append hopening hnone, List.drop_left,
    Text.takeWhile_run hsecret hstop, hused, quoteLength_append hclosing hrest]

theorem isQuote_eq_false_of_isSecretChar (h : isSecretChar c = true) : isQuote c = false := by
  by_contra hquote
  rw [Bool.not_eq_false] at hquote
  simp [isSecretChar, hquote] at h

theorem secretLength?_eq_some_iff {k : Nat} :
    secretLength? cs = some k ↔ ∃ opening secret closing rest,
      cs = opening ++ (secret ++ (closing ++ rest)) ∧ IsSecret opening secret closing rest ∧
        k = opening.length + secret.length + closing.length := by
  constructor
  · intro h
    obtain ⟨opening, after, rfl, hopening, hnone⟩ := exists_quote cs
    obtain ⟨secret, behind, rfl, hsecret, hstop⟩ := Text.exists_run isSecretChar after
    obtain ⟨closing, rest, rfl, hclosing, hrest⟩ := exists_quote behind
    rw [secretLength?_runs hopening hnone hsecret hstop hclosing hrest] at h
    split at h
    · cases h
    · rename_i hlength
      refine ⟨opening, secret, closing, rest, rfl, ⟨hopening, Nat.not_lt.mp hlength, hsecret,
        hclosing, ?_⟩, (Option.some.inj h).symm⟩
      rintro rfl
      exact closed_iff.mpr fun c hc => ⟨hstop c hc, hrest rfl c hc⟩
  · rintro ⟨opening, secret, closing, rest, rfl, h, rfl⟩
    have hlength := h.le_length
    rw [secretLength?_runs h.opens ?_ h.chars ?_ h.closes ?_, if_neg (Nat.not_lt.mpr hlength)]
    · obtain ⟨d, secret, rfl⟩ := List.exists_cons_of_ne_nil
        (List.ne_nil_of_length_pos (Nat.lt_of_lt_of_le (by decide) hlength))
      rintro - c ⟨⟩
      exact isQuote_eq_false_of_isSecretChar (h.chars _ List.mem_cons_self)
    · rcases h.closes with rfl | ⟨d, rfl, hd⟩
      · exact fun c hc => (closed_iff.mp (h.closed rfl) c hc).1
      · rintro c ⟨⟩
        exact isSecretChar_eq_false_iff.mpr (.inr (.inl hd))
    · exact fun hnil c hc => (closed_iff.mp (h.closed hnil) c hc).2

/-- A secret that is long enough may go on, and then it ends somewhere. -/
theorem exists_secretLength {opening secret : List Char} (tail : List Char)
    (hopening : OptionalQuote opening) (hlength : minSecret ≤ secret.length)
    (hsecret : ∀ c ∈ secret, isSecretChar c = true) :
    ∃ more closing rest, tail = more ++ (closing ++ rest) ∧
      IsSecret opening (secret ++ more) closing rest := by
  obtain ⟨more, behind, rfl, hmore, hstop⟩ := Text.exists_run isSecretChar tail
  obtain ⟨closing, rest, rfl, hclosing, hrest⟩ := exists_quote behind
  refine ⟨more, closing, rest, rfl, hopening, hlength.trans (by simp), fun c hc =>
    (List.mem_append.mp hc).elim (hsecret c) (hmore c), hclosing, ?_⟩
  rintro rfl
  exact closed_iff.mpr fun c hc => ⟨hstop c hc, hrest rfl c hc⟩

theorem exists_of_pairLength? {k : Nat} (h : pairLength? cs n = some k) :
    ∃ j m, 0 < j ∧ j ≤ n ∧ secretLength? (cs.drop j) = some m ∧ k = j + m := by
  induction n with
  | zero => cases h
  | succ n ih =>
    rw [pairLength?] at h
    split at h
    · rename_i m hm
      exact ⟨n + 1, m, Nat.succ_pos n, Nat.le_refl _, hm, (Option.some.inj h).symm⟩
    · obtain ⟨j, m, hpos, hle, hm, hk⟩ := ih h
      exact ⟨j, m, hpos, Nat.le_succ_of_le hle, hm, hk⟩

theorem pairLength?_ne_none {j m : Nat} (hpos : 0 < j) (hle : j ≤ n)
    (h : secretLength? (cs.drop j) = some m) : pairLength? cs n ≠ none := by
  induction n with
  | zero => omega
  | succ n ih =>
    rw [pairLength?]
    split
    · nofun
    · rename_i hnone
      refine ih (Nat.le_of_lt_succ (Nat.lt_of_le_of_ne hle ?_))
      rintro rfl
      cases hnone.symm.trans h

theorem findSecret_append (hw : SpellsOne secretWords w) (after : List Char) :
    findSecret b (w ++ after) =
      (pairLength? after (after.takeWhile isSeparator).length).map fun k =>
        (w ++ '=' :: mask, w.length + k - 1) := by
  have hfind := find?_word_append prefixFree_secretWords hw after
  simp only [findSecret, hfind, List.length_map, List.drop_left, List.take_left]
  cases pairLength? after (after.takeWhile isSeparator).length <;> rfl

/-- A word, the marks between it and a secret, and at least as much of the secret as it needs. -/
structure IsPair (word marks secret : List Char) : Prop where
  word : SpellsOne secretWords word
  marks : ∃ separators opening, marks = separators ++ opening ∧ separators ≠ [] ∧
    (∀ c ∈ separators, isSeparator c = true) ∧ OptionalQuote opening
  le_length : minSecret ≤ secret.length
  chars : ∀ c ∈ secret, isSecretChar c = true

theorem IsPair.marks_ne_nil {word marks secret : List Char} (h : IsPair word marks secret) :
    marks ≠ [] := by
  obtain ⟨separators, opening, rfl, hne, -, -⟩ := h.marks
  simp [hne]

theorem IsPair.isMark {word marks secret : List Char} (h : IsPair word marks secret) :
    ∀ c ∈ marks, IsMark c := by
  obtain ⟨separators, opening, rfl, -, hseparators, hopening⟩ := h.marks
  intro c hc
  rcases List.mem_append.mp hc with hc | hc
  · exact .inl (hseparators c hc)
  · rcases hopening with rfl | ⟨d, rfl, hd⟩
    · cases hc
    · rw [List.mem_singleton.mp hc]
      exact .inr hd

/-- What the finder of secrets finds. -/
theorem findSecret_eq_some (h : findSecret b cs = some (put, n)) :
    ∃ word marks secret closing rest, cs = word ++ (marks ++ (secret ++ (closing ++ rest))) ∧
      IsPair word marks secret ∧ OptionalQuote closing ∧ (closing = [] → Closed rest) ∧
      put = word ++ '=' :: mask ∧
      n + 1 = word.length + marks.length + secret.length + closing.length := by
  cases hfind : secretWords.find? (startsWithWord · cs) with
  | none => simp [findSecret, hfind] at h
  | some v =>
    obtain ⟨word, after, rfl, hword, -⟩ := exists_word_of_find? hfind
    rw [findSecret_append hword, Option.map_eq_some_iff] at h
    obtain ⟨k, hk, hput⟩ := h
    obtain ⟨rfl, rfl⟩ := Prod.mk.inj hput
    obtain ⟨j, m, hpos, hle, hm, rfl⟩ := exists_of_pairLength? hk
    obtain ⟨opening, secret, closing, rest, hrest, hsecret, rfl⟩ := secretLength?_eq_some_iff.mp hm
    have hjlength : (after.take j).length = j :=
      List.length_take_of_le (hle.trans (List.takeWhile_prefix _).length_le)
    have htake : after.take j <+: after.takeWhile isSeparator :=
      List.prefix_of_prefix_length_le (List.take_prefix _ _) (List.takeWhile_prefix _)
        (hjlength.trans_le hle)
    have hseparators : ∀ c ∈ after.take j, isSeparator c = true :=
      fun c hc => List.mem_takeWhile_imp (htake.subset hc)
    refine ⟨word, after.take j ++ opening, secret, closing, rest, ?_, ⟨hword, ⟨_, _, rfl, ?_,
      hseparators, hsecret.opens⟩, hsecret.le_length, hsecret.chars⟩, hsecret.closes,
      hsecret.closed, rfl, ?_⟩
    · rw [List.append_assoc, ← hrest, List.take_append_drop]
    · exact List.ne_nil_of_length_pos (hjlength.symm ▸ hpos)
    · rw [List.length_append, hjlength]
      omega

/-- What is found of a secret, all in one, and what is put in its place. -/
theorem exists_found (h : findSecret b cs = some (put, n)) :
    ∃ word found rest, cs = found ++ rest ∧ found.length = n + 1 ∧ SpellsOne secretWords word ∧
      word <+: found ∧ put = word ++ '=' :: mask ∧
      (Closed rest ∨ ∃ c, found.getLast? = some c ∧ isQuote c = true) := by
  obtain ⟨word, marks, secret, closing, rest, rfl, hpair, hclosing, hrest, rfl, hn⟩ :=
    findSecret_eq_some h
  refine ⟨word, word ++ (marks ++ (secret ++ closing)), rest, by simp, ?_, hpair.word,
    List.prefix_append _ _, rfl, ?_⟩
  · simp only [List.length_append]
    omega
  · rcases hclosing with rfl | ⟨c, rfl, hc⟩
    · exact .inl (hrest rfl)
    · exact .inr ⟨c, by simp [← List.append_assoc], hc⟩

/-- A secret begins with a word, separators, a quote at most, and as many characters as the
shortest has. -/
theorem findSecret_ne_none_iff :
    findSecret b cs ≠ none ↔ ∃ word marks secret, IsPair word marks secret ∧
      secret.length = minSecret ∧ word ++ (marks ++ secret) <+: cs := by
  constructor
  · intro h
    obtain ⟨⟨put, n⟩, h⟩ := Option.ne_none_iff_exists'.mp h
    obtain ⟨word, marks, secret, closing, rest, rfl, hpair, -, -, -, -⟩ := findSecret_eq_some h
    have hlength : (secret.take minSecret).length = minSecret :=
      List.length_take_of_le hpair.le_length
    refine ⟨word, marks, secret.take minSecret, ⟨hpair.word, hpair.marks, hlength.ge,
      fun c hc => hpair.chars c (List.mem_of_mem_take hc)⟩, hlength, ?_⟩
    rw [List.prefix_append_right_inj, List.prefix_append_right_inj]
    exact (List.take_prefix _ _).trans (List.prefix_append _ _)
  · rintro ⟨word, marks, secret, ⟨hword, ⟨separators, opening, rfl, hne, hseparators, hopening⟩,
      hlength, hsecret⟩, -, tail, rfl⟩
    obtain ⟨more, closing, rest, rfl, hlonger⟩ := exists_secretLength tail hopening hlength hsecret
    have hfound : secretLength? (opening ++ ((secret ++ more) ++ (closing ++ rest))) = some _ :=
      secretLength?_eq_some_iff.mpr ⟨_, _, _, _, rfl, hlonger, rfl⟩
    simp only [List.append_assoc] at hfound ⊢
    rw [findSecret_append hword, Option.map_eq_none_iff.ne]
    refine pairLength?_ne_none (List.length_pos_of_ne_nil hne) ?_
      (by rw [List.drop_left]; exact hfound)
    rw [List.takeWhile_append_of_pos hseparators, List.length_append]
    exact Nat.le_add_right _ _

/-- Behind what is put in place of a secret the finder takes more only where the text goes on. -/
theorem findSecret_masked (hw : SpellsOne secretWords w) (b : Option Char) (rest : List Char) :
    ∃ more behind, rest = more ++ behind ∧ (more = [] ↔ Closed rest) ∧
      findSecret b (w ++ '=' :: (mask ++ rest)) =
        some (w ++ '=' :: mask, w.length + 3 + more.length) := by
  have hmask : ∀ c ∈ mask, isSecretChar c = true := List.all_eq_true.mp (by decide)
  have hlength : minSecret ≤ mask.length := Nat.le_refl 3
  obtain ⟨more, closing, behind, rfl, hsecret⟩ :=
    exists_secretLength rest (.inl rfl) hlength hmask
  have hfound := secretLength?_eq_some_iff.mpr ⟨_, _, _, _, rfl, hsecret, rfl⟩
  refine ⟨more ++ closing, behind, by simp, ?_, ?_⟩
  · rw [List.append_eq_nil_iff, closed_iff]
    constructor
    · rintro ⟨rfl, rfl⟩
      exact closed_iff.mp (hsecret.closed rfl)
    · intro hclosed
      have hmore : more = [] := by
        cases more with
        | nil => rfl
        | cons c more =>
          have hc := hsecret.chars c (by simp)
          exact absurd hc (by simp [(hclosed c rfl).1])
      subst hmore
      refine ⟨rfl, hsecret.closes.resolve_right ?_⟩
      rintro ⟨c, rfl, hc⟩
      exact absurd hc (by simp [(hclosed c rfl).2])
  · have hseparators :
        ('=' :: (mask ++ (more ++ (closing ++ behind)))).takeWhile isSeparator = ['='] := rfl
    rw [findSecret_append hw, hseparators]
    simp only [List.nil_append, List.append_assoc, List.length_nil, List.length_append] at hfound
    simp only [List.length_singleton, pairLength?, List.drop_succ_cons, List.drop_zero, hfound,
      Option.map_some, List.length_append]
    have hthree : mask.length = 3 := rfl
    rw [hthree]
    congr 2
    omega

/-! ## Lengths -/

theorem length_append_mask (w : List Char) (sign : Char) :
    (w ++ sign :: mask).length = w.length + 4 := by
  rw [List.length_append]
  rfl

theorem shrinksStrictly_findToken : ShrinksStrictly findToken := by
  intro b cs put n h
  obtain ⟨scheme, blanks, token, rest, rfl, -, htoken, -, rfl, hn⟩ := findToken_eq_some_iff.mp h
  have hblanks := List.length_pos_of_ne_nil htoken.blanks_ne_nil
  have hlength : 6 ≤ token.length := htoken.length_token
  rw [length_append_mask]
  simp only [List.length_append]
  omega

theorem shrinks_findSecret : Shrinks findSecret := by
  intro b cs put n h
  obtain ⟨word, marks, secret, closing, rest, rfl, hpair, -, -, rfl, hn⟩ := findSecret_eq_some h
  have hmarks := List.length_pos_of_ne_nil hpair.marks_ne_nil
  have hlength : 3 ≤ secret.length := hpair.le_length
  rw [length_append_mask]
  simp only [List.length_append]
  omega

end RequestValidation.Redaction
