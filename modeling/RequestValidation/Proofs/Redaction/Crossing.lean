import RequestValidation.Proofs.Redaction.Finders
/-!
# Finds that cross a replacement

A finder that looks at a redacted text may find something that was not there before. Such a find
begins in front of what was put in place and goes on into it. The words are apart from each other
and from what stands behind them, so little is left of how it can lie: the word in front of the
mask stands as a whole in the token or secret of the find.

Results:
* `exists_of_crossing`: where a find lies that crosses a word with a mark behind it.
* `findSecret_cons_replaceAll`: no secret crosses a replaced secret.
* `findToken_cons_replaceAll`: no token crosses a replaced token.
* `findToken_replaceAll_eq_none_iff`: a token crosses a replaced secret where `Tempts` says so.
-/
namespace RequestValidation.Redaction

variable {find : Finder} {b b' : Option Char} {c : Char} {cs cs' put : List Char} {n : Nat}

/-! ## The words -/

/-- A text that writes a word which one of the finders looks for. -/
def IsWord (cs : List Char) : Prop := SpellsOne (schemes ++ secretWords) cs

theorem isWord_of_scheme (h : SpellsOne schemes cs) : IsWord cs := List.mem_append_left _ h

theorem isWord_of_secretWord (h : SpellsOne secretWords cs) : IsWord cs := List.mem_append_right _ h

theorem IsWord.not_isMark (h : IsWord cs) (hc : c ∈ cs) : ¬ IsMark c := by
  have hall : ∀ word ∈ schemes ++ secretWords,
      word.all (fun d => !(isSeparator d || isQuote d)) = true := by decide
  intro hmark
  have hd := List.all_eq_true.mp (hall _ h) _ (List.mem_map_of_mem hc)
  rw [foldChar_of_isMark hmark, Bool.not_eq_true', Bool.or_eq_false_iff] at hd
  rcases hmark with hmark | hmark
  · rw [hd.1] at hmark
    cases hmark
  · rw [hd.2] at hmark
    cases hmark

theorem IsWord.five_le_length (h : IsWord cs) : 5 ≤ cs.length := by
  have hall : ∀ word ∈ schemes ++ secretWords, 5 ≤ word.length := by decide
  simpa using hall _ h

theorem IsWord.ne_nil (h : IsWord cs) : cs ≠ [] :=
  List.ne_nil_of_length_pos (Nat.lt_of_lt_of_le (by decide) h.five_le_length)

/-- No word is the end of another. -/
theorem IsWord.eq_nil_of_append {front w v : List Char} (hw : IsWord w) (hv : IsWord v)
    (h : w = front ++ v) : front = [] := by
  have hall : ∀ w ∈ schemes ++ secretWords, ∀ v ∈ schemes ++ secretWords, v <:+ w → v = w := by
    decide
  have hsuffix : v.map Text.foldChar <:+ w.map Text.foldChar := by
    rw [h, List.map_append]
    exact List.suffix_append _ _
  have hlength := congrArg List.length (hall _ hw _ hv hsuffix)
  rw [h, List.length_map, List.length_map, List.length_append] at hlength
  exact List.eq_nil_of_length_eq_zero (by omega)

/-! ## Crossings -/

/-- Where a word with marks behind it lies that goes on into another word and the mark behind it. -/
theorem exists_of_crossing {w marks behind front word tail : List Char} {sign : Char}
    (hw : IsWord w) (hne : marks ≠ []) (hmarks : ∀ c ∈ marks, IsMark c) (hfront : front ≠ [])
    (hword : IsWord word) (hsign : IsMark sign)
    (h : w ++ (marks ++ behind) = front ++ (word ++ sign :: tail)) :
    ∃ mid, front = w ++ (marks ++ mid) ∧ behind = mid ++ (word ++ sign :: tail) := by
  obtain ⟨m, marks', rfl⟩ := List.exists_cons_of_ne_nil hne
  have hm : IsMark m := hmarks m List.mem_cons_self
  rcases List.append_eq_append_iff.mp h with ⟨mid, rfl, hrest⟩ | ⟨more, rfl, hrest⟩
  · -- the first word ends in front of the second one, and its marks cannot reach into it
    rcases List.append_eq_append_iff.mp hrest with ⟨mid', rfl, rfl⟩ | ⟨more, hmid, hrest⟩
    · exact ⟨mid', by simp, rfl⟩
    · cases more with
      | nil => exact ⟨[], by simpa using hmid.symm, by simpa using hrest.symm⟩
      | cons d more =>
        have hd : d ∈ word := by
          obtain ⟨e, word, rfl⟩ := List.exists_cons_of_ne_nil hword.ne_nil
          obtain ⟨rfl, -⟩ := List.cons.inj hrest
          exact List.mem_cons_self
        exact absurd (hmarks d (hmid ▸ by simp)) (hword.not_isMark hd)
  · -- the first word goes on into the second one
    rcases List.append_eq_append_iff.mp hrest with ⟨mid, rfl, hmid⟩ | ⟨more', hover, hrest'⟩
    · cases mid with
      | nil => exact absurd (hw.eq_nil_of_append hword (by simp)) hfront
      | cons d mid =>
        obtain ⟨rfl, -⟩ := List.cons.inj hmid
        exact absurd hsign (hw.not_isMark (by simp))
    · cases more' with
      | nil =>
        rw [List.append_nil] at hover
        exact absurd (hw.eq_nil_of_append hword (by rw [hover])) hfront
      | cons d more' =>
        obtain ⟨rfl, -⟩ := List.cons.inj hrest'
        exact absurd hm (hword.not_isMark (hover ▸ by simp))

/-- A finder that leaves the word in its place and puts a sign and the mask behind it. -/
def KeepsWord (find : Finder) (words : List (List Char)) (sign : Char) : Prop :=
  ∀ b cs put n, find b cs = some (put, n) →
    ∃ word after, cs = word ++ after ∧ SpellsOne words word ∧ put = word ++ sign :: mask

theorem keepsWord_findToken : KeepsWord findToken schemes ' ' := by
  intro b cs put n h
  obtain ⟨scheme, blanks, token, rest, rfl, -, htoken, -, rfl, -⟩ := findToken_eq_some_iff.mp h
  exact ⟨scheme, _, rfl, htoken.scheme, rfl⟩

theorem keepsWord_findSecret : KeepsWord findSecret secretWords '=' := by
  intro b cs put n h
  obtain ⟨word, marks, secret, closing, rest, rfl, hpair, -, -, rfl, -⟩ := findSecret_eq_some h
  exact ⟨word, _, rfl, hpair.word, rfl⟩

/-- What stands at the front of a replaced text and did not stand at the front of the text goes on
into the first word that is found in it and the sign behind. -/
theorem exists_of_new_start {words : List (List Char)} {sign : Char}
    (hfind : KeepsWord find words sign) (hwords : ∀ {v}, SpellsOne words v → IsWord v)
    (hsign : IsMark sign) {w marks behind : List Char} (hw : IsWord w) (hne : marks ≠ [])
    (hmarks : ∀ c ∈ marks, IsMark c) (hnew : w ++ (marks ++ behind) <+: c :: replaceAll find b cs)
    (hold : ¬ w ++ (marks ++ behind) <+: c :: cs) :
    ∃ mid word after tail b', c :: cs = w ++ (marks ++ (mid ++ (word ++ after))) ∧
      behind = mid ++ (word ++ sign :: tail) ∧ SpellsOne words word ∧
      find b' (word ++ after) ≠ none := by
  rcases eq_or_exists_first find b cs with heq | ⟨front, back, b', put, n, out, rfl, hback, heq⟩
  · exact absurd (heq ▸ hnew) hold
  · obtain ⟨word, after, rfl, hword, rfl⟩ := hfind _ _ _ _ hback
    have hkept : c :: front ++ word <+: c :: (front ++ (word ++ after)) := ⟨after, by simp⟩
    have hout : c :: replaceAll find b (front ++ (word ++ after)) =
        (c :: front ++ word) ++ sign :: (mask ++ out) := by simp [heq]
    rw [hout] at hnew
    rcases List.prefix_or_prefix_of_prefix hnew (List.prefix_append _ _) with h | ⟨tail, h⟩
    · exact absurd (h.trans hkept) hold
    · rw [← h, List.prefix_append_right_inj] at hnew
      cases tail with
      | nil =>
        rw [List.append_nil] at h
        exact absurd (h ▸ hkept) hold
      | cons d tail =>
        obtain rfl : d = sign := (List.cons_prefix_cons.mp hnew).1
        rw [List.append_assoc] at h
        obtain ⟨mid, hfront, rfl⟩ := exists_of_crossing hw hne hmarks (List.cons_ne_nil c front)
          (hwords hword) hsign h.symm
        refine ⟨mid, word, after, tail, b', ?_, rfl, hword, by simp [hback]⟩
        rw [← List.cons_append, hfront]
        simp

theorem IsToken.isMark {scheme blanks token : List Char} (h : IsToken scheme blanks token) :
    ∀ c ∈ blanks, IsMark c :=
  fun c hc => .inl (by simp [isSeparator, h.blanks c hc])

theorem isMark_space : IsMark ' ' := .inl (by decide)

theorem isMark_equals : IsMark '=' := .inl (by decide)

/-- A secret that is not there does not come up behind a replacement of secrets: three characters
are too few for a word. -/
theorem findSecret_cons_replaceAll (h : findSecret b (c :: cs) = none) :
    findSecret b (c :: replaceAll findSecret b' cs) = none := by
  by_contra hnew
  obtain ⟨w, marks, secret, hpair, hlength, hprefix⟩ := findSecret_ne_none_iff.mp hnew
  have hold : ¬ w ++ (marks ++ secret) <+: c :: cs := fun hold =>
    absurd h (findSecret_ne_none_iff.mpr ⟨w, marks, secret, hpair, hlength, hold⟩)
  obtain ⟨mid, word, after, tail, b', -, rfl, hword, -⟩ :=
    exists_of_new_start keepsWord_findSecret isWord_of_secretWord isMark_equals
      (isWord_of_secretWord hpair.word) hpair.marks_ne_nil hpair.isMark hprefix hold
  have hfive := (isWord_of_secretWord hword).five_le_length
  rw [List.length_append, List.length_append, minSecret] at hlength
  omega

/-- A token that is not there does not come up behind a replacement of tokens: the space is no
character of a token. -/
theorem findToken_cons_replaceAll (h : findToken b (c :: cs) = none) :
    findToken b (c :: replaceAll findToken b' cs) = none := by
  by_contra hnew
  obtain ⟨hb, w, blanks, token, htoken, hlength, hprefix⟩ := findToken_ne_none_iff.mp hnew
  have hold : ¬ w ++ (blanks ++ token) <+: c :: cs := fun hold =>
    absurd h (findToken_ne_none_iff.mpr ⟨hb, w, blanks, token, htoken, hlength, hold⟩)
  obtain ⟨mid, word, after, tail, b', -, rfl, -, -⟩ :=
    exists_of_new_start keepsWord_findToken isWord_of_scheme isMark_space
      (isWord_of_scheme htoken.scheme) htoken.blanks_ne_nil htoken.isMark hprefix hold
  exact absurd (htoken.token ' ' (by simp)) (by decide)

/-! ## Tokens of replaced secrets -/

/-- A scheme as a word of its own and blanks stand in front of a secret behind the word `token`. The
sign that is put behind the word makes a token of it. -/
inductive Tempts (b : Option Char) : List Char → Prop
  | mk {scheme blanks word after : List Char} {b' : Option Char}
    (hedge : b.any Pattern.isWordChar = false) (hscheme : SpellsOne schemes scheme)
    (hne : blanks ≠ []) (hblanks : ∀ c ∈ blanks, Text.isBlank c = true)
    (hword : word.map Text.foldChar = "token".toList)
    (hfound : findSecret b' (word ++ after) ≠ none) :
    Tempts b (scheme ++ (blanks ++ (word ++ after)))

theorem eq_token_of_length {word : List Char} (hword : SpellsOne secretWords word)
    (hlength : word.length ≤ 5) : word.map Text.foldChar = "token".toList := by
  have hall : ∀ v ∈ secretWords, v.length ≤ 5 → v = "token".toList := by decide
  exact hall _ hword (by simpa using hlength)

theorem tempts_of_findToken (h : findToken b (c :: cs) = none)
    (hnew : findToken b (c :: replaceAll findSecret b' cs) ≠ none) : Tempts b (c :: cs) := by
  obtain ⟨hb, w, blanks, token, htoken, hlength, hprefix⟩ := findToken_ne_none_iff.mp hnew
  have hold : ¬ w ++ (blanks ++ token) <+: c :: cs := fun hold =>
    absurd h (findToken_ne_none_iff.mpr ⟨hb, w, blanks, token, htoken, hlength, hold⟩)
  obtain ⟨mid, word, after, tail, b', hcs, rfl, hword, hfound⟩ :=
    exists_of_new_start keepsWord_findSecret isWord_of_secretWord isMark_equals
      (isWord_of_scheme htoken.scheme) htoken.blanks_ne_nil htoken.isMark hprefix hold
  have hfive := (isWord_of_secretWord hword).five_le_length
  simp only [List.length_append, List.length_cons, minToken] at hlength
  -- five characters of the word and the sign are all that the token has
  obtain rfl : mid = [] := List.eq_nil_of_length_eq_zero (by omega)
  rw [hcs, List.nil_append]
  exact .mk hb htoken.scheme htoken.blanks_ne_nil htoken.blanks
    (eq_token_of_length hword (by omega)) hfound

/-- A word that is found in a text with a mark in it ends in front of the mark. -/
theorem IsWord.ends_before_mark {w front rest : List Char} {m : Char} (hw : IsWord w)
    (hm : IsMark m) (h : w <+: front ++ m :: rest) : w <+: front := by
  rcases List.prefix_or_prefix_of_prefix h (List.prefix_append front (m :: rest)) with
    hinside | ⟨more, rfl⟩
  · exact hinside
  · cases more with
    | nil => simp
    | cons d more =>
      rw [List.prefix_append_right_inj, List.cons_prefix_cons] at h
      exact absurd (h.1 ▸ hm) (hw.not_isMark (by simp))

/-- No secret begins in a scheme: every word in front of one has a letter that is in no scheme. -/
theorem findSecret_eq_none_of_scheme {scheme front tail : List Char} {m : Char}
    (hscheme : SpellsOne schemes scheme) (h : scheme = front ++ tail) (hm : IsMark m)
    (b : Option Char) (rest : List Char) : findSecret b (tail ++ m :: rest) = none := by
  have hall : ∀ w ∈ secretWords, w.any (fun d => schemes.all (!·.contains d)) = true := by decide
  by_contra hfound
  obtain ⟨w, marks, secret, hpair, -, hprefix⟩ := findSecret_ne_none_iff.mp hfound
  have hw : w <+: tail := (isWord_of_secretWord hpair.word).ends_before_mark hm
    ((List.prefix_append _ _).trans hprefix)
  obtain ⟨d, hd, hforeign⟩ := List.any_eq_true.mp (hall _ hpair.word)
  obtain ⟨e, he, rfl⟩ := List.mem_map.mp hd
  have hout := List.all_eq_true.mp hforeign _ hscheme
  rw [Bool.not_eq_true', List.contains_eq_mem, decide_eq_false_iff_not] at hout
  refine hout (List.mem_map_of_mem ?_)
  rw [h]
  exact List.mem_append_right _ (hw.subset he)

/-- A scheme and blanks are kept where secrets are replaced. -/
theorem exists_replaceAll_behind_scheme {scheme blanks : List Char}
    (hscheme : SpellsOne schemes scheme) (hne : blanks ≠ [])
    (hblanks : ∀ c ∈ blanks, Text.isBlank c = true) (b : Option Char) (rest : List Char) :
    ∃ b', replaceAll findSecret b (scheme ++ (blanks ++ rest)) =
      scheme ++ (blanks ++ replaceAll findSecret b' rest) := by
  have hmark : ∀ c ∈ blanks, IsMark c := fun c hc => .inl (by simp [isSeparator, hblanks c hc])
  have hnone : ∀ front tail b, scheme ++ blanks = front ++ tail → tail ≠ [] →
      findSecret b (tail ++ rest) = none := by
    intro front tail b h htail
    rcases List.append_eq_append_iff.mp h with ⟨mid, -, rfl⟩ | ⟨mid, hmid, rfl⟩
    · obtain ⟨m, tail, rfl⟩ := List.exists_cons_of_ne_nil htail
      exact findSecret_eq_none_of_scheme hscheme (List.append_nil scheme).symm
        (hmark m (by simp)) b _
    · obtain ⟨m, blanks, rfl⟩ := List.exists_cons_of_ne_nil hne
      rw [List.append_assoc]
      exact findSecret_eq_none_of_scheme hscheme hmid (hmark m List.mem_cons_self) b _
  obtain ⟨b', heq⟩ := exists_replaceAll_append hnone b
  exact ⟨b', by simpa only [List.append_assoc] using heq⟩

theorem exists_replaceAll_found {word after : List Char} (hword : SpellsOne secretWords word)
    (h : findSecret b (word ++ after) ≠ none) (b' : Option Char) :
    ∃ out, replaceAll findSecret b' (word ++ after) = word ++ '=' :: (mask ++ out) := by
  obtain ⟨found, hsome⟩ := Option.ne_none_iff_exists'.mp h
  rw [findSecret_append hword, Option.map_eq_some_iff] at hsome
  obtain ⟨k, hk, -⟩ := hsome
  have hfound : findSecret b' (word ++ after) =
      some (word ++ '=' :: mask, word.length + k - 1) := by
    rw [findSecret_append hword, hk]
    rfl
  obtain ⟨c, tail, hcs⟩ : ∃ c tail, word ++ after = c :: tail :=
    List.exists_cons_of_ne_nil (by simp [(isWord_of_secretWord hword).ne_nil])
  rw [hcs] at hfound ⊢
  rw [replaceAll_of_some hfound, List.append_assoc, List.cons_append]
  exact ⟨_, rfl⟩

theorem isTokenChar_of_token {word : List Char} (hword : word.map Text.foldChar = "token".toList)
    (hc : c ∈ word) : isTokenChar c = true := by
  have hall : ∀ d ∈ "token".toList, (d.isAlphanum || "_.=+/-".toList.contains d) = true :=
    List.all_eq_true.mp (by decide)
  exact hall _ (hword ▸ List.mem_map_of_mem hc)

theorem findToken_of_tempts (h : Tempts b cs) (b' : Option Char) :
    findToken b (replaceAll findSecret b' cs) ≠ none := by
  cases h with
  | @mk scheme blanks word after _ hb hscheme hne hblanks hword hfound =>
  have hsecret : SpellsOne secretWords word := by
    rw [SpellsOne, hword]
    decide
  have hlength : word.length = 5 := by simpa using congrArg List.length hword
  obtain ⟨b₁, heq⟩ := exists_replaceAll_behind_scheme hscheme hne hblanks b' (word ++ after)
  obtain ⟨out, hout⟩ := exists_replaceAll_found hsecret hfound b₁
  refine findToken_ne_none_iff.mpr ⟨hb, scheme, blanks, word ++ ['='], ⟨hscheme, hne, hblanks, ?_,
    ?_⟩, ?_, ?_⟩
  · simp [hlength, minToken]
  · intro c hc
    rcases List.mem_append.mp hc with hc | hc
    · exact isTokenChar_of_token hword hc
    · rw [List.mem_singleton.mp hc]
      decide
  · simp [hlength, minToken]
  · rw [heq, hout]
    exact ⟨mask ++ out, by simp⟩

/-- Where secrets are replaced, a token comes up where one is tempted, and nowhere else. -/
theorem findToken_replaceAll_eq_none_iff (h : findToken b (c :: cs) = none)
    (hkept : findSecret b' (c :: cs) = none) :
    findToken b (c :: replaceAll findSecret (some c) cs) = none ↔ ¬ Tempts b (c :: cs) := by
  constructor
  · intro hnone htempts
    have hnew := findToken_of_tempts htempts b'
    rw [replaceAll_of_none hkept] at hnew
    exact hnew hnone
  · intro hfree
    by_contra hnew
    exact hfree (tempts_of_findToken h hnew)

end RequestValidation.Redaction
