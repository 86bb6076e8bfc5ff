import RequestValidation.Redaction
/-!
# What redaction lets through of a document

A value is exposed in a document if no name that speaks of credentials stands on the way to it.
Whatever is not exposed leaves no trace in the redacted document, and what is exposed keeps its
place and its shape there.

Results:
* `isSensitive_iff`: which names speak of credentials.
* `redact_of_alike`: what stands under such names has no influence.
* `exposed_redact`, `keepsShape_redact`: what is exposed stays so, in its shape.
* `redact_hides_secrets_only`: both together.
-/
namespace RequestValidation.Redaction

/-- A name that speaks of credentials: in small letters it has one of some words in it, or is
another. -/
def Sensitive (key : String) : Prop :=
  (∃ word ∈ ["key", "token", "password", "passwd", "secret", "session", "auth"],
    word.toList <:+: (Text.lower key).toList) ∨ Text.lower key = "cookie"

/-- Documents that are equal but for values under sensitive names. -/
inductive AlikeButSecrets : Json → Json → Prop
  | same (v : Json) : AlikeButSecrets v v
  | array {vs ws : List Json} (hlength : vs.length = ws.length)
      (hitems : ∀ (i : Nat) (v w : Json), vs[i]? = some v → ws[i]? = some w →
        AlikeButSecrets v w) :
      AlikeButSecrets (.array vs) (.array ws)
  | object {ms ns : List (String × Json)} (hkeys : ms.map Prod.fst = ns.map Prod.fst)
      (hmembers : ∀ (i : Nat) (k : String) (v w : Json), ms[i]? = some (k, v) →
        ns[i]? = some (k, w) → ¬ Sensitive k → AlikeButSecrets v w) :
      AlikeButSecrets (.object ms) (.object ns)

/-- `Exposed v places w` says that the places of items and members lead from `v` to `w`, past no
sensitive name. -/
inductive Exposed : Json → List Nat → Json → Prop
  | here (v : Json) : Exposed v [] v
  | item {vs : List Json} {i : Nat} {v w : Json} {places : List Nat} (hv : vs[i]? = some v)
      (h : Exposed v places w) : Exposed (.array vs) (i :: places) w
  | member {ms : List (String × Json)} {i : Nat} {k : String} {v w : Json} {places : List Nat}
      (hv : ms[i]? = some (k, v)) (hk : ¬ Sensitive k) (h : Exposed v places w) :
      Exposed (.object ms) (i :: places) w

/-- What becomes of an exposed value, but for its parts: numbers, booleans and `null` stay, texts
stay texts, arrays keep their length and objects their names in order. What stands under a
sensitive name is struck out. -/
inductive KeepsShape : Json → Json → Prop
  | null : KeepsShape .null .null
  | bool (b : Bool) : KeepsShape (.bool b) (.bool b)
  | number (n : Number) : KeepsShape (.number n) (.number n)
  | string (s t : String) : KeepsShape (.string s) (.string t)
  | array {vs ws : List Json} (hlength : ws.length = vs.length) :
      KeepsShape (.array vs) (.array ws)
  | object {ms ns : List (String × Json)} (hkeys : ns.map Prod.fst = ms.map Prod.fst)
      (hsecrets : ∀ p ∈ ns, Sensitive p.1 → p.2 = .string "***") :
      KeepsShape (.object ms) (.object ns)

theorem isSensitive_iff (key : String) : isSensitive key = true ↔ Sensitive key := by
  have hoccurs : ∀ word : String, Text.occursIn word.toList (Text.lower key).toList = true ↔
      word.toList <:+: (Text.lower key).toList := by
    intro word
    rw [Text.occursIn_iff]
    exact ⟨fun ⟨s, t, h⟩ => ⟨s, t, h.symm⟩, fun ⟨s, t, h⟩ => ⟨s, t, h.symm⟩⟩
  simp only [isSensitive, Bool.or_eq_true, List.any_eq_true, hoccurs, beq_iff_eq]
  rfl

/-! ## Changing one value -/

/-- In lists that differ in one element, what has one place is the same or is that element. -/
theorem eq_or_changed {α : Type} {before after : List α} {a b x y : α} {i : Nat}
    (hx : (before ++ a :: after)[i]? = some x) (hy : (before ++ b :: after)[i]? = some y) :
    x = y ∨ x = a ∧ y = b := by
  by_cases hi : i < before.length
  · rw [List.getElem?_append_left hi] at hx hy
    exact .inl (Option.some.inj (hx.symm.trans hy))
  · rw [List.getElem?_append_right (Nat.le_of_not_lt hi)] at hx hy
    cases hn : i - before.length with
    | zero =>
      simp only [hn, List.getElem?_cons_zero, Option.some.injEq] at hx hy
      exact .inr ⟨hx.symm, hy.symm⟩
    | succ n =>
      simp only [hn, List.getElem?_cons_succ] at hx hy
      exact .inl (Option.some.inj (hx.symm.trans hy))

namespace AlikeButSecrets

/-- The value of one member may change if its name is sensitive, or else into one that is alike. -/
theorem member {k : String} {v w : Json} (h : Sensitive k ∨ AlikeButSecrets v w)
    (before after : List (String × Json)) :
    AlikeButSecrets (.object (before ++ (k, v) :: after))
      (.object (before ++ (k, w) :: after)) := by
  refine .object (by simp) fun i l x y hx hy hl => ?_
  rcases eq_or_changed hx hy with ⟨⟨⟩⟩ | ⟨⟨⟩, ⟨⟩⟩
  · exact .same x
  · exact h.resolve_left hl

/-- One item may change into one that is alike. -/
theorem item {v w : Json} (h : AlikeButSecrets v w) (before after : List Json) :
    AlikeButSecrets (.array (before ++ v :: after)) (.array (before ++ w :: after)) := by
  refine .array (by simp) fun i x y hx hy => ?_
  rcases eq_or_changed hx hy with rfl | ⟨rfl, rfl⟩
  · exact .same x
  · exact h

end AlikeButSecrets

/-! ## One level of a document -/

/-- What becomes of a member. -/
def redactMember (p : String × Json) : String × Json :=
  (p.1, if isSensitive p.1 then .string "***" else redact p.2)

theorem redactMember_of_sensitive {k : String} (hk : Sensitive k) (v : Json) :
    redactMember (k, v) = (k, .string "***") := by
  simp [redactMember, (isSensitive_iff k).mpr hk]

theorem redactMember_of_not_sensitive {k : String} (hk : ¬ Sensitive k) (v : Json) :
    redactMember (k, v) = (k, redact v) := by
  simp [redactMember, mt (isSensitive_iff k).mp hk]

theorem redact_array (vs : List Json) : redact (.array vs) = .array (vs.map redact) := by
  rw [redact]
  congr 1
  induction vs with
  | nil => rfl
  | cons v vs ih => rw [redactItems, ih, List.map_cons]

theorem redact_object (ms : List (String × Json)) :
    redact (.object ms) = .object (ms.map redactMember) := by
  rw [redact]
  congr 1
  induction ms with
  | nil => rfl
  | cons p ms ih => rw [redactMembers, ih, List.map_cons]; rfl

/-! ## Secrets have no influence -/

/-- Lists of one length whose elements have one image, place by place, have one image. -/
theorem map_eq_map_of_places {α β : Type} {f : α → β} {xs ys : List α}
    (hlength : xs.length = ys.length)
    (h : ∀ (i : Nat) (x y : α), xs[i]? = some x → ys[i]? = some y → f x = f y) :
    xs.map f = ys.map f := by
  refine List.ext_getElem (by simp [hlength]) fun i hi hi' => ?_
  rw [List.length_map] at hi hi'
  rw [List.getElem_map, List.getElem_map]
  exact h i xs[i] ys[i] (List.getElem?_eq_getElem hi) (List.getElem?_eq_getElem hi')

theorem redact_of_alike {v w : Json} (h : AlikeButSecrets v w) : redact v = redact w := by
  induction h with
  | same v => rfl
  | array hlength _ ih =>
    rw [redact_array, redact_array, map_eq_map_of_places hlength ih]
  | object hkeys _ ih =>
    have hlength := congrArg List.length hkeys
    rw [List.length_map, List.length_map] at hlength
    rw [redact_object, redact_object, map_eq_map_of_places hlength]
    rintro i ⟨k, v⟩ ⟨l, w⟩ hm hn
    obtain rfl : k = l := by
      have := congrArg (·[i]?) hkeys
      simpa [hm, hn] using this
    by_cases hk : Sensitive k
    · rw [redactMember_of_sensitive hk, redactMember_of_sensitive hk]
    · rw [redactMember_of_not_sensitive hk, redactMember_of_not_sensitive hk,
        ih i k v w hm hn hk]

/-! ## What is exposed keeps its shape -/

theorem exposed_redact {v w : Json} {places : List Nat} (h : Exposed v places w) :
    Exposed (redact v) places (redact w) := by
  induction h with
  | here v => exact .here (redact v)
  | item hv _ ih =>
    rw [redact_array]
    exact .item (by simp [hv]) ih
  | member hv hk _ ih =>
    rw [redact_object]
    exact .member (by simp [hv, redactMember_of_not_sensitive hk]) hk ih

theorem keepsShape_redact (v : Json) : KeepsShape v (redact v) := by
  cases v with
  | null => rw [redact]; exact .null
  | bool b => rw [redact]; exact .bool b
  | number n => rw [redact]; exact .number n
  | string s => rw [redact]; exact .string s _
  | array vs => rw [redact_array]; exact .array (by simp)
  | object ms =>
    rw [redact_object]
    refine .object (by simp [redactMember]) fun p hp hk => ?_
    obtain ⟨⟨k, v⟩, -, rfl⟩ := List.mem_map.mp hp
    have hsecret : Sensitive k := hk
    rw [redactMember_of_sensitive hsecret]

/-- **Redaction hides the secrets and nothing else.** Documents that are equal but for values under
sensitive names are redacted alike. What no sensitive name stands in front of is found at its place
in the redacted document, in its shape, and there every sensitive name has the same mask. -/
theorem redact_hides_secrets_only :
    (∀ v w : Json, AlikeButSecrets v w → redact v = redact w) ∧
      ∀ (v w : Json) (places : List Nat), Exposed v places w →
        ∃ w', Exposed (redact v) places w' ∧ KeepsShape w w' :=
  ⟨fun _ _ h => redact_of_alike h,
    fun _ w _ h => ⟨redact w, exposed_redact h, keepsShape_redact w⟩⟩

/-- A document with a credential in it, some levels down. -/
def login (token : Json) : Json :=
  .object [("id", .int 7), ("from", .array [.object [("Access_Token", token), ("at", .null)]])]

/-- The credential has no influence, whatever it is, and what stands beside it is still there. -/
theorem login_hides_token :
    AlikeButSecrets (login (.string "abc")) (login (.array [.int 1])) ∧
      redact (login (.string "abc")) = redact (login (.array [.int 1])) ∧
      Exposed (login (.string "abc")) [1, 0, 1] .null ∧
      ∃ w, Exposed (redact (login (.string "abc"))) [1, 0, 1] w ∧ KeepsShape .null w := by
  have hsecret : Sensitive "Access_Token" := (isSensitive_iff _).mp (by decide)
  have hfrom : ¬ Sensitive "from" := mt (isSensitive_iff _).mpr (by decide)
  have hat : ¬ Sensitive "at" := mt (isSensitive_iff _).mpr (by decide)
  have halike : AlikeButSecrets (login (.string "abc")) (login (.array [.int 1])) :=
    .member (.inr (.item (.member (.inl hsecret) [] [("at", .null)]) [] [])) [("id", .int 7)] []
  have hexposed : Exposed (login (.string "abc")) [1, 0, 1] .null :=
    .member rfl hfrom (.item rfl (.member rfl hat (.here .null)))
  exact ⟨halike, redact_hides_secrets_only.1 _ _ halike, hexposed,
    redact_hides_secrets_only.2 _ _ _ hexposed⟩

end RequestValidation.Redaction
