import RequestValidation.Proofs.Rule.Items
import RequestValidation.Proofs.Text.Margins
/-!
# What trimming leaves

Three sanitizers strip margins of a text: on both sides, at its front and at its end. They differ in
nothing else, so two of them, one after the other, are the one that strips the sides of both. An
array is trimmed item by item, each item as its text, and the texts that are left are trimmed.

Results:
* `trimSides_trimSides`, `applyTo_trim_trim`: one strip after another, of a text and of a value.
* `change_of_sides`: what a rule that strips some sides makes of a value.
* `leaves_of_sides`: what it leaves of texts, of items and of arrays.
* `trimming_strips_margins`: the three sanitizers, and two of them in either order.
-/
namespace RequestValidation

open Text

namespace Change

/-- One strip after another is one of the sides of both. -/
theorem trimSides_trimSides (set : Option String) (left right left' right' : Bool)
    (cs : List Char) :
    trimSides set left' right' (trimSides set left right cs) =
      trimSides set (left || left') (right || right') cs := by
  -- the second strip of the front goes in front of the first strip of the end
  have hswap := trimStart_trimEnd (isMargin set)
  have hstart := trimStart_trimStart (isMargin set)
  have hend := trimEnd_trimEnd (isMargin set)
  cases left <;> cases right <;> cases left' <;> cases right' <;>
    simp [trimSides, hswap, hstart, hend]

theorem apply_trim (set : Option String) (left right : Bool) (s : String) :
    (trim set left right).apply s =
      .string (String.ofList (trimSides set left right s.toList)) := rfl

/-- So it is with values: what the first strip leaves are texts, or arrays of texts. -/
theorem applyTo_trim_trim (set : Option String) (left right left' right' : Bool) (v : Json) :
    (trim set left' right').applyTo ((trim set left right).applyTo v) =
      (trim set (left || left') (right || right')).applyTo v := by
  have hone (s : String) : (trim set left' right').apply ((trim set left right).apply s).text =
      (trim set (left || left') (right || right')).apply s := by
    simp only [apply_trim, Json.text_string, String.toList_ofList, trimSides_trimSides]
  cases v with
  | array items => simp only [applyTo, List.map_map, Function.comp_def, hone]
  | null | bool | number | string | object => exact hone _

end Change

namespace Rule

/-- The sides that a rule strips, if it is one that does. -/
def sides? : Rule → Option (Bool × Bool)
  | trim => some (true, true)
  | trimLeft => some (true, false)
  | trimRight => some (false, true)
  | _ => none

/-- A rule leaves of a text what a relation says, of another item what it says of the text of the
item, and of an array what it says item by item. Used again it leaves everything as it is. -/
structure Leaves (r : Rule) (args : Arguments) (rest : List Char → List Char → Prop) : Prop where
  missing : r.change args none = .ok none
  text : ∀ t m : String,
    r.change args (some (.string t)) = .ok (some (.string m)) ↔ rest t.toList m.toList
  item : ∀ v : Json, v.IsItem →
    ∃ m : String, r.change args (some v) = .ok (some (.string m)) ∧ rest v.text.toList m.toList
  array : ∀ vs : List Json, ∃ ms : List String,
    r.change args (some (.array vs)) = .ok (some (.array (ms.map .string))) ∧
      List.Forall₂ (fun v m => rest v.text.toList m.toList) vs ms
  twice : ∀ v : Option Json, ∃ v', r.change args v = .ok v' ∧ r.change args v' = .ok v'

section
variable {args : Arguments} {set : Option String} {r r' : Rule} {left right left' right' : Bool}

theorem change_of_sides (hset : args.text? 0 = .ok set) (hr : r.sides? = some (left, right))
    (v : Option Json) :
    r.change args v = .ok (v.map (Change.trim set left right).applyTo) := by
  have hrule : Change.ofRule r args = .ok (.trim set left right) := by
    cases r <;> cases hr <;> simp [Change.ofRule, hset, bind, Except.bind]
  rw [change, hrule]
  rfl

/-- A second rule strips what the first one left on its own sides. -/
theorem change_change_of_sides (r r' : Rule) (hset : args.text? 0 = .ok set)
    (hr : r.sides? = some (left, right)) (hr' : r'.sides? = some (left', right'))
    (v : Option Json) : ∃ v', r.change args v = .ok v' ∧
      r'.change args v' =
        .ok (v.map (Change.trim set (left || left') (right || right')).applyTo) := by
  refine ⟨_, change_of_sides hset hr v, ?_⟩
  rw [change_of_sides hset hr', Option.map_map]
  congr 2
  funext w
  exact Change.applyTo_trim_trim set left right left' right' w

theorem leaves_of_sides (hset : args.text? 0 = .ok set) (hr : r.sides? = some (left, right)) :
    r.Leaves args fun t m => Change.trimSides set left right t = m where
  missing := change_of_sides hset hr none
  text t m := by
    rw [change_of_sides hset hr, Option.map_some, Change.applyTo_item fun _ => Json.noConfusion,
      Change.apply_trim, Json.text_string]
    simp [← String.toList_inj]
  item v hv := by
    refine ⟨String.ofList (Change.trimSides set left right v.text.toList), ?_,
      String.toList_ofList.symm⟩
    rw [change_of_sides hset hr, Option.map_some, Change.applyTo_item hv, Change.apply_trim]
  array vs := by
    refine ⟨vs.map fun v => String.ofList (Change.trimSides set left right v.text.toList), ?_, ?_⟩
    · rw [change_of_sides hset hr, List.map_map]
      rfl
    · rw [List.forall₂_map_right_iff]
      exact List.forall₂_same.mpr fun v _ => String.toList_ofList.symm
  twice v := by
    obtain ⟨v', hv, hv'⟩ := change_change_of_sides r r hset hr hr v
    rw [Bool.or_self, Bool.or_self, ← change_of_sides hset hr, hv] at hv'
    exact ⟨v', hv, hv'⟩

end

/-- **Trimming strips the longest margins.** For every set of characters, white space if none is
given, a text is two margins of the set with what trimming leaves between them, which neither begins
nor ends in the set; on the left and on the right it is one margin alone. Both sides may be stripped
one after the other, whichever comes first. Any other value is trimmed as its text, an array item by
item, a missing value stays missing, and a second time changes nothing. -/
theorem trimming_strips_margins {args : Arguments} {set : Option String}
    (hset : args.text? 0 = .ok set) :
    (trim.Leaves args fun t m => ∃ l r, t = l ++ m ++ r ∧ Within (Change.isMargin set) l ∧
      Within (Change.isMargin set) r ∧ BeginsOutside (Change.isMargin set) m ∧
      EndsOutside (Change.isMargin set) m) ∧
    (trimLeft.Leaves args fun t m => ∃ l, t = l ++ m ∧ Within (Change.isMargin set) l ∧
      BeginsOutside (Change.isMargin set) m) ∧
    (trimRight.Leaves args fun t m => ∃ r, t = m ++ r ∧ Within (Change.isMargin set) r ∧
      EndsOutside (Change.isMargin set) m) ∧
    ∀ v : Option Json,
      (∃ w, trimLeft.change args v = .ok w ∧ trimRight.change args w = trim.change args v) ∧
      ∃ w, trimRight.change args v = .ok w ∧ trimLeft.change args w = trim.change args v := by
  have hboth : trim.Leaves args fun t m => Change.trimSides set true true t = m :=
    leaves_of_sides hset rfl
  have hstart : trimLeft.Leaves args fun t m => Change.trimSides set true false t = m :=
    leaves_of_sides hset rfl
  have hend : trimRight.Leaves args fun t m => Change.trimSides set false true t = m :=
    leaves_of_sides hset rfl
  refine ⟨?_, ?_, ?_, fun v => ?_⟩
  · simp only [← trim_eq_iff]
    exact hboth
  · simp only [← trimStart_eq_iff]
    exact hstart
  · simp only [← trimEnd_eq_iff]
    exact hend
  · rw [change_of_sides hset (r := trim) rfl]
    exact ⟨change_change_of_sides trimLeft trimRight hset rfl rfl v,
      change_change_of_sides trimRight trimLeft hset rfl rfl v⟩

/-- With a letter and the blank as margins, which stand within the text as well; and a list in an
array, of whose text nothing is left but what is not in the set. -/
theorem letter_and_blank_trimmed :
    Arguments.text? [.string "x "] 0 = .ok (some "x ") ∧
    trim.change [.string "x "] (some (.string "x a x b xx")) = .ok (some (.string "a x b")) ∧
    ∃ w, trimLeft.change [.string "x "] (some (.array [.array [.string " x", .int 1, .string "x"],
          .string " xx "])) = .ok w ∧
      trimRight.change [.string "x "] w = .ok (some (.array [.string ",1,", .string ""])) := by
  have hset : Arguments.text? [.string "x "] 0 = .ok (some "x ") := rfl
  obtain ⟨hboth, -, -, hsides⟩ := trimming_strips_margins hset
  refine ⟨hset, (hboth.text _ _).mpr ⟨['x', ' '], [' ', 'x', 'x'], by decide, ?_⟩, ?_⟩
  · simp [Within, BeginsOutside, EndsOutside, Change.isMargin]
  · obtain ⟨⟨w, hw, hrest⟩, -⟩ := hsides (some (.array [.array [.string " x", .int 1, .string "x"],
      .string " xx "]))
    exact ⟨w, hw, hrest.trans rfl⟩

end Rule

end RequestValidation
