import RequestValidation.Yaml.Printer
/-!
# Line by line in YAML

What a pen has written has no influence on what it writes next: only its column, a blank before it
and an empty line have. At the beginning of a line all of these are the same again. So the text of
a document is that of its members or items, one after the other.

Results:
* `putNode_behind`: earlier text stays behind a pen and changes nothing else.
* `goTo_zero`: at the beginning of a line a pen is new but for what it has written.
* `closed_of_goTo`: what begins on a new line is written alike behind any text.
* `yaml_object_cons`, `yaml_array_cons`: the text of a collection by its parts.
* `yaml_member_array`: an array that is a member begins on the next line.
-/
namespace RequestValidation.Yaml

namespace Pen

/-- The pen with earlier text behind what it has written. -/
def behind (p : Pen) (earlier : List Char) : Pen := { p with written := p.written ++ earlier }

variable (p : Pen) (w : List Char)

@[simp] theorem behind_column : (p.behind w).column = p.column := rfl

@[simp] theorem behind_afterBlank : (p.behind w).afterBlank = p.afterBlank := rfl

@[simp] theorem behind_onlyIndented : (p.behind w).onlyIndented = p.onlyIndented := rfl

theorem put_behind (c : Char) : (p.behind w).put c = (p.put c).behind w := rfl

theorem putBreak_behind (c : Char) : (p.behind w).putBreak c = (p.putBreak c).behind w := rfl

theorem putAll_behind (cs : List Char) : (p.behind w).putAll cs = (p.putAll cs).behind w := by
  induction cs generalizing p with
  | nil => rfl
  | cons c cs ih => exact ih (p.put c)

/-- A choice between two pens does not depend on earlier text. -/
theorem ite_behind (c : Prop) [Decidable c] (q : Pen) :
    (if c then p.behind w else q.behind w) = (if c then p else q).behind w := by
  split <;> rfl

theorem goTo_behind (indent : Nat) : (p.behind w).goTo indent = (p.goTo indent).behind w := by
  unfold goTo
  rw [putBreak_behind, behind_column, behind_afterBlank, behind_onlyIndented, ite_behind]
  dsimp only
  rw [putAll_behind]
  rfl

theorem separate_behind : (p.behind w).separate = p.separate.behind w := by
  unfold separate
  rw [behind_afterBlank]
  split <;> rfl

theorem indicator_behind (cs : List Char) :
    (p.behind w).indicator cs = (p.indicator cs).behind w := by
  unfold indicator
  rw [separate_behind, putAll_behind]
  rfl

theorem opener_behind (c : Char) : (p.behind w).opener c = (p.opener c).behind w := by
  unfold opener
  rw [separate_behind]
  rfl

theorem attach_behind (cs : List Char) : (p.behind w).attach cs = (p.attach cs).behind w := by
  unfold attach
  rw [putAll_behind]
  rfl

/-- At the beginning of a line a pen is new but for what it has written. -/
theorem goTo_zero : p.goTo 0 = behind {} (p.goTo 0).written := by
  obtain ⟨written, column, afterBlank, onlyIndented⟩ := p
  unfold goTo
  cases onlyIndented <;> cases afterBlank <;> cases column <;> rfl

theorem goTo_zero_behind : (behind {} w).goTo 0 = behind {} w := rfl

end Pen

open Pen

/-! ## Scalars -/

section
variable (w : List Char)

theorem putLines_behind (indent : Nat) (quote : Bool) (cs : List Char) (atStart : Bool) (p : Pen) :
    putLines indent quote atStart cs (p.behind w) =
      ((putLines indent quote atStart cs p).1,
        (putLines indent quote atStart cs p).2.behind w) := by
  induction cs generalizing atStart p with
  | nil => rfl
  | cons c cs ih =>
    unfold putLines
    split
    · exact ih true { p.putBreak c with onlyIndented := true }
    · have hgoTo : (if atStart then (p.behind w).goTo indent else p.behind w) =
          (if atStart then p.goTo indent else p).behind w := by rw [goTo_behind, ite_behind]
      -- the recursion goes on from the chosen pen, which may be any
      generalize (if atStart then p.goTo indent else p) = q at hgoTo ⊢
      dsimp only
      rw [hgoTo, put_behind, ite_behind]
      generalize (if (quote && decide (c = '\'')) = true then q.put '\'' else q) = r
      exact ih false { r.put c with onlyIndented := false }

theorem putLiteral_behind (indent : Nat) (cs : List Char) (p : Pen) :
    putLiteral indent cs (p.behind w) = (putLiteral indent cs p).behind w := by
  unfold putLiteral
  rw [indicator_behind]
  dsimp only
  rw [attach_behind, ite_behind]
  exact congrArg Prod.snd (putLines_behind w indent false cs true
    { Pen.putBreak _ '\n' with onlyIndented := true, afterBlank := true })

theorem putSingleQuoted_behind (indent : Nat) (cs : List Char) (p : Pen) :
    putSingleQuoted indent cs (p.behind w) = (putSingleQuoted indent cs p).behind w := by
  simp only [putSingleQuoted, indicator_behind, putLines_behind, goTo_behind, ite_behind,
    attach_behind]

theorem putScalar_behind (indent : Nat) (style : ScalarStyle) (cs : List Char) (p : Pen) :
    putScalar indent style cs (p.behind w) = (putScalar indent style cs p).behind w := by
  unfold putScalar
  split
  · exact putLiteral_behind w indent cs p
  · exact putSingleQuoted_behind w indent cs p
  · rw [indicator_behind, putAll_behind, attach_behind]
  · rw [attach_behind, indicator_behind, ite_behind]

theorem putString_behind (indent : Option Nat) (s : String) (p : Pen) :
    putString indent s (p.behind w) = (putString indent s p).behind w :=
  putScalar_behind w _ _ _ p

theorem putKey_behind (indent : Nat) (key : String) (p : Pen) :
    putKey indent key (p.behind w) = (putKey indent key p).behind w := by
  unfold putKey
  rw [goTo_behind]
  dsimp only
  split
  · rw [putString_behind, attach_behind]
  · rw [opener_behind, putString_behind, goTo_behind, opener_behind]

end

/-! ## Documents -/

mutual

/-- Earlier text stays behind a pen and changes nothing else. -/
theorem putNode_behind (w : List Char) (indent : Option Nat) (inMember : Bool) : ∀ (v : Json)
    (p : Pen), putNode indent inMember v (p.behind w) = (putNode indent inMember v p).behind w
  | .null, p => indicator_behind p w _
  | .bool b, p => indicator_behind p w _
  | .number n, p => indicator_behind p w _
  | .string s, p => putString_behind w indent s p
  | .array items, p => by
    rw [putNode, putNode]
    split
    · exact indicator_behind p w _
    · exact putItems_behind w _ items p
  | .object members, p => by
    rw [putNode, putNode]
    split
    · exact indicator_behind p w _
    · exact putMembers_behind w _ members p

theorem putItems_behind (w : List Char) (indent : Nat) : ∀ (items : List Json) (p : Pen),
    putItems indent items (p.behind w) = (putItems indent items p).behind w
  | [], _ => rfl
  | v :: rest, p => by
    rw [putItems, putItems, goTo_behind, opener_behind, putNode_behind, putItems_behind]

theorem putMembers_behind (w : List Char) (indent : Nat) : ∀ (members : List (String × Json))
    (p : Pen), putMembers indent members (p.behind w) = (putMembers indent members p).behind w
  | [], _ => rfl
  | (k, v) :: rest, p => by
    rw [putMembers, putMembers, putKey_behind, putNode_behind, putMembers_behind]

end

/-! ## Writing goes on -/

/-- Whether a pen has written more, behind all that another one has written. -/
def Extends (p q : Pen) : Prop := ∃ more, q.written = more ++ p.written

theorem Extends.trans {p q r : Pen} (hpq : Extends p q) (hqr : Extends q r) : Extends p r := by
  obtain ⟨more, hmore⟩ := hpq
  obtain ⟨more', hmore'⟩ := hqr
  exact ⟨more' ++ more, by rw [hmore', hmore, List.append_assoc]⟩

/-- What does not depend on earlier text goes on behind it. -/
theorem extends_of_behind (write : Pen → Pen)
    (hbehind : ∀ p w, write (p.behind w) = (write p).behind w) (p : Pen) : Extends p (write p) :=
  ⟨_, congrArg Pen.written (hbehind { p with written := [] } p.written)⟩

theorem extends_goTo (indent : Nat) (p : Pen) : Extends p (p.goTo indent) :=
  extends_of_behind (·.goTo indent) (fun p w => goTo_behind p w indent) p

theorem extends_putNode (indent : Option Nat) (inMember : Bool) (v : Json) (p : Pen) :
    Extends p (putNode indent inMember v p) :=
  extends_of_behind _ (fun p w => putNode_behind w indent inMember v p) p

theorem extends_putMembers (indent : Nat) (members : List (String × Json)) (p : Pen) :
    Extends p (putMembers indent members p) :=
  extends_of_behind _ (fun p w => putMembers_behind w indent members p) p

/-! ## Lines -/

/-- What a pen has written, with the line ended, from the beginning. -/
def closed (p : Pen) : String := String.ofList (p.goTo 0).written.reverse

theorem closed_behind (p : Pen) (w : List Char) :
    closed (p.behind w) = String.ofList w.reverse ++ closed p := by
  unfold closed
  rw [goTo_behind, ← String.ofList_append]
  exact congrArg String.ofList List.reverse_append

theorem closed_extends {p q : Pen} (h : Extends p q) :
    ∃ rest, closed q = String.ofList p.written.reverse ++ rest := by
  obtain ⟨more, hmore⟩ := h.trans (extends_goTo 0 q)
  refine ⟨String.ofList more.reverse, ?_⟩
  rw [closed, hmore, List.reverse_append, String.ofList_append]

theorem written_putAll (cs : List Char) (p : Pen) :
    (p.putAll cs).written = cs.reverse ++ p.written := by
  induction cs generalizing p with
  | nil => rfl
  | cons c cs ih =>
    rw [List.reverse_cons, List.append_assoc]
    exact ih (p.put c)

/-- An indicator at the end of a line. -/
theorem closed_indicator {p : Pen} (h : p.afterBlank = false) (cs : List Char) :
    closed (p.indicator cs) =
      String.ofList p.written.reverse ++ " " ++ String.ofList cs ++ "\n" := by
  have hbreak : ((p.indicator cs).goTo 0).written = '\n' :: (cs.reverse ++ ' ' :: p.written) := by
    change '\n' :: (p.separate.putAll cs).written = _
    rw [written_putAll, separate, h]
    rfl
  apply String.toList_inj.mp
  simp [closed, hbreak]

/-- What goes to the beginning of a line first writes the same text behind any other. -/
theorem closed_of_goTo {write : Pen → Pen} (hgoTo : ∀ p, write (p.goTo 0) = write p)
    (hbehind : ∀ p w, write (p.behind w) = (write p).behind w) (p : Pen) :
    closed (write p) = closed p ++ closed (write {}) := by
  rw [← hgoTo p, goTo_zero, hbehind, closed_behind]
  rfl

theorem putItems_goTo (v : Json) (rest : List Json) (p : Pen) :
    putItems 0 (v :: rest) (p.goTo 0) = putItems 0 (v :: rest) p := by
  rw [putItems, putItems, goTo_zero p, goTo_zero_behind]

theorem putMembers_goTo (m : String × Json) (rest : List (String × Json)) (p : Pen) :
    putMembers 0 (m :: rest) (p.goTo 0) = putMembers 0 (m :: rest) p := by
  obtain ⟨k, v⟩ := m
  rw [putMembers, putMembers, putKey, putKey, goTo_zero p, goTo_zero_behind]

/-- The text of several items is that of the first and that of the others. -/
theorem yaml_array_cons (v v' : Json) (rest : List Json) :
    (Json.array (v :: v' :: rest)).yaml = (Json.array [v]).yaml ++ (Json.array (v' :: rest)).yaml :=
  closed_of_goTo (putItems_goTo v' rest) (fun p w => putItems_behind w 0 _ p) (putItems 0 [v] {})

/-- The text of several members is that of the first and that of the others. -/
theorem yaml_object_cons (m m' : String × Json) (rest : List (String × Json)) :
    (Json.object (m :: m' :: rest)).yaml =
      (Json.object [m]).yaml ++ (Json.object (m' :: rest)).yaml :=
  closed_of_goTo (putMembers_goTo m' rest) (fun p w => putMembers_behind w 0 _ p)
    (putMembers 0 [m] {})

/-- The text of items is that of one after the other. -/
theorem yaml_array {items : List Json} (h : items ≠ []) :
    (Json.array items).yaml = String.join (items.map fun v => (Json.array [v]).yaml) := by
  induction items with
  | nil => contradiction
  | cons v items ih =>
    cases items with
    | nil => simp
    | cons v' rest =>
      rw [yaml_array_cons, ih (by simp)]
      simp

/-- An array that is a member begins on the next line. -/
theorem yaml_member_array {key : String} (hkey : isSimpleKey key = true) (v : Json)
    (rest : List Json) :
    (Json.object [(key, .array (v :: rest))]).yaml =
      closed (putKey 0 key {}) ++ (Json.array (v :: rest)).yaml := by
  have hlater : (putKey 0 key {}).onlyIndented = false := by
    rw [putKey, if_pos hkey]
    rfl
  have hitems : putNode (some 0) true (.array (v :: rest)) (putKey 0 key {}) =
      putItems 0 (v :: rest) (putKey 0 key {}) := by
    rw [putNode, hlater]
    rfl
  change closed (putNode (some 0) true (.array (v :: rest)) (putKey 0 key {})) = _
  rw [hitems]
  exact closed_of_goTo (putItems_goTo v rest) (fun p w => putItems_behind w 0 _ p) _

end RequestValidation.Yaml
