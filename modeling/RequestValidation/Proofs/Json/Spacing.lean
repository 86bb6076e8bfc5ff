import RequestValidation.Json.Printer
import RequestValidation.Json.Reader
/-!
# Texts of a document

The two texts of a document differ in blanks only: in front of a part of a container, behind the
last one and behind a colon there may be some, depending on the level of nesting. Both are cases of
one text with such blanks as its parameter.

Results:
* `Json.ind`: induction on documents.
* `spaced_tight`, `spaced_lines`: the compact and the indented text are texts with blanks.
-/
namespace RequestValidation.Json

/-- Induction on documents: a property of all items or members goes over to their container. -/
@[elab_as_elim]
theorem ind {motive : Json → Prop} (null : motive .null) (bool : ∀ b, motive (.bool b))
    (number : ∀ n, motive (.number n)) (string : ∀ s, motive (.string s))
    (array : ∀ items, (∀ v ∈ items, motive v) → motive (.array items))
    (object : ∀ members, (∀ p ∈ members, motive p.2) → motive (.object members)) :
    ∀ v, motive v
  | .null => null
  | .bool b => bool b
  | .number n => number n
  | .string s => string s
  | .array items => array items fun v _ => ind null bool number string array object v
  | .object members => object members fun p _ => ind null bool number string array object p.2
termination_by v => sizeOf v
decreasing_by
  · rename_i hv
    have := List.sizeOf_lt_of_mem hv
    simp only [Json.array.sizeOf_spec]
    omega
  · rename_i hp
    have := List.sizeOf_lt_of_mem hp
    obtain ⟨k, v⟩ := p
    simp only [Json.object.sizeOf_spec, Prod.mk.sizeOf_spec] at this ⊢
    omega

/-- Where blanks stand in the text of a document. A level is the number of containers around. -/
structure Spacing where
  /-- In front of a part of a container. -/
  part : Nat → List Char
  /-- Behind the last part of a container. -/
  last : Nat → List Char
  /-- Behind a colon. -/
  value : List Char
  isSpace_part : ∀ level, ∀ c ∈ part level, isSpace c = true
  isSpace_last : ∀ level, ∀ c ∈ last level, isSpace c = true
  isSpace_value : ∀ c ∈ value, isSpace c = true

theorem isSpace_of_mem_newLine {level : Nat} {c : Char} (h : c ∈ newLine level) :
    isSpace c = true := by
  rcases List.mem_cons.mp h with rfl | h
  · rfl
  · rw [List.eq_of_mem_replicate h]
    rfl

/-- No blanks. -/
def Spacing.tight : Spacing where
  part _ := []
  last _ := []
  value := []
  isSpace_part _ _ h := nomatch h
  isSpace_last _ _ h := nomatch h
  isSpace_value _ h := nomatch h

/-- A line for every part. -/
def Spacing.lines : Spacing where
  part := newLine
  last := newLine
  value := [' ']
  isSpace_part _ _ := isSpace_of_mem_newLine
  isSpace_last _ _ := isSpace_of_mem_newLine
  isSpace_value c h := by
    rw [List.mem_singleton.mp h]
    rfl

/-- The parts of a container at a level, up to its closing bracket. -/
def spacedParts (g : Spacing) (level : Nat) (closing : Char) (first : Bool) :
    List (List Char) → List Char
  | [] => (if first then [] else g.last level) ++ [closing]
  | text :: rest =>
    (if first then [] else [',']) ++
      (g.part (level + 1) ++ (text ++ spacedParts g level closing false rest))

mutual

/-- The text of a document with blanks, at a level of nesting. -/
def spaced (g : Spacing) (level : Nat) : Json → List Char
  | .null => "null".toList
  | .bool b => (if b then "true" else "false").toList
  | .number n => n.text.toList
  | .string s => quote s
  | .array items => '[' :: spacedParts g level ']' true (spacedItems g (level + 1) items)
  | .object members =>
    '\x7b' :: spacedParts g level '\x7d' true (spacedMembers g (level + 1) members)

def spacedItems (g : Spacing) (level : Nat) : List Json → List (List Char)
  | [] => []
  | v :: rest => spaced g level v :: spacedItems g level rest

def spacedMembers (g : Spacing) (level : Nat) : List (String × Json) → List (List Char)
  | [] => []
  | (k, v) :: rest =>
    (quote k ++ ':' :: (g.value ++ spaced g level v)) :: spacedMembers g level rest

end

/-- The text of a member with blanks. -/
def spacedMember (g : Spacing) (level : Nat) (p : String × Json) : List Char :=
  quote p.1 ++ ':' :: (g.value ++ spaced g level p.2)

theorem spaced_array (g : Spacing) (level : Nat) (items : List Json) :
    spaced g level (.array items) =
      '[' :: spacedParts g level ']' true (items.map (spaced g (level + 1))) := by
  rw [spaced]
  congr 2
  induction items with
  | nil => rfl
  | cons v items ih => rw [spacedItems, ih, List.map_cons]

theorem spaced_object (g : Spacing) (level : Nat) (members : List (String × Json)) :
    spaced g level (.object members) =
      '\x7b' :: spacedParts g level '\x7d' true (members.map (spacedMember g (level + 1))) := by
  rw [spaced]
  congr 2
  induction members with
  | nil => rfl
  | cons p members ih =>
    obtain ⟨k, v⟩ := p
    rw [spacedMembers, ih, List.map_cons, spacedMember]

/-! ## The compact text -/

theorem itemChars_eq_map (items : List Json) : itemChars items = items.map chars := by
  induction items with
  | nil => rfl
  | cons v items ih => rw [itemChars, ih, List.map_cons]

theorem memberChars_eq_map (members : List (String × Json)) :
    memberChars members = members.map fun p => quote p.1 ++ ':' :: p.2.chars := by
  induction members with
  | nil => rfl
  | cons p members ih =>
    obtain ⟨k, v⟩ := p
    rw [memberChars, ih, List.map_cons]

theorem joinWith_cons (separator x : List Char) (xs : List (List Char)) :
    joinWith separator (x :: xs) = x ++ xs.flatMap (separator ++ ·) := by
  induction xs generalizing x with
  | nil => simp [joinWith]
  | cons y xs ih => simp [joinWith, ih]

theorem spacedParts_false (g : Spacing) (level : Nat) (closing : Char) (texts : List (List Char)) :
    spacedParts g level closing false texts =
      texts.flatMap (fun text => ',' :: g.part (level + 1) ++ text) ++ g.last level ++
        [closing] := by
  induction texts with
  | nil => simp [spacedParts]
  | cons text texts ih => simp [spacedParts, ih]

theorem spacedParts_tight (level : Nat) (closing : Char) (texts : List (List Char)) :
    spacedParts .tight level closing true texts = joinWith [','] texts ++ [closing] := by
  cases texts with
  | nil => simp [spacedParts, joinWith]
  | cons text texts => simp [spacedParts, spacedParts_false, joinWith_cons, Spacing.tight]

/-- The compact text has no blanks, at any level. -/
theorem spaced_tight (v : Json) (level : Nat) : spaced .tight level v = v.chars := by
  induction v using Json.ind generalizing level with
  | null => rw [spaced, chars]
  | bool b => rw [spaced, chars]
  | number n => rw [spaced, chars]
  | string s => rw [spaced, chars]
  | array items ih =>
    rw [spaced_array, spacedParts_tight, chars, itemChars_eq_map,
      List.map_congr_left fun v hv => ih v hv (level + 1), List.cons_append]
  | object members ih =>
    rw [spaced_object, spacedParts_tight, chars, memberChars_eq_map, List.cons_append]
    congr 3
    apply List.map_congr_left
    intro p hp
    rw [spacedMember, ih p hp]
    rfl

/-! ## The indented text -/

theorem prettyItems_eq_map (level : Nat) (items : List Json) :
    prettyItems level items = items.map (prettyChars level) := by
  induction items with
  | nil => rfl
  | cons v items ih => rw [prettyItems, ih, List.map_cons]

theorem prettyMembers_eq_map (level : Nat) (members : List (String × Json)) :
    prettyMembers level members =
      members.map fun p => quote p.1 ++ ':' :: ' ' :: p.2.prettyChars level := by
  induction members with
  | nil => rfl
  | cons p members ih =>
    obtain ⟨k, v⟩ := p
    rw [prettyMembers, ih, List.map_cons]

theorem spacedParts_lines (level : Nat) (opening closing : Char) (texts : List (List Char)) :
    opening :: spacedParts .lines level closing true texts = block level opening closing texts := by
  cases texts with
  | nil => simp [spacedParts, block]
  | cons text texts =>
    simp [spacedParts, spacedParts_false, block, joinWith_cons, Spacing.lines]

/-- The indented text has a line for every part. -/
theorem spaced_lines (v : Json) (level : Nat) : spaced .lines level v = v.prettyChars level := by
  induction v using Json.ind generalizing level with
  | null => rw [spaced, prettyChars]
  | bool b => rw [spaced, prettyChars]
  | number n => rw [spaced, prettyChars]
  | string s => rw [spaced, prettyChars]
  | array items ih =>
    rw [spaced_array, spacedParts_lines, prettyChars, prettyItems_eq_map,
      List.map_congr_left fun v hv => ih v hv (level + 1)]
  | object members ih =>
    rw [spaced_object, spacedParts_lines, prettyChars, prettyMembers_eq_map]
    congr 1
    apply List.map_congr_left
    intro p hp
    rw [spacedMember, ih p hp]
    rfl

end RequestValidation.Json
