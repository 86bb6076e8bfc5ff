import RequestValidation.Pattern.Basic
/-!
# Searching for a pattern

A pattern is turned into a list of instructions and the text is read once, with the set of places
in the program that are alive. A search therefore takes time proportional to the product of both
lengths, whatever the pattern is.
-/
namespace RequestValidation.Pattern

/-- An instruction; places are absolute. -/
inductive Instruction where
  | take (set : CharSet)
  | assert (l : Look)
  | fork (a b : Nat)
  | jump (a : Nat)
  | accept

/-- The number of instructions of a pattern. -/
def size : Pattern → Nat
  | .empty => 0
  | .one _ => 1
  | .look _ => 1
  | .seq a b => a.size + b.size
  | .alt a b => a.size + b.size + 2
  | .repeated p least none => p.size * least + p.size + 2
  | .repeated p least (some most) => p.size * least + (p.size + 1) * (most - least)

/-- Copies of some code one behind another. -/
def copies (code : Nat → List Instruction) (length : Nat) : Nat → Nat → List Instruction
  | 0, _ => []
  | n + 1, place => code place ++ copies code length n (place + length)

/-- Copies each of which may be left out together with those behind it. -/
def optionalCopies (code : Nat → List Instruction) (length exit : Nat) :
    Nat → Nat → List Instruction
  | 0, _ => []
  | n + 1, place =>
    .fork (place + 1) exit :: code (place + 1) ++
      optionalCopies code length exit n (place + 1 + length)

/-- The instructions of a pattern that start at a place and go on behind their last one. -/
def code : Pattern → Nat → List Instruction
  | .empty, _ => []
  | .one set, _ => [.take set]
  | .look l, _ => [.assert l]
  | .seq a b, place => a.code place ++ b.code (place + a.size)
  | .alt a b, place =>
    let second := place + 1 + a.size + 1
    .fork (place + 1) second :: a.code (place + 1) ++ .jump (second + b.size) :: b.code second
  | .repeated p least none, place =>
    let loop := place + p.size * least
    copies p.code p.size least place ++
      .fork (loop + 1) (loop + 1 + p.size + 1) :: p.code (loop + 1) ++ [.jump loop]
  | .repeated p least (some most), place =>
    let tail := place + p.size * least
    copies p.code p.size least place ++
      optionalCopies p.code p.size (tail + (p.size + 1) * (most - least)) (most - least) tail

/-- The whole program of a pattern. -/
def program (p : Pattern) : Array Instruction := (p.code 0 ++ [Instruction.accept]).toArray

/-- The places that are reached without reading: which were seen, those that read, and whether the
end was reached. -/
structure Frontier where
  seen : Array Bool
  readers : List (CharSet × Nat)
  accepted : Bool

/-- Follows the places on a work list. Every place is worked off once, so three steps for each
instruction suffice. -/
def follow (prog : Array Instruction) (before after : Option Char) :
    Nat → List Nat → Frontier → Frontier
  | 0, _, f => f
  | _, [], f => f
  | fuel + 1, place :: rest, f =>
    if f.seen.getD place true then follow prog before after fuel rest f
    else
      let f := { f with seen := f.seen.set! place true }
      match prog[place]? with
      | none => follow prog before after fuel rest f
      | some .accept => follow prog before after fuel rest { f with accepted := true }
      | some (.jump a) => follow prog before after fuel (a :: rest) f
      | some (.fork a b) => follow prog before after fuel (a :: b :: rest) f
      | some (.assert l) =>
        follow prog before after fuel (if l.holds before after then (place + 1) :: rest else rest) f
      | some (.take set) =>
        follow prog before after fuel rest
          { f with readers := (set, place) :: f.readers }

/-- The places reached between two characters; a match may also start here. -/
def frontier (prog : Array Instruction) (before after : Option Char) (live : List Nat) :
    Frontier :=
  follow prog before after (3 * prog.size + live.length + 1) (live ++ [0])
    ⟨Array.replicate prog.size false, [], false⟩

/-- Reads the text with a set of live places. -/
def search (prog : Array Instruction) (before : Option Char) (live : List Nat) :
    List Char → Bool
  | [] => (frontier prog before none live).accepted
  | c :: rest =>
    let f := frontier prog before (some c) live
    f.accepted || search prog (some c)
      (f.readers.filterMap fun r => if r.1.contains c then some (r.2 + 1) else none) rest

/-- Does the pattern match somewhere in the text? -/
def occurs (p : Pattern) (text : String) : Bool := search p.program none [] text.toList

end RequestValidation.Pattern
