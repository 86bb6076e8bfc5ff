import RequestValidation.Pattern.CharSet
/-!
# Patterns

A pattern as a tree of sets of characters and of conditions on the place between two characters.
What a repetition prefers does not matter to whether a pattern occurs in a text, so it is not kept.
-/
namespace RequestValidation

namespace Pattern

/-- A condition on the place between two characters. -/
inductive Look where
  | textStart
  | textEnd
  | lineStart
  | lineEnd
  | anyLineStart
  | anyLineEnd
  | wordEdge (ascii : Bool)
  | noWordEdge (ascii : Bool)
  | wordStart (ascii : Bool)
  | wordEnd (ascii : Bool)
  | wordStartHalf (ascii : Bool)
  | wordEndHalf (ascii : Bool)
deriving DecidableEq, Repr

/-- Is the neighbour there and a word character? -/
def isWordAt (ascii : Bool) : Option Char → Bool
  | none => false
  | some c => if ascii then isAsciiWordChar c else isWordChar c

/-- Does the condition hold between two neighbours? -/
def Look.holds : Look → Option Char → Option Char → Bool
  | .textStart, before, _ => before.isNone
  | .textEnd, _, after => after.isNone
  | .lineStart, before, _ => before.isNone || before == some '\n'
  | .lineEnd, _, after => after.isNone || after == some '\n'
  | .anyLineStart, before, after =>
    before.isNone || before == some '\n' || (before == some '\r' && after != some '\n')
  | .anyLineEnd, before, after =>
    after.isNone || after == some '\r' || (after == some '\n' && before != some '\r')
  | .wordEdge a, before, after => isWordAt a before != isWordAt a after
  | .noWordEdge a, before, after => isWordAt a before == isWordAt a after
  | .wordStart a, before, after => !isWordAt a before && isWordAt a after
  | .wordEnd a, before, after => isWordAt a before && !isWordAt a after
  | .wordStartHalf a, before, _ => !isWordAt a before
  | .wordEndHalf a, _, after => !isWordAt a after

end Pattern

/-- A pattern for texts. -/
inductive Pattern where
  | empty
  | one (set : Pattern.CharSet)
  | look (l : Pattern.Look)
  | seq (a b : Pattern)
  | alt (a b : Pattern)
  | repeated (p : Pattern) (least : Nat) (most : Option Nat)

namespace Pattern

/-- The number of ranges that are written down in a set. -/
def CharSet.rangeCount : CharSet → Nat
  | .ranges rs => rs.length
  | .union a b => a.rangeCount + b.rangeCount
  | .inter a b => a.rangeCount + b.rangeCount
  | .compl a => a.rangeCount
  | .folded a => 2 * a.rangeCount

/-- An estimate of the bytes that a pattern takes once its counted repetitions are written out. -/
def weight : Pattern → Nat
  | .empty => 0
  | .one set => 8 + 24 * set.rangeCount
  | .look _ => 32
  | .seq a b => a.weight + b.weight
  | .alt a b => a.weight + b.weight + 64
  | .repeated p least none => p.weight * (least + 1) + 64
  | .repeated p least (some most) => p.weight * max least most + 32 * (most - least)

/-- Patterns heavier than this are refused. -/
def weightLimit : Nat := 10 * Nat.pow 2 20

end Pattern

end RequestValidation
