/-!
# White space and margins

`isBlank` is the Unicode property `White_Space`. `trimStart` and `trimEnd` strip the longest
margin of characters of a class; `trim` strips both.

Results:
* `trimStart_append`, `trimEnd_append`: a stripped text is a suffix, a prefix of the text.
-/
namespace RequestValidation.Text

/-- White space in the sense of Unicode. -/
def isBlank (c : Char) : Bool :=
  let n := c.toNat
  (9 ≤ n && n ≤ 13) || n == 32 || n == 133 || n == 160 || n == 5760 || (8192 ≤ n && n ≤ 8202) ||
    n == 8232 || n == 8233 || n == 8239 || n == 8287 || n == 12288

/-- The text without its longest leading run of characters of the class. -/
def trimStart (p : Char → Bool) (cs : List Char) : List Char := cs.dropWhile p

/-- The text without its longest trailing run of characters of the class. -/
def trimEnd (p : Char → Bool) (cs : List Char) : List Char := (cs.reverse.dropWhile p).reverse

def trim (p : Char → Bool) (cs : List Char) : List Char := trimEnd p (trimStart p cs)

/-- What is stripped at the front is a margin of the class. -/
theorem trimStart_append (p : Char → Bool) (cs : List Char) :
    cs.takeWhile p ++ trimStart p cs = cs := List.takeWhile_append_dropWhile

/-- What is stripped at the end is a margin of the class. -/
theorem trimEnd_append (p : Char → Bool) (cs : List Char) :
    trimEnd p cs ++ (cs.reverse.takeWhile p).reverse = cs := by
  rw [trimEnd, ← List.reverse_append, List.takeWhile_append_dropWhile, List.reverse_reverse]

end RequestValidation.Text
