import RequestValidation.Text.CaseTable
/-!
# Letter case

`lower` and `upper` are the full, language-independent case mappings of Unicode: a letter may
become several characters, and a capital sigma becomes the final form exactly when a letter with
case stands before it and none stands behind it, characters that take no part in case being
skipped on both sides. `foldChar` and `foldClass` are simple case folding of single characters.

ASCII letters are decided before the tables are searched.
-/
namespace RequestValidation.Text

def isCased (c : Char) : Bool := inRanges casedRanges c.toNat

def isCaseIgnorable (c : Char) : Bool := inRanges caseIgnorableRanges c.toNat

/-- The image under the first run that covers the code point, or itself. -/
def mapRuns (runs : List CaseRun) (c : Char) : Char :=
  match runs.findSome? (·.map? c.toNat) with
  | some n => Char.ofNat n
  | none => c

/-- The small form of one character, regardless of its surroundings. -/
def lowerChar (c : Char) : List Char :=
  if c.toNat < 128 then [c.toLower]
  else if c.toNat = 304 then ['i', Char.ofNat 775]
  else [mapRuns lowerRuns c]

/-- The capital form of one character. -/
def upperChar (c : Char) : List Char :=
  if c.toNat < 128 then [c.toUpper]
  else match upperExpansions.lookup c.toNat with
    | some expansion => expansion.map Char.ofNat
    | none => [mapRuns upperRuns c]

/-- Is the first character that takes part in case a letter with case? -/
def casedAhead (cs : List Char) : Bool :=
  match cs.dropWhile isCaseIgnorable with
  | c :: _ => isCased c
  | [] => false

/-- Small forms of a text that follows `before`, which is given in reverse. -/
def lowerAfter : List Char → List Char → List Char
  | _, [] => []
  | before, c :: rest =>
    let image :=
      if c.toNat = 931 then
        [Char.ofNat (if casedAhead before && !casedAhead rest then 962 else 963)]
      else lowerChar c
    image ++ lowerAfter (c :: before) rest

def lowerList (cs : List Char) : List Char := lowerAfter [] cs

def upperList (cs : List Char) : List Char := cs.flatMap upperChar

/-- The text in small letters. -/
def lower (s : String) : String := String.ofList (lowerList s.toList)

/-- The text in capital letters. -/
def upper (s : String) : String := String.ofList (upperList s.toList)

/-- The representative of the characters that differ from `c` only in case. -/
def foldChar (c : Char) : Char :=
  if c.toNat < 128 then c.toLower else mapRuns foldRuns c

/-- All characters that differ from `c` only in case, `c` among them. -/
def foldClass (c : Char) : List Char :=
  let image := foldChar c
  image :: foldRuns.filterMap fun r => (r.preimage? image.toNat).map Char.ofNat

end RequestValidation.Text
