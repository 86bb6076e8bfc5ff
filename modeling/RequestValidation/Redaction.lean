import RequestValidation.Json.Basic
import RequestValidation.Pattern.CharSet
import RequestValidation.Text.Blank
import RequestValidation.Text.Case
import RequestValidation.Text.Infix
/-!
# Redaction

Credentials are struck out before a request is shown. In text these are the token behind `bearer`
or `basic` and the value behind a word such as `password` and a separator; first all of the one
kind are replaced, then all of the other, from left to right. In a document every value under a
name that speaks of credentials is replaced, and the text of every other string.

Results:
* `redact_number`, `redact_bool`, `redact_null`: what holds no text stays as it is.
-/
namespace RequestValidation.Redaction

/-- What stands for a credential. -/
def mask : List Char := "***".toList

/-- A word at the front of a text in any letter case: how much of the text it is. -/
def startsWithWord : List Char → List Char → Bool
  | [], _ => true
  | _ :: _, [] => false
  | w :: word, c :: cs => Text.foldChar c == w && startsWithWord word cs

/-- A finder looks for something at the front of a text, knowing the character before. It gives
what to put in its place and how many characters it has behind its first. -/
abbrev Finder := Option Char → List Char → Option (List Char × Nat)

/-- Replaces all that a finder finds, from left to right. -/
def replaceAll (find : Finder) (before : Option Char) : List Char → List Char
  | [] => []
  | c :: rest =>
    match find before (c :: rest) with
    | some (replacement, n) =>
      replacement ++ replaceAll find (c :: rest)[n]? (rest.drop n)
    | none => c :: replaceAll find (some c) rest
termination_by cs => cs.length
decreasing_by all_goals simp; try omega

/-- Characters of a token. -/
def isTokenChar (c : Char) : Bool :=
  let d := Text.foldChar c
  d.isAlphanum || "_.=+/-".toList.contains d

/-- The shortest token. -/
def minToken : Nat := 6

/-- The words in front of a token. -/
def schemes : List (List Char) := ["bearer".toList, "basic".toList]

/-- A scheme as a word of its own, blanks and a token; mirrors `bearer_regex`. -/
def findToken : Finder := fun before cs =>
  if before.any Pattern.isWordChar then none
  else
    match schemes.find? (startsWithWord · cs) with
    | none => none
    | some word =>
      let after := cs.drop word.length
      let blanks := after.takeWhile Text.isBlank
      let token := (after.drop blanks.length).takeWhile isTokenChar
      if blanks.isEmpty || token.length < minToken then none
      else
        some (cs.take word.length ++ ' ' :: mask,
          word.length + blanks.length + token.length - 1)

/-- The words in front of a secret. -/
def secretWords : List (List Char) :=
  ["api_key".toList, "api-key".toList, "apikey".toList, "token".toList, "password".toList,
    "passwd".toList, "secret".toList]

def isSeparator (c : Char) : Bool := c = '=' || c = ':' || Text.isBlank c

def isQuote (c : Char) : Bool := c = '\'' || c = '"'

/-- Characters of a secret. -/
def isSecretChar (c : Char) : Bool := !(Text.isBlank c || isQuote c || c = ';' || c = '&')

/-- The shortest secret. -/
def minSecret : Nat := 3

/-- The length of a quote at the front, if there is one. -/
def quoteLength (cs : List Char) : Nat := if cs.head?.any isQuote then 1 else 0

/-- The length of a secret with its quotes. -/
def secretLength? (cs : List Char) : Option Nat :=
  let opening := quoteLength cs
  let secret := (cs.drop opening).takeWhile isSecretChar
  if secret.length < minSecret then none
  else
    let used := opening + secret.length
    some (used + quoteLength (cs.drop used))

/-- The length of separators and a secret. Of at most so many separators as many as leave a secret
belong to the separators, the others to the secret. -/
def pairLength? (cs : List Char) : Nat → Option Nat
  | 0 => none
  | n + 1 =>
    match secretLength? (cs.drop (n + 1)) with
    | some k => some (n + 1 + k)
    | none => pairLength? cs n

/-- A word that announces a secret, separators and the secret; mirrors `secret_pair_regex`. -/
def findSecret : Finder := fun _ cs =>
  match secretWords.find? (startsWithWord · cs) with
  | none => none
  | some word =>
    let after := cs.drop word.length
    match pairLength? after (after.takeWhile isSeparator).length with
    | none => none
    | some k => some (cs.take word.length ++ '=' :: mask, word.length + k - 1)

/-- The text without tokens and secrets; mirrors `redact_sensitive`. -/
def redactText (cs : List Char) : List Char :=
  replaceAll findSecret none (replaceAll findToken none cs)

/-- Parts of names under which credentials are kept. -/
def sensitiveParts : List String :=
  ["key", "token", "password", "passwd", "secret", "session", "auth"]

/-- Does a name speak of credentials? Mirrors `is_sensitive_key`. -/
def isSensitive (key : String) : Bool :=
  let small := Text.lower key
  sensitiveParts.any (fun part => Text.occursIn part.toList small.toList) || small == "cookie"

mutual

/-- The document without credentials; mirrors `redact_json_value`. -/
def redact : Json → Json
  | .object members => .object (redactMembers members)
  | .array items => .array (redactItems items)
  | .string s => .string (String.ofList (redactText s.toList))
  | .null => .null
  | .bool b => .bool b
  | .number n => .number n

def redactItems : List Json → List Json
  | [] => []
  | v :: rest => redact v :: redactItems rest

def redactMembers : List (String × Json) → List (String × Json)
  | [] => []
  | (k, v) :: rest =>
    (k, if isSensitive k then .string (String.ofList mask) else redact v) :: redactMembers rest

end

theorem redact_number (n : Number) : redact (.number n) = .number n := by rw [redact]

theorem redact_bool (b : Bool) : redact (.bool b) = .bool b := by rw [redact]

theorem redact_null : redact .null = .null := by rw [redact]

end RequestValidation.Redaction
