import RequestValidation.Format.Host
/-!
# Absolute URLs

`urlScheme? text` is the scheme of an absolute URL that has a host, in small letters; a text that
is no URL, or one without a host, gives none. Control characters and blanks around the text and
tabs and line ends inside it do not count. A special scheme needs no slashes before its host and
takes backslashes for slashes.
-/
namespace RequestValidation.Format

/-- Schemes whose URLs always have a host. -/
def specialSchemes : List String := ["http", "https", "ws", "wss", "ftp"]

def isSchemeChar (c : Char) : Bool := c.isAlphanum || c = '+' || c = '-' || c = '.'

/-- The scheme in small letters, and what stands behind its colon. -/
def splitScheme? (cs : List Char) : Option (List Char × List Char) :=
  match cs with
  | c :: _ =>
    if !c.isAlpha then none
    else match cs.dropWhile isSchemeChar with
      | ':' :: rest => some ((cs.takeWhile isSchemeChar).map Char.toLower, rest)
      | _ => none
  | [] => none

/-- Characters that end the part of a URL with the host. -/
def endsAuthority (special : Bool) (c : Char) : Bool :=
  c = '/' || c = '?' || c = '#' || (special && c = '\\')

/-- What follows the last sign of an address in the part with the host; nothing if no host does. -/
def afterUserInfo (special : Bool) (cs : List Char) : List Char :=
  let authority := cs.takeWhile (!endsAuthority special ·)
  let rest := cs.dropWhile (!endsAuthority special ·)
  match (authority.splitOn '@').getLast? with
  | some last => last ++ rest
  | none => cs

/-- The host, in which colons stand only between brackets, and what follows it. -/
def splitHost (special : Bool) : Bool → List Char → List Char × List Char
  | _, [] => ([], [])
  | bracketed, c :: rest =>
    if (c = ':' ∧ !bracketed) ∨ endsAuthority special c then ([], c :: rest)
    else
      let inside := if c = '[' then true else if c = ']' then false else bracketed
      let (host, after) := splitHost special inside rest
      (c :: host, after)

/-- A number of at most sixteen bits behind a colon, if there is a colon; then the end, or the path,
query or fragment. -/
def isNumberTail (cs : List Char) : Bool :=
  match cs with
  | ':' :: rest =>
    let (digits, after) := digitRun rest
    natOfDigits digits < 65536 &&
      match after with
      | [] => true
      | c :: _ => endsAuthority true c
  | _ => true

/-- Is there a good host, and a good number behind it? -/
def hasHost (special : Bool) (cs : List Char) : Bool :=
  let (host, after) := splitHost special false (afterUserInfo special cs)
  (if special then isSpecialHost host else isOpaqueHost host) && isNumberTail after

/-- A letter and a colon or a bar: the drive in a file path. -/
def isDriveLetter (cs : List Char) : Bool :=
  match cs with
  | [a, b] => a.isAlpha && (b = ':' || b = '|')
  | _ => false

/-- Does the rest of a `file` URL name a host other than this one? -/
def hasFileHost (cs : List Char) : Bool :=
  match cs with
  | a :: b :: rest =>
    endsAuthority true a && a != '?' && a != '#' && endsAuthority true b && b != '?' && b != '#' &&
      (let host := rest.takeWhile (!endsAuthority true ·)
       !isDriveLetter host && !host.isEmpty && isSpecialHost host &&
         hostName? host != some "localhost".toList)
  | _ => false

/-- The scheme of an absolute URL with a host. -/
def urlScheme? (text : String) : Option String :=
  let outer (c : Char) : Bool := c.toNat ≤ 32
  let cs := ((text.toList.dropWhile outer).reverse.dropWhile outer).reverse
  let cs := cs.filter fun c => c != '\t' && c != '\n' && c != '\r'
  match splitScheme? cs with
  | none => none
  | some (scheme, rest) =>
    let scheme := String.ofList scheme
    let good :=
      if scheme = "file" then hasFileHost rest
      else if specialSchemes.contains scheme then
        hasHost true (rest.dropWhile fun c => c = '/' || c = '\\')
      else match rest with
        | '/' :: '/' :: after => hasHost false after
        | _ => false
    if good then some scheme else none

/-- An absolute URL with a host whose scheme is one of those, whatever their letter case. -/
def isUrl (schemes : List String) (text : String) : Bool :=
  match urlScheme? text with
  | none => false
  | some scheme => schemes.any fun s => s.toList.map Char.toLower == scheme.toList

end RequestValidation.Format
