import HttpScenario.Url.Host
/-!
# Absolute addresses

Whether a text is the absolute address of something, and of which scheme.  Blanks and controls at
the ends are left out, and so are tabs and line breaks anywhere.  An address starts with a scheme.
The well-known schemes need a host, whatever slashes and backslashes stand before it; other schemes
have one only after two slashes.  Before the host there may be a user and a password, after it a
port.  Path, query and fragment may hold anything.
-/

namespace HttpScenario.Url

/-- The kinds of schemes. -/
inductive SchemeKind where
  | file
  /-- A well-known scheme with a host. -/
  | special
  | other
  deriving DecidableEq, Repr

/-- The kind of a scheme. -/
def schemeKind (scheme : List Char) : SchemeKind :=
  let name := String.ofList scheme
  if name = "file" then .file
  else if name = "http" ∨ name = "https" ∨ name = "ws" ∨ name = "wss" ∨ name = "ftp" then .special
  else .other

/-- The text without blanks and controls at the ends, and without tabs and line breaks. -/
def strip (text : String) : List Char :=
  let outer (c : Char) : Bool := c.toNat ≤ 0x20
  let trimmed := ((text.toList.dropWhile outer).reverse.dropWhile outer).reverse
  trimmed.filter fun c => c != '\t' && c != '\n' && c != '\r'

/-- Whether a character may stand in a scheme. -/
def isSchemeChar (c : Char) : Bool :=
  c.isAlpha || c.isDigit || c == '+' || c == '-' || c == '.'

/-- The scheme in small letters and what follows its colon. -/
def splitScheme? (cs : List Char) : Option (List Char × List Char) :=
  match cs with
  | [] => none
  | c :: _ =>
    if !c.isAlpha then none
    else
      match cs.dropWhile isSchemeChar with
      | ':' :: rest => some ((cs.takeWhile isSchemeChar).map Char.toLower, rest)
      | _ => none

/-- Whether a character ends the part of an address that names a host. -/
def endsAuthority (special : Bool) (c : Char) : Bool :=
  c == '/' || c == '?' || c == '#' || (special && c == '\\')

/-- What stands before the last at sign, if there is one, and what follows it. -/
def splitUser (authority : List Char) : Option (List Char) × List Char :=
  match authority.reverse.span (· != '@') with
  | (after, _ :: before) => (some before.reverse, after.reverse)
  | (after, []) => (none, after.reverse)

/-- The host at the front, up to a colon outside brackets, and what follows it. -/
def splitHost (inBrackets : Bool) : List Char → List Char × List Char
  | [] => ([], [])
  | c :: rest =>
    if c = ':' ∧ inBrackets = false then ([], c :: rest)
    else
      let inside := if c = '[' then true else if c = ']' then false else inBrackets
      (c :: (splitHost inside rest).1, (splitHost inside rest).2)

/-- Checks the digits of a port; a path may follow them after a backslash. -/
def checkPort (port : Nat) : List Char → Except Fault Unit
  | [] => .ok ()
  | c :: rest =>
    if c.isDigit then
      let port := port * 10 + (c.toNat - 48)
      if 65535 < port then .error .invalidPort else checkPort port rest
    else if c = '\\' then .ok ()
    else .error .invalidPort

/-- Checks the part of an address that names a host. -/
def checkAuthority (special : Bool) (cs : List Char) : Except Fault Unit := do
  let authority := cs.takeWhile fun c => !endsAuthority special c
  let rest := cs.dropWhile fun c => !endsAuthority special c
  let (user?, server) := splitUser authority
  if user? == some [] && server.isEmpty && !rest.isEmpty then .error .emptyHost
  else
    let (host, after) := splitHost false server
    if special && host.isEmpty then .error .emptyHost
    else do
      if special then checkDomain host else checkOpaque host
      if host.isEmpty && !after.isEmpty then .error .emptyHost
      else do
        checkPort 0 (after.drop 1)
        let hasUser := match user? with
          | some user => !user.isEmpty && user != [':']
          | none => false
        if host.isEmpty && hasUser then .error .emptyHost else .ok ()

/-- Whether a text is a drive letter of a file system. -/
def isDriveLetter (cs : List Char) : Bool :=
  match cs with
  | [letter, mark] => letter.isAlpha && (mark == ':' || mark == '|')
  | _ => false

/-- Checks the host of a file address. -/
def checkFile (cs : List Char) : Except Fault Unit :=
  let isSlash (c : Char) : Bool := c == '/' || c == '\\'
  match cs with
  | a :: b :: rest =>
    if isSlash a && isSlash b then
      let host := rest.takeWhile fun c => !endsAuthority true c
      if host.isEmpty || isDriveLetter host then .ok () else checkDomain host
    else .ok ()
  | _ => .ok ()

/-- The scheme of an absolute address, or what is wrong with it. -/
def parseScheme (text : String) : Except Fault String :=
  match splitScheme? (strip text) with
  | none => .error .noScheme
  | some (scheme, rest) =>
    let checked : Except Fault Unit :=
      match schemeKind scheme with
      | .file => checkFile rest
      | .special => checkAuthority true (rest.dropWhile fun c => c == '/' || c == '\\')
      | .other =>
        match rest with
        | '/' :: '/' :: rest => checkAuthority false rest
        | _ => .ok ()
    checked.map fun _ => String.ofList scheme

end HttpScenario.Url
