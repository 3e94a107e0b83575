/-! # URIs

A URI has a scheme, an authority, a path and perhaps a query; `Uri.parse` reads one and tells why a
text is none. A fragment is dropped. The scheme is kept in lower case if it is a web scheme. An
authority alone is a URI too, and so are a path with its query and a star. `Uri.text` writes a URI,
with a path unless it is an authority alone. -/

namespace SpotRebalance

/-- Why a text is no URI. -/
inductive UriFault where
  /-- A character has no place there. -/
  | invalidCharacter
  /-- The authority makes no sense. -/
  | invalidAuthority
  /-- The parts do not fit together. -/
  | invalidFormat
  /-- It is too long. -/
  | tooLong
  /-- The scheme is too long. -/
  | schemeTooLong
  /-- There is nothing where an authority should be. -/
  | empty
  deriving DecidableEq

/-- The fault in words. -/
def UriFault.message : UriFault → String
  | invalidCharacter => "invalid uri character"
  | invalidAuthority => "invalid authority"
  | invalidFormat => "invalid format"
  | tooLong => "uri too long"
  | schemeTooLong => "scheme too long"
  | empty => "empty string"

/-- A URI. -/
structure Uri where
  /-- The scheme, if there is one. -/
  scheme : Option String := none
  /-- The authority; empty if there is none. -/
  authority : String := ""
  /-- The path as it is written; it may be empty. -/
  rawPath : String := ""
  /-- The query, if there is one. -/
  query : Option String := none
  deriving DecidableEq

namespace Uri

/-- The longest URI, in bytes. -/
def longest : Nat := 65534

/-- The longest scheme that is not a web scheme. -/
def longestScheme : Nat := 64

/-- The most colons of an address in brackets, with a port. -/
def mostColons : Nat := 8

/-- Whether a character may stand in a scheme. -/
def isSchemeChar (c : Char) : Bool := c.isAlphanum || ['+', '-', '.', '~'].contains c

/-- Whether a character may stand in an authority. -/
def isAuthorityChar (c : Char) : Bool :=
  c.isAlphanum ||
    ['!', '$', '&', '\'', '(', ')', '*', '+', ',', '-', '.', ':', ';', '=', '@', '[', ']', '_',
      '~'].contains c

/-- Whether a character may stand in a path. -/
def isPathChar (c : Char) : Bool :=
  let n := c.toNat
  n == 0x21 || n == 0x22 || (0x24 ≤ n && n ≤ 0x3b) || n == 0x3d ||
    (0x40 ≤ n && n ≤ 0x5f) || 0x61 ≤ n

/-- Whether a character may stand in a query. -/
def isQueryChar (c : Char) : Bool :=
  let n := c.toNat
  n == 0x21 || (0x24 ≤ n && n ≤ 0x3b) || n == 0x3d || 0x3f ≤ n

/-- Whether a character ends an authority. -/
def endsAuthority (c : Char) : Bool := c == '/' || c == '?' || c == '#'

/-- The scheme of a URI, if it has one, and what follows. -/
def splitScheme (cs : List Char) : Except UriFault (Option String × List Char) :=
  let scheme := cs.takeWhile isSchemeChar
  match cs.dropWhile isSchemeChar with
  | ':' :: '/' :: '/' :: rest =>
    let name := String.ofList scheme
    let lowered := String.ofList (scheme.map Char.toLower)
    if lowered = "http" ∨ lowered = "https" then .ok (some lowered, rest)
    else if scheme.isEmpty && rest.isEmpty then .ok (none, cs)
    else if longestScheme < scheme.length then .error .schemeTooLong
    else .ok (some name, rest)
  | _ => .ok (none, cs)

/-- What is known of an authority up to a character. -/
structure AuthorityScan where
  /-- The colons that may come before a port. -/
  colons : Nat := 0
  /-- Whether a bracket was opened. -/
  opened : Bool := false
  /-- Whether it was closed. -/
  closed : Bool := false
  /-- Whether there is a percent sign after user and brackets. -/
  percent : Bool := false
  /-- Whether the last character ended the user. -/
  afterUser : Bool := false

/-- Takes one more character of an authority. -/
def AuthorityScan.take (s : AuthorityScan) (c : Char) : Except UriFault AuthorityScan :=
  let s := { s with afterUser := false }
  if c = ':' then
    if mostColons ≤ s.colons then .error .invalidAuthority
    else .ok { s with colons := s.colons + 1 }
  else if c = '[' then
    if s.percent || s.opened then .error .invalidAuthority else .ok { s with opened := true }
  else if c = ']' then
    if !s.opened || s.closed then .error .invalidAuthority
    else .ok { s with closed := true, colons := 0, percent := false }
  else if c = '@' then .ok { s with afterUser := true, colons := 0, percent := false }
  else if c = '%' then .ok { s with percent := true }
  else if isAuthorityChar c then .ok s
  else .error .invalidCharacter

/-- Checks a whole authority. -/
def checkAuthority (cs : List Char) : Except UriFault Unit := do
  let s ← cs.foldlM AuthorityScan.take {}
  if s.opened != s.closed || 1 < s.colons || s.afterUser || s.percent then .error .invalidAuthority
  else .ok ()

/-- The authority in front, and what follows. -/
def spanAuthority (cs : List Char) : Except UriFault (List Char × List Char) := do
  let authority := cs.takeWhile fun c => !endsAuthority c
  checkAuthority authority
  .ok (authority, cs.dropWhile fun c => !endsAuthority c)

/-- Reads a path with its query. -/
def parsePath (cs : List Char) : Except UriFault Uri :=
  let cs := cs.takeWhile (· != '#')
  let path := cs.takeWhile (· != '?')
  let query := cs.dropWhile (· != '?')
  if !path.all isPathChar || !(query.drop 1).all isQueryChar then .error .invalidCharacter
  else .ok {
    rawPath := String.ofList path
    query := if query.isEmpty then none else some (String.ofList (query.drop 1)) }

/-- Reads an authority that stands alone. A single character that is none has no place in it. -/
def parseAuthority (cs : List Char) : Except UriFault Uri := do
  let (authority, rest) ← spanAuthority cs
  if rest.isEmpty then .ok { authority := String.ofList authority }
  else .error (if cs.length = 1 then .invalidCharacter else .invalidFormat)

/-- Reads what follows a scheme. -/
def parseAfterScheme (scheme : String) (cs : List Char) : Except UriFault Uri := do
  if cs.isEmpty then .error .empty
  let (authority, rest) ← spanAuthority cs
  if authority.isEmpty then .error .invalidFormat
  let tail ← parsePath rest
  .ok { tail with scheme := some scheme, authority := String.ofList authority }

/-- Reads a URI. -/
def parse (s : String) : Except UriFault Uri := do
  let cs := s.toList
  if longest < s.utf8ByteSize then .error .tooLong
  else if cs.isEmpty then .error .empty
  else if cs = ['*'] then .ok { rawPath := s }
  else if cs.head? = some '/' then parsePath cs
  else
    match ← splitScheme cs with
    | (none, rest) => parseAuthority rest
    | (some scheme, rest) => parseAfterScheme scheme rest

/-- The path: a slash if none is written, and nothing for an authority that stands alone. -/
def path (u : Uri) : String :=
  if u.rawPath.isEmpty && u.scheme.isSome then "/" else u.rawPath

/-- The URI as text. -/
def text (u : Uri) : String :=
  (u.scheme.map (· ++ "://")).getD "" ++ u.authority ++ u.path ++ (u.query.map ("?" ++ ·)).getD ""

end Uri

end SpotRebalance
