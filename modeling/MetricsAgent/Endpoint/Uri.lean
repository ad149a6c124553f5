import MetricsAgent.Decimal.Reading

/-!
# URIs

A URI has a scheme, an authority and a path; a query and a fragment may follow the path and are
dropped here.  `Uri.parse` splits a text into these parts.  Everything is stated on lists of
characters.
-/

namespace MetricsAgent

/-- Why a text is no URI. -/
inductive UriError where
  | tooLong
  | empty
  | schemeTooLong
  | invalidCharacter
  | invalidAuthority
  | invalidFormat
  deriving DecidableEq, Repr

def UriError.message : UriError → String
  | .tooLong => "uri too long"
  | .empty => "empty string"
  | .schemeTooLong => "scheme too long"
  | .invalidCharacter => "invalid uri character"
  | .invalidAuthority => "invalid authority"
  | .invalidFormat => "invalid format"

/-- The two schemes with a meaning of their own, and all others. -/
inductive Scheme where
  | http
  | https
  | other (name : List Char)
  deriving DecidableEq, Repr

structure Uri where
  scheme : Option Scheme
  authority : List Char
  path : List Char
  deriving DecidableEq, Repr

namespace Uri

/-! ## Scheme -/

def isSchemeChar (c : Char) : Bool :=
  c.isAlphanum || c == '+' || c == '-' || c == '.' || c == '~'

/-- The text after a beginning that is given in lower case and found in any case. -/
def dropLowercase? : List Char → List Char → Option (List Char)
  | [], text => some text
  | p :: ps, c :: cs => if c.toLower = p then dropLowercase? ps cs else none
  | _ :: _, [] => none

/-- How long the name of a scheme may be. -/
def maxSchemeLength : Nat := 64

/-- The scheme at the beginning of a text, with the text after `://`. -/
def splitScheme (text : List Char) : Except UriError (Option Scheme × List Char) :=
  match dropLowercase? ['h', 't', 't', 'p', ':', '/', '/'] text with
  | some rest => .ok (some .http, rest)
  | none =>
    match dropLowercase? ['h', 't', 't', 'p', 's', ':', '/', '/'] text with
    | some rest => .ok (some .https, rest)
    | none =>
      match text.span isSchemeChar with
      | (name, ':' :: '/' :: '/' :: rest) =>
        if text.length ≤ 3 then .ok (none, text)
        else if maxSchemeLength < name.length then .error .schemeTooLong
        else .ok (some (.other name), rest)
      | _ => .ok (none, text)

/-! ## Authority -/

/-- Where an authority ends. -/
def endsAuthority (c : Char) : Bool :=
  c == '/' || c == '?' || c == '#'

def isAuthorityChar (c : Char) : Bool :=
  c.isAlphanum || "!#$&'()*+,-./:;=?@[]_~".toList.contains c

/-- How many colons may stand in an address between brackets with a port after it. -/
def maxColons : Nat := 8

/-- What was seen of an authority from left to right. -/
structure AuthorityScan where
  /-- Colons since the last bracket or user. -/
  colons : Nat := 0
  opened : Bool := false
  closed : Bool := false
  /-- A percent sign that no bracket and no user has ended. -/
  percent : Bool := false
  deriving DecidableEq, Repr

def AuthorityScan.step (s : AuthorityScan) (c : Char) : Except UriError AuthorityScan :=
  if c = ':' then
    if maxColons ≤ s.colons then .error .invalidAuthority else .ok { s with colons := s.colons + 1 }
  else if c = '[' then
    if s.percent ∨ s.opened then .error .invalidAuthority else .ok { s with opened := true }
  else if c = ']' then
    if ¬s.opened ∨ s.closed then .error .invalidAuthority
    else .ok { s with closed := true, colons := 0, percent := false }
  else if c = '@' then .ok { s with colons := 0, percent := false }
  else if c = '%' then .ok { s with percent := true }
  else if isAuthorityChar c then .ok s
  else .error .invalidCharacter

/-- The authority at the beginning of a text, with the text after it. -/
def splitAuthority (text : List Char) : Except UriError (List Char × List Char) := do
  let (authority, rest) := text.span (fun c => !endsAuthority c)
  let s ← authority.foldlM AuthorityScan.step {}
  if s.opened ≠ s.closed ∨ 1 < s.colons ∨ authority.getLast? = some '@' ∨ s.percent then
    .error .invalidAuthority
  else
    .ok (authority, rest)

/-! ## Path and query -/

def isPathChar (c : Char) : Bool :=
  let n := c.toNat
  n = 0x21 || n = 0x22 || (0x24 ≤ n && n ≤ 0x3B) || n = 0x3D || (0x40 ≤ n && n ≤ 0x5F)
    || (0x61 ≤ n && n ≤ 0x7E) || 0x7F < n

def isQueryChar (c : Char) : Bool :=
  let n := c.toNat
  n = 0x21 || (0x24 ≤ n && n ≤ 0x3B) || n = 0x3D || (0x3F ≤ n && n ≤ 0x7E) || 0x7F < n

/-- The path of a text that may go on with a query and a fragment. -/
def readPath (text : List Char) : Except UriError (List Char) :=
  let (path, rest) := text.span (fun c => c != '?' && c != '#')
  let query := match rest with
    | '?' :: query => query.takeWhile (· != '#')
    | _ => []
  if path.all isPathChar ∧ query.all isQueryChar then
    .ok (if path = [] then ['/'] else path)
  else .error .invalidCharacter

/-! ## Whole texts -/

/-- How many bytes a URI may have. -/
def maxSize : Nat := 65534

/-- A URI of one character that is no path. -/
def parseChar (c : Char) : Except UriError Uri := do
  let (authority, rest) ← splitAuthority [c]
  if rest = [] then .ok ⟨none, authority, []⟩ else .error .invalidCharacter

/-- A URI that begins with its scheme or its authority. -/
def parseFull (text : List Char) : Except UriError Uri := do
  let (scheme, rest) ← splitScheme text
  if rest = [] then .error .empty
  else
    let (authority, rest) ← splitAuthority rest
    match scheme with
    | none => if rest = [] then .ok ⟨none, authority, []⟩ else .error .invalidFormat
    | some s =>
      if authority = [] then .error .invalidFormat
      else return ⟨some s, authority, ← readPath rest⟩

/-- The URI that a text denotes. -/
def parse (text : String) : Except UriError Uri :=
  if maxSize < text.utf8ByteSize then .error .tooLong
  else
    match text.toList with
    | [] => .error .empty
    | ['*'] => .ok ⟨none, [], ['*']⟩
    | '/' :: rest => do return ⟨none, [], ← readPath ('/' :: rest)⟩
    | [c] => if c.toNat < 0x80 then parseChar c else parseFull [c]
    | text => parseFull text

/-! ## Host and port -/

/-- The part of an authority after the user. -/
def hostAndPort (authority : List Char) : List Char :=
  (authority.reverse.takeWhile (· != '@')).reverse

/-- The host; an address in brackets keeps them. -/
def host (u : Uri) : List Char :=
  match hostAndPort u.authority with
  | '[' :: rest => '[' :: rest.takeWhile (· != ']') ++ [']']
  | rest => rest.takeWhile (· != ':')

/-- The largest port. -/
def maxPort : Nat := 65535

/-- A number of 16 bits in decimal digits, with an optional plus sign. -/
def readPort? (text : List Char) : Option Nat :=
  let digits := match text with
    | '+' :: rest => rest
    | _ => text
  if digits ≠ [] ∧ digits.all Char.isDigit then
    let n := Decimal.digitsValue 0 digits
    if n ≤ maxPort then some n else none
  else none

/-- The port after the last colon of the authority, if there is a number. -/
def port? (u : Uri) : Option Nat :=
  if ':' ∈ u.authority then readPort? (u.authority.reverse.takeWhile (· != ':')).reverse else none

end Uri

end MetricsAgent
