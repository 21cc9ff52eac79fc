import SqlAccess.Url.Ipv6
import SqlAccess.Url.Path

/-!
# URLs

A URL with an authority, as the parts of its written form. Reading follows the rules for
schemes of no special kind: the host is kept as it is written, its case too, and no port is
a default. The path is the only part that this library replaces; the written form of the
others does not depend on it.
-/

namespace SqlAccess

/-- Why a text is no URL. -/
inductive UrlFault where
  | emptyHost
  | invalidPort
  | invalidIpv6
  | invalidHostCharacter
  /-- No scheme and authority. -/
  | relative
deriving DecidableEq, Repr

/-- The wording of a fault. -/
def UrlFault.message : UrlFault → String
  | .emptyHost => "empty host"
  | .invalidPort => "invalid port number"
  | .invalidIpv6 => "invalid IPv6 address"
  | .invalidHostCharacter => "invalid domain character"
  | .relative => "relative URL without a base"

/-- A URL in the parts of its written form. -/
structure Url where
  scheme : List Char
  /-- User and password with the at sign behind them, or empty. -/
  credentials : List Char
  /-- Empty, a name, or an address in brackets. -/
  host : List Char
  port : Option Nat
  /-- Empty, or starting with a slash. -/
  path : List Char
  /-- The part after the question mark. -/
  query : Option (List Char)
  /-- The part after the number sign. -/
  fragment : Option (List Char)
deriving DecidableEq, Repr

namespace Url

/-- The characters that are encoded in user names and passwords. -/
def escapedInCredentials (c : Char) : Bool :=
  Path.escaped c || "/:;=@[\\]^|".toList.contains c

/-- The characters that are encoded in a query. -/
def escapedInQuery (c : Char) : Bool := isControlOrForeign c || " \"#<>".toList.contains c

/-- The characters that are encoded in a fragment. -/
def escapedInFragment (c : Char) : Bool := isControlOrForeign c || " \"<>`".toList.contains c

/-- The characters that no host name may hold. -/
def forbiddenInHost (c : Char) : Bool :=
  c.toNat = 0 || "\t\n\r #/:<>?@[\\]^|".toList.contains c

/-- The written form of what stands before the at sign. An empty password has no colon, and
nothing at all has no at sign. -/
def credentialsText (s : List Char) : List Char :=
  let encode := Text.Percent.encode escapedInCredentials
  match Text.cutAt ':' s with
  | none => if s.isEmpty then [] else encode s ++ ['@']
  | some ([], []) => []
  | some (user, []) => encode user ++ ['@']
  | some (user, password) => encode user ++ ':' :: encode password ++ ['@']

/-- Cut an authority where its host ends: at a colon outside brackets. -/
def cutHost (bracketed : Bool) : List Char → List Char × List Char
  | [] => ([], [])
  | c :: rest =>
    if c = ':' && !bracketed then ([], c :: rest)
    else
      let inside := if c = '[' then true else if c = ']' then false else bracketed
      let (host, after) := cutHost inside rest
      (c :: host, after)

/-- The written form of a host. -/
def hostText? (s : List Char) : Except UrlFault (List Char) :=
  match s with
  | '[' :: inner =>
    match (Text.dropEnd? [']'] inner).bind Ipv6.parse? with
    | some address => .ok ('[' :: address.text ++ [']'])
    | none => .error .invalidIpv6
  | name =>
    if name.any forbiddenInHost then .error .invalidHostCharacter
    else .ok (Text.Percent.encode isControlOrForeign name)

/-- The port behind a host, and the characters that belong to the path already: a backslash ends
a port. -/
def port? (s : List Char) : Except UrlFault (Option Nat × List Char) :=
  match s with
  | [] => .ok (none, [])
  | _ :: written =>
    let digits := written.takeWhile (· ≠ '\\')
    let rest := written.dropWhile (· ≠ '\\')
    if digits.isEmpty then .ok (none, rest)
    else match Decimal.natValue? digits with
      | some n => if n < 65536 then .ok (some n, rest) else .error .invalidPort
      | none => .error .invalidPort

/-- The characters that end an authority. -/
def endsAuthority (c : Char) : Bool := c = '/' || c = '?' || c = '#'

/-- The text at and after a mark, without the mark, and the text before it. -/
def cutTail (mark : Char) (s : List Char) : List Char × Option (List Char) :=
  match Text.cutAt mark s with
  | some (before, after) => (before, some after)
  | none => (s, none)

/-- A text as it is read: without controls and spaces at its ends, tabs and line ends nowhere. -/
def cleaned (s : List Char) : List Char :=
  let low (c : Char) : Bool := c.toNat ≤ 0x20
  let trimmed := ((s.dropWhile low).reverse.dropWhile low).reverse
  trimmed.filter fun c => c ≠ '\t' && c ≠ '\n' && c ≠ '\r'

/-- The URL that a text writes. -/
def parse? (s : List Char) : Except UrlFault Url := do
  let (scheme, afterScheme) ← match Text.cutAtPart "://".toList (cleaned s) with
    | some halves => pure halves
    | none => throw .relative
  let authority := afterScheme.takeWhile fun c => !endsAuthority c
  let tail := afterScheme.dropWhile fun c => !endsAuthority c
  let (userInfo, hostAndPort) := match Text.cutAtLast '@' authority with
    | some (before, after) => (some before, after)
    | none => (none, authority)
  let credentials := credentialsText (userInfo.getD [])
  if userInfo = some [] ∧ hostAndPort = [] ∧ tail ≠ [] then throw .emptyHost
  let (written, portPart) := cutHost false hostAndPort
  let host ← hostText? written
  if host.isEmpty ∧ portPart ≠ [] then throw .emptyHost
  let (port, pathStart) ← port? portPart
  if host.isEmpty ∧ credentials ≠ [] then throw .emptyHost
  let (beforeFragment, fragment) := cutTail '#' (pathStart ++ tail)
  let (path, query) := cutTail '?' beforeFragment
  return {
    scheme := Text.lowerAscii scheme
    credentials := credentials
    host := host
    port := port
    path := Path.normalized path
    query := query.map (Text.Percent.encode escapedInQuery)
    fragment := fragment.map (Text.Percent.encode escapedInFragment) }

/-- What stands before the path. -/
def origin (url : Url) : List Char :=
  url.scheme ++ "://".toList ++ url.credentials ++ url.host ++
    match url.port with
    | some n => ':' :: Decimal.ofNat n
    | none => []

/-- What stands behind the path. -/
def suffix (url : Url) : List Char :=
  (match url.query with
    | some query => '?' :: query
    | none => []) ++
  (match url.fragment with
    | some fragment => '#' :: fragment
    | none => [])

/-- The written form. -/
def text (url : Url) : List Char := url.origin ++ url.path ++ url.suffix

/-- The same URL with another path. -/
def withPath (url : Url) (path : List Char) : Url := { url with path := Path.normalized path }

end Url

end SqlAccess
