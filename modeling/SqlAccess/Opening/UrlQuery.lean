import SqlAccess.Opening
import SqlAccess.Text.Diagnostic
import SqlAccess.Url
import SqlAccess.Url.Form

/-!
# Queries of PostgreSQL URLs

Connection strings of PostgreSQL are URLs. Some values of the query are read as numbers, as
an address or as one of a list of words; settings that are not known are ignored. What is
percent-encoded has to be UTF-8.
-/

namespace SqlAccess.UrlQuery

/-- The words for how a connection is encrypted, in lower case. -/
def encryptionModes : List String :=
  ["disable", "allow", "prefer", "require", "verify-ca", "verify-full"]

/-- A number with an optional plus, below a bound. -/
def isBelow (bound : Nat) (s : List Char) : Bool :=
  let digits := match s with
    | '+' :: rest => rest
    | other => other
  (Decimal.natValue? digits).any (· < bound)

/-- True for an address in numbers. -/
def isAddress (s : List Char) : Bool :=
  (Url.Ipv6.dotted? s).isSome || (Url.Ipv6.parse? s).isSome

/-- What is wrong with one setting. -/
def settingObjection? (setting : List Char × List Char) : Option OpeningFault :=
  let value := setting.2
  let require (words : String) (accepted : Bool) : Option OpeningFault :=
    if accepted then none else some (.configuration words)
  match String.ofList setting.1 with
  | "sslmode" | "ssl-mode" =>
    require ("error with configuration: unknown value " ++
        Text.diagnosticText (String.ofList value) ++ " for \x60ssl_mode\x60")
      (encryptionModes.contains (String.ofList (Text.lowerAscii value)))
  | "statement-cache-capacity" =>
    require "invalid digit found in string" (isBelow UInt64.size value)
  | "port" => require "invalid digit found in string" (isBelow UInt16.size value)
  | "hostaddr" => require "invalid IP address syntax" (isAddress value)
  | _ => none

/-- True for a text whose percent-encoded bytes are UTF-8. -/
def isEncodedText (s : List Char) : Bool :=
  (Text.Utf8.decode? (Text.Percent.decode (Text.Utf8.encode s))).isSome

/-- A host is decoded only where it names a socket, which starts with a slash. -/
def isHost (host : List Char) : Bool :=
  match Text.Percent.decode (Text.Utf8.encode host) with
  | 0x2F :: _ => isEncodedText host
  | _ => true

/-- The part of a text behind its scheme; a scheme starts with a letter. -/
def afterScheme? (s : List Char) : Option (List Char) :=
  match Text.cutAt ':' s with
  | some (first :: rest, after) =>
    if first.isAlpha && rest.all fun c => c.isAlphanum || "+-.".toList.contains c then some after
    else none
  | _ => none

/-- What is wrong with a URL that can be read. -/
def urlObjection? (url : Url) : Option OpeningFault :=
  if isHost url.host && isEncodedText url.credentials && isEncodedText url.path then
    (Url.Form.pairs (url.query.getD [])).findSome? settingObjection?
  else some (.configuration "invalid utf-8 sequence")

/-- The first thing that is wrong with a connection string. A URL without an authority leads to the
host that is meant by default. -/
def objection? (s : List Char) : Option OpeningFault :=
  let malformed (fault : UrlFault) : OpeningFault := .configuration fault.message
  match afterScheme? (Url.cleaned s) with
  | none => some (malformed .relative)
  | some ('/' :: '/' :: _) =>
    match Url.parse? s with
    | .error fault => some (malformed fault)
    | .ok url => urlObjection? url
  | some _ => none

end SqlAccess.UrlQuery
