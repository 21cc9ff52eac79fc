import SqlAccess.Opening
import SqlAccess.Text.Blank
import SqlAccess.Decimal.Digits

/-!
# Settings of SQL Server

A list of keys and values. Quotes of either kind enclose text in which the other
characters mean nothing; inside, the quote is doubled. Characters outside ASCII are not
accepted. Of the values some are read: the server with its port, and two truth values.
-/

namespace SqlAccess.ServerSettings

/-- A piece of a settings string. -/
inductive Token where
  | semicolon
  | equals
  | blank
  /-- A character that stands for itself. -/
  | plain (c : Char)
  /-- What stood between quotes. -/
  | quoted (text : List Char)
deriving DecidableEq, Repr

/-- Where a reader stands with respect to quotes; what was read between them is kept backwards. -/
inductive Quoting where
  | outside
  | inside (quote : Char) (text : List Char)
  /-- Behind a quote that closes the text, unless the same quote follows. -/
  | closing (quote : Char) (text : List Char)

/-- A character outside quotes. -/
def start? (c : Char) : Option (List Token × Quoting) :=
  if c = '"' ∨ c = '\'' then some ([], .inside c [])
  else if c = ';' then some ([.semicolon], .outside)
  else if c = '=' then some ([.equals], .outside)
  else if c = ' ' ∨ c = '\n' then some ([.blank], .outside)
  else if c.toNat < 128 then some ([.plain c], .outside)
  else none

/-- The pieces that a character completes, and where the reader stands behind it. -/
def step? : Quoting → Char → Option (List Token × Quoting)
  | .outside, c => start? c
  | .inside quote text, c =>
    if c = quote then some ([], .closing quote text)
    else if c.toNat < 128 then some ([], .inside quote (c :: text))
    else none
  | .closing quote text, c =>
    if c = quote then some ([], .inside quote (quote :: text))
    else (start? c).map fun begun => (.quoted text.reverse :: begun.1, begun.2)

/-- The pieces of the rest of a string. A quote that is not closed is a fault. -/
def tokensFrom? : Quoting → List Char → Option (List Token)
  | .outside, [] => some []
  | .inside _ _, [] => none
  | .closing _ text, [] => some [.quoted text.reverse]
  | quoting, c :: rest => do
    let (completed, next) ← step? quoting c
    let later ← tokensFrom? next rest
    return completed ++ later

/-- The pieces of a settings string. -/
def tokens? (s : List Char) : Option (List Token) := tokensFrom? .outside s

/-- The text of pieces, blanks at its ends removed. -/
def textOf (tokens : List Token) : List Char :=
  Text.trim (tokens.flatMap fun token =>
    match token with
    | .semicolon => [';']
    | .equals => ['=']
    | .blank => [' ']
    | .plain c => [c]
    | .quoted text => text)

/-- The segments between semicolons. -/
def segments : List Token → List (List Token)
  | [] => [[]]
  | token :: rest =>
    if token = .semicolon then [] :: segments rest
    else match segments rest with
      | [] => [[token]]
      | segment :: later => (token :: segment) :: later

/-- A key in lower case and its value; two equals signs in a key stand for one. A key is not
empty. -/
def pairFrom? (key : List Token) : List Token → Option (List Char × List Char)
  | [] => none
  | .equals :: .equals :: rest => pairFrom? (key ++ [.equals]) rest
  | .equals :: rest =>
    let name := Text.lowerAscii (textOf key)
    if name.isEmpty then none else some (name, textOf rest)
  | token :: rest => pairFrom? (key ++ [token]) rest

/-- The pairs of a settings string. Only the last segment may be blank. -/
def pairs? (s : List Char) : Option (List (List Char × List Char)) := do
  let cut := segments (← tokens? s)
  let filled := if (textOf (cut.getLastD [])).isEmpty then cut.dropLast else cut
  filled.mapM (pairFrom? [])

/-- The value of the last pair with a key. -/
def value? (pairs : List (List Char × List Char)) (key : String) : Option (List Char) :=
  (pairs.reverse.find? fun pair => pair.1 == key.toList).map (·.2)

/-- True for the words of a truth value. -/
def isTruthWord (s : List Char) : Bool :=
  ["true", "yes", "false", "no"].contains (String.ofList (Text.lower (Text.trim s)))

/-- True for a number of a port. -/
def isPort (s : List Char) : Bool :=
  let digits := match s with
    | '+' :: rest => rest
    | other => other
  (Decimal.natValue? digits).any (· < 65536)

/-- True for a host, alone or with a port behind a comma; the protocol may stand in front. -/
def isServer (s : List Char) : Bool :=
  match Text.splitOn ',' ((Text.dropStart? "tcp:".toList s).getD s) with
  | [_] => true
  | [_, port] => isPort port
  | _ => false

/-- The first thing that is wrong with a settings string. -/
def objection? (s : List Char) : Option OpeningFault :=
  let wrong (words : String) : Option OpeningFault :=
    some ⟨"Conversion error: " ++ words, .tds .conversion⟩
  match pairs? s with
  | none => wrong "key-value pairs must be joined by an equals sign"
  | some pairs =>
    let server := (value? pairs "server").or (value? pairs "data source")
    let encrypt := value? pairs "encrypt"
    if !server.all isServer then wrong "Server value faulty."
    else if !(value? pairs "trustservercertificate").all isTruthWord then
      wrong "Not a valid boolean"
    else if !encrypt.all fun word => isTruthWord word || word == "DANGER_PLAINTEXT".toList then
      wrong "Not a valid boolean"
    else none

end SqlAccess.ServerSettings
