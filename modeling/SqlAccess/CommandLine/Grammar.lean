/-!
# Arguments by a grammar

A grammar names the options of a command, how many operands it takes and which subcommands
it has. Words are read from left to right. An option that is begun waits for its value; its
value is checked when the next option or operand is seen, or at the end. Options that are
not given may come from the environment. The first fault ends the reading.
-/

namespace SqlAccess.CommandLine

/-- Why words are no command. Help and version are asked for in the same way. -/
inductive UsageFault where
  | unknownArgument
  | conflict
  /-- A value outside a list of words, or none where one is needed. -/
  | notAChoice
  /-- A value that cannot be read. -/
  | unreadableValue
  /-- A value for an option that takes none. -/
  | unexpectedValue
  | missingOperand
  | missingSubcommand
  | unknownSubcommand
  | helpAsked
  | versionAsked
  /-- Nothing at all was given. -/
  | nothingGiven
deriving DecidableEq, Repr

/-- What an option does. -/
inductive OptionKind where
  /-- Given or not; from the environment its value is a word. -/
  | flag
  | value (check : String → Option UsageFault)
  | help
  | version

/-- An option. -/
structure OptionRule where
  name : String
  short : Option Char := none
  kind : OptionKind
  /-- The variable of the environment that stands in for the option. -/
  standIn : Option String := none

/-- How many operands a command takes. -/
inductive Operands where
  | none
  | one
  | many
deriving DecidableEq, Repr

/-- What a command accepts. -/
structure Grammar where
  options : List OptionRule
  operands : Operands := .none
  subcommands : List String := []
  /-- Options that exclude each other. -/
  exclusive : List (String × String) := []

/-- What was read. -/
structure Reading where
  /-- Options with their values, in the order in which they were completed. -/
  given : List (String × String) := []
  operands : List String := []
  /-- The option that was begun last, with its value once it has been seen. -/
  pending : Option (OptionRule × Option String) := none

/-- The words behind a subcommand, with its name. -/
abbrev Continuation := Option (String × List String)

namespace Reading

/-- True while an option waits for its value. -/
def awaitsValue (reading : Reading) : Bool :=
  match reading.pending with
  | some (_, none) => true
  | _ => false

/-- The value of an option. -/
def value? (reading : Reading) (name : String) : Option String := reading.given.lookup name

/-- True when an option was given. -/
def has (reading : Reading) (name : String) : Bool := (reading.value? name).isSome

/-- Complete an option; none is given twice, and values are checked. -/
def complete (reading : Reading) (rule : OptionRule) (value : String) :
    Except UsageFault Reading :=
  if reading.has rule.name then .error .conflict
  else
    let fault := match rule.kind with
      | .value check => check value
      | .flag => if value = "true" ∨ value = "false" then none else some .notAChoice
      | .help | .version => none
    match fault with
    | some fault => .error fault
    | none => .ok { reading with given := reading.given ++ [(rule.name, value)] }

/-- Complete the option that was begun last. -/
def settle (reading : Reading) : Except UsageFault Reading :=
  match reading.pending with
  | none => .ok reading
  | some (_, none) => .error .notAChoice
  | some (rule, some value) => { reading with pending := none }.complete rule value

/-- An option without anything attached to it: a flag is complete, a value is waited for. -/
def meet (reading : Reading) (rule : OptionRule) : Except UsageFault Reading := do
  let settled ← reading.settle
  match rule.kind with
  | .help => throw .helpAsked
  | .version => throw .versionAsked
  | .flag => settled.complete rule "true"
  | .value _ => return { settled with pending := some (rule, none) }

/-- An option with a value attached to it. -/
def meetWith (reading : Reading) (rule : OptionRule) (value : String) :
    Except UsageFault Reading := do
  match rule.kind with
  | .value _ => (← reading.settle).complete rule value
  | .flag | .help | .version => throw .unexpectedValue

/-- Options from the environment, in the order of the grammar, where they were not given. -/
def fillIn (environment : List (String × String)) :
    List OptionRule → Reading → Except UsageFault Reading
  | [], reading => .ok reading
  | rule :: rest, reading =>
    match rule.standIn.bind fun name => environment.lookup name with
    | some value =>
      if reading.has rule.name then fillIn environment rest reading
      else do fillIn environment rest (← reading.complete rule value)
    | none => fillIn environment rest reading

end Reading

namespace Grammar

/-- A word that starts with two hyphens: a name, perhaps an equals sign and a value. -/
def readLong (grammar : Grammar) (reading : Reading) (word : List Char) :
    Except UsageFault Reading :=
  let name := String.ofList (word.takeWhile (· ≠ '='))
  match grammar.options.find? fun rule => rule.name == name with
  | none => .error .unknownArgument
  | some rule =>
    match word.dropWhile (· ≠ '=') with
    | [] => reading.meet rule
    | _ :: value => reading.meetWith rule (String.ofList value)

/-- The letters behind one hyphen: flags, or an option whose value is the rest of the word. -/
def readShort (grammar : Grammar) (reading : Reading) : List Char → Except UsageFault Reading
  | [] => .ok reading
  | c :: rest =>
    match grammar.options.find? fun rule => rule.short == some c with
    | none => .error .unknownArgument
    | some rule =>
      match rule.kind, rest with
      | .value _, [] => reading.meet rule
      | .value _, '=' :: value => reading.meetWith rule (String.ofList value)
      | .value _, value => reading.meetWith rule (String.ofList value)
      | _, _ => do readShort grammar (← reading.meet rule) rest

/-- A word that is no option. Where no operand is expected it is taken for a subcommand that does
not exist; a subcommand behind two hyphens is no longer one. -/
def readOperand (grammar : Grammar) (reading : Reading) (trailing : Bool) (word : String) :
    Except UsageFault Reading :=
  let expected := match grammar.operands with
    | .none => false
    | .one => reading.operands.isEmpty
    | .many => true
  if expected then do
    let settled ← reading.settle
    return { settled with operands := settled.operands ++ [word] }
  else if grammar.subcommands.isEmpty ∨ (trailing ∧ grammar.subcommands.contains word) then
    .error .unknownArgument
  else .error .unknownSubcommand

/-- Read one word that does not name a subcommand. -/
def readWord (grammar : Grammar) (reading : Reading) (trailing : Bool) (word : String) :
    Except UsageFault Reading :=
  if trailing then grammar.readOperand reading true word
  else
    match word.toList with
    | '-' :: '-' :: long => grammar.readLong reading long
    | '-' :: c :: short => grammar.readShort reading (c :: short)
    | _ =>
      match reading.pending with
      | some (rule, none) => .ok { reading with pending := some (rule, some word) }
      | _ => grammar.readOperand reading false word

/-- Read words up to a subcommand. Behind two hyphens alone, all words are operands. -/
def readWords (grammar : Grammar) (reading : Reading) (trailing : Bool) :
    List String → Except UsageFault (Reading × Continuation)
  | [] => .ok (reading, none)
  | word :: rest =>
    if !trailing && !reading.awaitsValue && grammar.subcommands.contains word then
      .ok (reading, some (word, rest))
    else if !trailing && word = "--" then readWords grammar reading true rest
    else do readWords grammar (← grammar.readWord reading trailing word) trailing rest

/-- The end of the words: the last option, then the environment. -/
def finish (grammar : Grammar) (environment : List (String × String)) (reading : Reading) :
    Except UsageFault Reading := do
  let settled ← reading.settle
  settled.fillIn environment grammar.options

/-- Refuse options that exclude each other, then an operand that is missing. -/
def validate (grammar : Grammar) (reading : Reading) : Except UsageFault Unit :=
  if grammar.exclusive.any fun pair => reading.has pair.1 && reading.has pair.2 then
    .error .conflict
  else if grammar.operands ≠ .none ∧ reading.operands.isEmpty then
    .error .missingOperand
  else .ok ()

/-- Read the words of a command without subcommands. -/
def read (grammar : Grammar) (words : List String) : Except UsageFault Reading := do
  let (reading, _) ← grammar.readWords {} false words
  let finished ← grammar.finish [] reading
  grammar.validate finished
  return finished

end Grammar

end SqlAccess.CommandLine
