import Organizer.Text.Digit

/-!
# Options of the program

The program takes three options with a value and one that asks for help. An option may be shortened
as long as it stays the only one with that beginning, and its value is either the next argument or
attached with an equals sign. Of an option that is repeated, the last value counts. Arguments that
belong to no option are not allowed, but are complained of only at the end, so that a request for
help in front of the end is answered first.

Reading has two steps. `Argument.ofTexts` tells which arguments are options; an argument that begins
with a dash can still be a value if it looks like a negative number or has a blank in it. Then
`Options.ofArguments` gathers the values.
-/

namespace Organizer

/-- Why the program does not start. -/
inductive Stop
  /-- A person asked for help. -/
  | helped
  /-- The arguments make no sense. -/
  | misused
  deriving DecidableEq, Repr

/-- What an option sets. -/
inductive OptionName
  | dataDirectory
  | exportDirectory
  | logLevel
  deriving DecidableEq, Repr

/-- One argument of the program. -/
inductive Argument
  | value (text : String)
  /-- An option, perhaps with an attached value. -/
  | setting (name : OptionName) (attached : Option String)
  /-- A request for help, which may be malformed. -/
  | help (isWellFormed : Bool)
  /-- What looks like an option but is none. -/
  | unknown
  deriving DecidableEq, Repr

namespace Argument

/-! ### Telling options from values -/

/-- An option or the request for help. -/
inductive Long
  | setting (name : OptionName)
  | help
  deriving DecidableEq, Repr

/-- The long options. -/
def longOptions : List (String × Long) :=
  [("--help", .help), ("--data-dir", .setting .dataDirectory),
    ("--export-dir", .setting .exportDirectory), ("--log-level", .setting .logLevel)]

/-- The long options that begin with a text. If one of them is the text itself, only that one
counts. -/
def longMatches (cs : List Char) : List Long :=
  match longOptions.find? (·.1.toList == cs) with
  | some (_, o) => [o]
  | none => (longOptions.filter (cs.isPrefixOf ·.1.toList)).map (·.2)

/-- An option with what is attached to it. Help takes no value. -/
def ofLong (o : Long) (attached : Option String) : Argument :=
  match o with
  | .setting name => .setting name attached
  | .help => .help attached.isNone

/-- Can a request for help of one letter go on like this? The letter may be repeated, the first time
behind an equals sign. -/
def isHelpTail : List Char → Bool
  | ['='] => false
  | '=' :: cs => cs.all (· == 'h')
  | cs => cs.all (· == 'h')

/-- Does a text without its dash look like a number? One line break may follow. -/
def looksNumeric (cs : List Char) : Bool :=
  let cs := if cs.getLast? = some '\n' then cs.dropLast else cs
  match cs.dropWhile Text.isDigit with
  | [] => !cs.isEmpty
  | '.' :: places => !places.isEmpty && places.all Text.isDigit
  | _ => false

/-- An argument that begins with a dash but is no option. -/
def ofDashed (cs : List Char) : Argument :=
  if looksNumeric cs.tail || cs.contains ' ' then .value (String.ofList cs) else .unknown

/-- What an argument is. Several options with the same beginning are an error. -/
def ofText (s : String) : Except Stop Argument :=
  match s.toList with
  | '-' :: '-' :: cs =>
    let front := '-' :: '-' :: cs.takeWhile (· != '=')
    let attached :=
      match cs.dropWhile (· != '=') with
      | _ :: v => some (String.ofList v)
      | [] => none
    match longMatches front with
    | [] => .ok (ofDashed ('-' :: '-' :: cs))
    | [o] => .ok (ofLong o attached)
    | _ => .error .misused
  | '-' :: 'h' :: cs => .ok (.help (isHelpTail cs))
  | '-' :: c :: cs => .ok (ofDashed ('-' :: c :: cs))
  | _ => .ok (.value s)

/-- What the arguments are. Two dashes alone end the options and stay over. -/
def ofTexts : List String → Except Stop (List Argument)
  | [] => .ok []
  | s :: ss =>
    if s = "--" then .ok [.unknown]
    else do return (← ofText s) :: (← ofTexts ss)

end Argument

/-! ### Gathering the values -/

/-- The values of the options. -/
structure Options where
  dataDirectory : Option String := none
  exportDirectory : Option String := none
  logLevel : Option String := none
  deriving DecidableEq, Repr

namespace Options

/-- Sets an option. -/
def set (o : Options) (name : OptionName) (v : String) : Options :=
  match name with
  | .dataDirectory => { o with dataDirectory := some v }
  | .exportDirectory => { o with exportDirectory := some v }
  | .logLevel => { o with logLevel := some v }

/-- Gathers the values from arguments, knowing whether an argument is left over so far. -/
def gather (o : Options) (leftOver : Bool) : List Argument → Except Stop Options
  | [] => if leftOver then .error .misused else .ok o
  | .help isWellFormed :: _ => .error (if isWellFormed then .helped else .misused)
  | .setting name (some v) :: rest => gather (o.set name v) leftOver rest
  | .setting name none :: .value v :: rest => gather (o.set name v) leftOver rest
  | .setting _ none :: _ => .error .misused
  | .value _ :: rest | .unknown :: rest => gather o true rest

/-- The options that arguments set. -/
def ofArguments (texts : List String) : Except Stop Options := do
  gather {} false (← Argument.ofTexts texts)

end Options

end Organizer
