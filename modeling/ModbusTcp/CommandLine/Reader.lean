import ModbusTcp.CommandLine.Arguments
import ModbusTcp.Text.Terminal

/-!
# Reading the command line

The arguments are taken from left to right. A value that stands in an argument of its own is not
looked at before the next argument is accepted or the line ends; until then it is pending. So a
later argument that cannot be accepted at all is reported first, although the pending value may be
wrong as well. A value behind an equals sign is looked at at once. A request for help or for the
version ends the reading where it stands.
-/

namespace ModbusTcp.CommandLine

/-- Why a command line is refused. -/
inductive UsageError where
  /-- an argument with no place for it -/
  | unexpectedArgument (shown : String)
  /-- a value for a name that takes none -/
  | unexpectedValue (value shown : String)
  /-- a slot filled for the second time -/
  | repeated (slot : Slot)
  /-- a text that is no value for its slot -/
  | badValue (value : String) (slot : Slot) (why : ValueFault)
  /-- a name without the value it takes -/
  | missingValue (slot : Slot)
  deriving DecidableEq, Repr

/-- Closes the pieces of a usage error with its last words and with where help is found. -/
def closing (pieces : List String) (ending : String) : List String :=
  pieces ++ [ending ++ "\n\nFor more information, try '", "--help", "'."]

/-- A usage error in pieces, in which plain words and highlighted ones take turns. -/
def UsageError.pieces : UsageError → List String
  | .unexpectedArgument shown => closing ["error: unexpected argument '", shown] "' found"
  | .unexpectedValue value shown =>
    closing ["error: unexpected value '", value, "' for '", shown]
      "' found; no more were expected"
  | .repeated slot =>
    closing ["error: the argument '", slot.label] "' cannot be used multiple times"
  | .badValue value slot why =>
    closing ["error: invalid value '", value, "' for '", slot.label] s!"': {why.message}"
  | .missingValue slot =>
    closing ["error: a value is required for '", slot.label] "' but none was supplied"

/-- A usage error without what steers a terminal. A sequence that a piece leaves unfinished does not
reach into the next one, because highlighting begins or ends there. -/
def UsageError.text (e : UsageError) (interrupted : Terminal.Interrupted) : String :=
  String.join (e.pieces.map (Terminal.plain interrupted))

/-- A usage error as a text that is passed on. -/
def UsageError.message (e : UsageError) : String := e.text .ended

/-- A usage error as the program writes it to standard error. -/
def UsageError.written (e : UsageError) : String := e.text .resumed

/-- Why reading ended without arguments to work with. -/
inductive Stop where
  | help
  | version
  | usage (error : UsageError)
  deriving DecidableEq, Repr

/-- How far the command line has been read. -/
structure Reader where
  arguments : Arguments := {}
  /-- the slots that were filled -/
  used : List Slot := []
  /-- a slot waiting to be filled, with its value if that was read -/
  pending : Option (Slot × Option String) := none
  /-- the slots that the next plain arguments go to -/
  places : List Slot := Slot.positionals
  /-- only plain arguments follow -/
  literal : Bool := false
  deriving Repr

namespace Reader

/-- Fills a slot, for the first time and with a value for it. -/
def fill (r : Reader) (slot : Slot) (value : String) : Except Stop Reader :=
  if slot ∈ r.used then .error (.usage (.repeated slot))
  else match r.arguments.set slot value with
    | .ok arguments => .ok { r with arguments := arguments, used := slot :: r.used }
    | .error why => .error (.usage (.badValue value slot why))

/-- Fills the slot that is waiting, if one is. -/
def settle (r : Reader) : Except Stop Reader :=
  match r.pending with
  | none => .ok r
  | some (slot, none) => .error (.usage (.missingValue slot))
  | some (slot, some value) => ({ r with pending := none } : Reader).fill slot value

/-- Takes a slot's name without a value. -/
def takeName (r : Reader) (slot : Slot) : Except Stop Reader := do
  let r ← r.settle
  if slot.isFlag then r.fill slot "true" else .ok { r with pending := some (slot, none) }

/-- Takes a slot's name with a value behind an equals sign. -/
def takeNamed (r : Reader) (slot : Slot) (value : String) : Except Stop Reader :=
  if slot.isFlag then .error (.usage (.unexpectedValue value slot.label))
  else do
    let r ← r.settle
    r.fill slot value

/-- Ends the reading for help or for the version, after the slot that is waiting. -/
def finishFor (r : Reader) (stop : Stop) : Except Stop Reader := do
  let _ ← r.settle
  .error stop

/-- Ends the reading for a name that asks for it, and takes no value. -/
def finishNamed (r : Reader) (stop : Stop) (shown : String) :
    Option String → Except Stop Reader
  | some value => .error (.usage (.unexpectedValue value shown))
  | none => r.finishFor stop

/-- Takes an argument that begins with two dashes: a name, and perhaps a value. -/
def takeLong (r : Reader) (name : String) (value : Option String) : Except Stop Reader :=
  if name = "help" then r.finishNamed .help "--help" value
  else if name = "version" then r.finishNamed .version "--version" value
  else match Slot.ofName? name, value with
    | none, _ => .error (.usage (.unexpectedArgument s!"--{name}"))
    | some slot, some value => r.takeNamed slot value
    | some slot, none => r.takeName slot

/-- Takes an argument that begins with one dash, by the letter behind it. -/
def takeShort (r : Reader) (letter : Char) : Except Stop Reader :=
  if letter = 'h' then r.finishFor .help
  else if letter = 'V' then r.finishFor .version
  else .error (.usage (.unexpectedArgument s!"-{letter}"))

/-- Takes an argument for the next place, whose slot then waits with it. -/
def takePlace (r : Reader) (argument : String) : Except Stop Reader :=
  match r.places with
  | [] => .error (.usage (.unexpectedArgument argument))
  | slot :: places => do
    let r ← r.settle
    .ok { r with pending := some (slot, some argument), places := places }

/-- Takes a plain argument: as the value of the name before it, else by its place. -/
def takePlain (r : Reader) (argument : String) : Except Stop Reader :=
  match r.pending, r.literal with
  | some (slot, none), false => .ok { r with pending := some (slot, some argument) }
  | _, _ => r.takePlace argument

/-- The name before the first equals sign, and the value behind it if there is one. -/
def splitValue (cs : List Char) : String × Option String :=
  let name := String.ofList (cs.takeWhile (· != '='))
  match cs.dropWhile (· != '=') with
  | [] => (name, none)
  | _ :: value => (name, some (String.ofList value))

/-- Takes one argument, by its dashes: two alone end the names, two are in front of a name, one in
front of a letter, and the rest are plain. -/
def take (r : Reader) (argument : String) : Except Stop Reader :=
  if r.literal then r.takePlain argument
  else match argument.toList with
    | ['-', '-'] => .ok { r with literal := true }
    | '-' :: '-' :: cs => r.takeLong (splitValue cs).1 (splitValue cs).2
    | '-' :: letter :: _ => r.takeShort letter
    | _ => r.takePlain argument

/-- Takes all arguments, and fills the slot that waits at the end. -/
def takeAll (r : Reader) : List String → Except Stop Reader
  | [] => r.settle
  | argument :: rest => do
    let r ← r.take argument
    r.takeAll rest

end Reader

/-- Reads the command line, from no values on. -/
def read (arguments : List String) : Except Stop Arguments :=
  (({} : Reader).takeAll arguments).map (·.arguments)

end ModbusTcp.CommandLine
