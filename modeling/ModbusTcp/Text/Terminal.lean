/-!
# Text for a terminal

Some control characters make a terminal do more than print. A log line writes them out by their
code, so that nothing a peer or a user sends can steer the terminal; every other character is kept
as it is (`Terminal.escape`). A usage error, which quotes what the user typed, leaves them out, and
with an escape character the sequence that it begins (`Terminal.plain`). Characters outside ASCII
are kept in plain text; inside a sequence they are left out, and they end none but a string.
-/

namespace ModbusTcp.Terminal

/-- The lower-case hexadecimal digit of a number below sixteen. -/
def digit (n : Nat) : Char := if n < 10 then Char.ofNat (48 + n) else Char.ofNat (87 + n)

/-- The two digits of a code below 256. -/
def code (n : Nat) : List Char := [digit (n / 16), digit (n % 16)]

/-- The single-byte control characters that a terminal obeys: bell, backspace, form feed, escape and
delete. -/
def obeyed : List Nat := [0x07, 0x08, 0x0C, 0x1B, 0x7F]

/-- A character as it is written to a log line. -/
def escapeChar (c : Char) : List Char :=
  if obeyed.contains c.toNat then '\\' :: 'x' :: code c.toNat
  else if 0x80 ≤ c.toNat ∧ c.toNat ≤ 0x9F then
    ['\\', 'u', '\x7b'] ++ code c.toNat ++ ['\x7d']
  else [c]

/-- A text as it is written to a log line. -/
def escape (s : String) : String := String.ofList (s.toList.flatMap escapeChar)

/-- Where a reader of terminal text stands: in plain text, or inside a sequence. -/
inductive Place where
  | ground
  /-- behind an escape character -/
  | escaped
  /-- behind an escape character and an intermediate one -/
  | intermediate
  /-- in a control sequence, which a letter or the like ends -/
  | control
  /-- in a command string, which a bell ends -/
  | command
  /-- in the head of a device string, where the next parameter character lies below the bound -/
  | device (bound : Nat)
  /-- in the body of a device string, or in another string that no bell ends -/
  | string
  deriving DecidableEq, Repr

/-- The control characters that only move the place of printing. -/
def spacing : List Nat := [0x09, 0x0A, 0x0C, 0x0D]

/-- The character ends a string of the kind that no bell ends: the code of the string terminator is
a byte of its encoding. -/
def endsString (c : Char) : Bool := (String.utf8EncodeChar c).contains 0x9C

/-- Where a reader stands after a character that it does not show. An escape character begins a
sequence anywhere, and the cancelling characters end one anywhere. -/
def Place.next (place : Place) (c : Char) : Place :=
  let n := c.toNat
  if n = 0x1B then .escaped
  else if n = 0x18 ∨ n = 0x1A then .ground
  else match place with
    | .ground => .ground
    | .escaped =>
      if n < 0x20 ∨ 0x7F ≤ n then .escaped
      else if n ≤ 0x2F then .intermediate
      else if n = 0x5B then .control
      else if n = 0x5D then .command
      else if n = 0x50 then .device 0x40
      else if n = 0x58 ∨ n = 0x5E ∨ n = 0x5F then .string
      else .ground
    | .intermediate => if 0x30 ≤ n ∧ n ≤ 0x7E then .ground else .intermediate
    | .control => if 0x40 ≤ n ∧ n ≤ 0x7E then .ground else .control
    | .command => if n = 0x07 then .ground else .command
    | .device bound =>
      if n < 0x20 ∨ 0x7F ≤ n then .device bound
      else if n ≤ 0x2F then .device 0x30
      else if n ≤ 0x3F ∧ n < bound then .device 0x3C
      else .string
    | .string => if endsString c then .ground else .string

/-- The reader shows a character: in plain text every one but the control characters that do more
than space, and inside a sequence only a spacing one, unless it belongs to a string. -/
def Place.shows (place : Place) (c : Char) : Bool :=
  match place with
  | .ground => (0x20 ≤ c.toNat && c.toNat ≠ 0x7F) || spacing.contains c.toNat
  | .escaped | .intermediate | .control => spacing.contains c.toNat
  | .command | .device _ | .string => false

/-- What becomes of a sequence that a spacing character interrupts. -/
inductive Interrupted where
  | ended
  /-- it goes on at the next ASCII character that is not shown -/
  | resumed
  deriving DecidableEq, Repr

/-- Where a reader stands after a character that it shows. -/
def Place.afterShown (place : Place) (c : Char) : Interrupted → Place
  | .ended => .ground
  | .resumed => if c.toNat < 0x80 then place else .ground

/-- The characters that a reader shows. Behind a shown character, `running` holds, and plain text
goes on. -/
def shown (interrupted : Interrupted) (place : Place) (running : Bool) : List Char → List Char
  | [] => []
  | c :: rest =>
    if (if running then Place.ground else place).shows c then
      c :: shown interrupted (place.afterShown c interrupted) true rest
    else shown interrupted (place.next c) false rest

/-- What is shown of a text. -/
def plain (interrupted : Interrupted) (s : String) : String :=
  String.ofList (shown interrupted .ground false s.toList)

end ModbusTcp.Terminal
