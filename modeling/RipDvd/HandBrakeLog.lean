import RipDvd.Confirmation
import RipDvd.Collections

namespace RipDvd
set_option autoImplicit true

/-- One literal text of a pattern, and what the rest of the pattern makes of what follows. -/
def literal (text : String) (next : List Char → Option α) (input : List Char) : Option α :=
  if text.toList <+: input then next (input.drop text.toList.length) else none

def decimalValue (ds : List Char) : Nat :=
  ds.foldl (fun n d => 10 * n + (d.toNat - '0'.toNat)) 0

/-- `(\d+)`; no pattern goes on with a digit, so it never gives one back. -/
def digits (next : Nat → List Char → Option α) (input : List Char) : Option α :=
  match input.takeWhile Char.isDigit with
  | [] => none
  | ds => next (decimalValue ds) (input.dropWhile Char.isDigit)

def isHexDigit (c : Char) : Bool := c.isDigit || ('a' ≤ c && c ≤ 'f')

/-- `([\da-f]+)`, kept as the text it is. -/
def hexNumber (next : String → List Char → Option α) (input : List Char) : Option α :=
  match input.takeWhile isHexDigit with
  | [] => none
  | ds => next (String.ofList ds) (input.dropWhile isHexDigit)

def isLineTerminator (c : Char) : Bool :=
  c.toNat ∈ [0x0A, 0x0D, 0x2028, 0x2029]

/-- `.*`, the longest text first. -/
def anything (next : List Char → Option α) : List Char → Option α
  | [] => next []
  | c :: rest =>
    (if isLineTerminator c then none else anything next rest) <|> next (c :: rest)

/-- `(text)?`. -/
def optionally (text : String) (next : Bool → List Char → Option α) (input : List Char) :
    Option α :=
  literal text (next true) input <|> next false input

/-- `$`. -/
def ended (value : α) : List Char → Option α
  | [] => some value
  | _ :: _ => none

def endsLine (c : Char) : Bool := c = '\r' || c = '\n'

/-- `text.split(/(?<=[\r\n])/)`. -/
def lineParts : List Char → List (List Char)
  | [] => []
  | c :: rest =>
    if endsLine c then [c] :: lineParts rest
    else
      match lineParts rest with
      | [] => [[c]]
      | part :: parts => (c :: part) :: parts

/-- `buffer.replace(/^\[\d{2}:\d{2}:\d{2}\]\s*/, "")`. -/
def withoutTimestamp : List Char → List Char
  | '[' :: h :: h' :: ':' :: m :: m' :: ':' :: s :: s' :: ']' :: rest =>
    if [h, h', m, m', s, s'].all Char.isDigit then rest.dropWhile isWhiteSpace
    else '[' :: h :: h' :: ':' :: m :: m' :: ':' :: s :: s' :: ']' :: rest
  | buffer => buffer

def MAX_LOG_LINE_LENGTH : Nat := 65536

/-- A reader of a log: what it has of an unfinished line, and the state of who reads the lines. -/
structure HandBrakeLogReader (State : Type) where
  buffer : List Char
  state : State
  deriving DecidableEq

namespace HandBrakeLogReader

variable (line : State → String → State) (overflow : State → State)

def emit (reader : HandBrakeLogReader State) : HandBrakeLogReader State where
  buffer := []
  state := line reader.state (trim (String.ofList (withoutTimestamp reader.buffer)))

def pushPart (reader : HandBrakeLogReader State) (part : List Char) :
    HandBrakeLogReader State :=
  let buffer := reader.buffer ++ part
  let read : HandBrakeLogReader State :=
    if (buffer.flatMap charCodeUnits).length > MAX_LOG_LINE_LENGTH then
      { buffer := [], state := overflow reader.state }
    else { reader with buffer }
  if part.getLast?.any endsLine then read.emit line else read

def push (reader : HandBrakeLogReader State) (text : String) : HandBrakeLogReader State :=
  (lineParts text.toList).foldl (pushPart line overflow) reader

def finish (reader : HandBrakeLogReader State) : HandBrakeLogReader State :=
  if reader.buffer ≠ [] then reader.emit line else reader

end HandBrakeLogReader

end RipDvd
