import ReleaseSupport.Calendar.Instant
import ReleaseSupport.Text.Blank
import ReleaseSupport.Text.Digit
import ReleaseSupport.Text.Quoted

/-!
Reading a timestamp: year, month, day, hour, minute and second with fixed marks between them. White
space may stand before each number; a year may be signed, and then has any number of digits. A
number out of its range is refused where it stands, a date that the calendar lacks only at the end.
-/

set_option autoImplicit false
set_option relaxedAutoImplicit false

namespace ReleaseSupport.Calendar.Timestamp

open ReleaseSupport.Text

inductive Fault where
  | invalidCharacter
  | prematureEnd
  | trailingText
  | outOfRange
  deriving DecidableEq, Repr

def Fault.message : Fault → String
  | .invalidCharacter => "input contains invalid characters"
  | .prematureEnd => "premature end of input"
  | .trailingText => "trailing input"
  | .outOfRange => "input is out of range"

def mark (m : Char) : List Char → Except Fault (List Char)
  | [] => .error .prematureEnd
  | c :: rest => if c = m then .ok rest else .error .invalidCharacter

/-- Reads at least one and at most `width` digits; returns their value and the text after them. -/
def number (width : Nat) (text : List Char) : Except Fault (Nat × List Char) :=
  match text with
  | [] => .error .prematureEnd
  | c :: _ =>
    if c.isDigit then
      let digits := (text.take width).takeWhile Char.isDigit
      .ok (Nat.ofDigitChars 10 digits 0, text.drop digits.length)
    else .error .invalidCharacter

/-- Refuses a year that a signed 32-bit word does not hold. -/
def checkedYear (year : Int) (rest : List Char) : Except Fault (Int × List Char) :=
  if -2147483648 ≤ year ∧ year ≤ 2147483647 then .ok (year, rest) else .error .outOfRange

/-- Reads a year: four digits at most, or any number of them after a sign. -/
def year (text : List Char) : Except Fault (Int × List Char) :=
  match trimStart text with
  | '-' :: rest => do
    let (n, rest) ← number rest.length rest
    checkedYear (-n) rest
  | '+' :: rest => do
    let (n, rest) ← number rest.length rest
    checkedYear n rest
  | rest => do
    let (n, rest) ← number 4 rest
    checkedYear n rest

/-- Reads a number of one or two digits that has to lie in a range. -/
def field (low high : Nat) (text : List Char) : Except Fault (Nat × List Char) := do
  let (n, rest) ← number 2 (trimStart text)
  if low ≤ n ∧ n ≤ high then .ok (n, rest) else .error .outOfRange

/-- The instant at a second of a day, where second 60 is the leap second after second 59. -/
def instant? (date : Date) (hour minute second : Nat) : Option Instant :=
  let start := hour * 3600 + minute * 60
  if second = 60 then Instant.of? date (start + 59) 1000000000
  else Instant.of? date (start + second) 0

def read (text : List Char) : Except Fault Instant := do
  let (year, rest) ← year text
  let (month, rest) ← field 1 12 (← mark '-' rest)
  let (day, rest) ← field 1 31 (← mark '-' rest)
  let (hour, rest) ← field 0 23 (← mark 'T' rest)
  let (minute, rest) ← field 0 59 (← mark ':' rest)
  let (second, rest) ← field 0 60 (← mark ':' rest)
  match ← mark 'Z' rest with
  | _ :: _ => .error .trailingText
  | [] =>
    match Date.of? year month day with
    | none => .error .outOfRange
    | some date =>
      match instant? date hour minute second with
      | none => .error .outOfRange
      | some t => .ok t

structure Error where
  text : String
  fault : Fault
  deriving DecidableEq, Repr

def Error.message (e : Error) : String :=
  "Invalid publish timestamp " ++ quoted e.text ++ ": " ++ e.fault.message

def ofText (text : String) : Except Error Instant :=
  (read text.toList).mapError fun fault => ⟨text, fault⟩

end ReleaseSupport.Calendar.Timestamp
