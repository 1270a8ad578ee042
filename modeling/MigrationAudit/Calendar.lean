import MigrationAudit.Text.Blank
import MigrationAudit.Text.Digit

/-!
# Dates as text

A date is written year, month and day with hyphens between, a time hour, minute and second with
colons, and perhaps milliseconds.  Blanks may precede every number, and stand between date
and time.  A year of more than four digits needs a sign.  The calendar is the Gregorian one, carried
on into the past, and bounded at both ends.
-/

namespace MigrationAudit.Calendar

open Text

/-- Digits at the head of a text, at most `width` of them if there is a width, as a number. -/
def digits? (width : Option Nat) (cs : List Char) : Option (Nat × List Char) :=
  let ds := cs.takeWhile Char.isDigit
  let ds := match width with
    | some w => ds.take w
    | none => ds
  if ds.isEmpty then none else some (decimalValue ds, cs.drop ds.length)

/-- A number of one or two digits. -/
def pair? (cs : List Char) : Option (Nat × List Char) := digits? (some 2) (dropLeadingBlank cs)

/-- A year. -/
def year? (cs : List Char) : Option (Int × List Char) :=
  match dropLeadingBlank cs with
  | '-' :: rest => (digits? none rest).map fun (n, rest) => (-(n : Int), rest)
  | '+' :: rest => (digits? none rest).map fun (n, rest) => ((n : Int), rest)
  | rest => (digits? (some 4) rest).map fun (n, rest) => ((n : Int), rest)

/-- The rest of a text after one given character. -/
def after? (c : Char) : List Char → Option (List Char)
  | [] => none
  | d :: rest => if d = c then some rest else none

def isLeap (year : Int) : Bool := year % 4 == 0 && (year % 100 != 0 || year % 400 == 0)

def daysIn (year : Int) (month : Nat) : Nat :=
  if month = 2 then (if isLeap year then 29 else 28)
  else if month ∈ [4, 6, 9, 11] then 30
  else 31

/-- The first and the last year of the calendar. -/
def yearBounds : Int × Int := (-262143, 262142)

def isDay (year : Int) (month day : Nat) : Bool :=
  yearBounds.1 ≤ year && year ≤ yearBounds.2 && 1 ≤ month && month ≤ 12 && 1 ≤ day &&
    day ≤ daysIn year month

/-- A minute may have a leap second. -/
def isTime (hour minute second : Nat) : Bool := hour ≤ 23 && minute ≤ 59 && second ≤ 60

/-- What follows a date at the head of a text. -/
def date? (cs : List Char) : Option (List Char) := do
  let (year, cs) ← year? cs
  let cs ← after? '-' cs
  let (month, cs) ← pair? cs
  let cs ← after? '-' cs
  let (day, cs) ← pair? cs
  if isDay year month day then some cs else none

/-- What follows the milliseconds, three digits after a point, if there are any. -/
def milliseconds? : List Char → Option (List Char)
  | '.' :: a :: b :: c :: cs =>
    if a.isDigit && b.isDigit && c.isDigit then some cs else none
  | '.' :: _ => none
  | cs => some cs

/-- What follows a time at the head of a text. -/
def time? (cs : List Char) : Option (List Char) := do
  let (hour, cs) ← pair? cs
  let cs ← after? ':' cs
  let (minute, cs) ← pair? cs
  let cs ← after? ':' cs
  let (second, cs) ← pair? cs
  if isTime hour minute second then milliseconds? cs else none

/-- Whether a text is a date and nothing more. -/
def isDate (s : String) : Bool := date? s.toList == some []

/-- Whether a text is a date with a time and nothing more. -/
def isDateTime (s : String) : Bool := ((date? s.toList).bind time?) == some []

end MigrationAudit.Calendar
