import AdmissionRules.Json.Reader
import AdmissionRules.Text.Blank

set_option autoImplicit false

/-! # Timestamps

A timestamp is a second of the Gregorian calendar in UTC. It is read from date, time and offset
with some freedom: the three may be parted by a `T` or blanks, blanks may stand before numerals
and punctuation, fractions of a second are dropped, and the offset is `Z`, `UTC` or a signed
number of hours and minutes. It is written in one way. -/

namespace AdmissionRules

structure Timestamp where
  year : Int
  month : Nat
  day : Nat
  hour : Nat
  minute : Nat
  /-- The second of the minute; 60 is a leap second. -/
  second : Nat
deriving DecidableEq

namespace Timestamp

/-! ## The calendar

Days are counted from the first of March of the year 0, so that the day that a leap year adds is
the last one of its year. -/

/-- The days before a month of a year that begins in March, `month` counting from 0. -/
def daysBeforeMonth (month : Nat) : Nat := (153 * month + 2) / 5

def dayNumber (year : Int) (month day : Nat) : Int :=
  let year := if month ≤ 2 then year - 1 else year
  let month := if month ≤ 2 then month + 9 else month - 3
  365 * year + year / 4 - year / 100 + year / 400 + (daysBeforeMonth month + day - 1 : Nat)

/-- The date of a day number, found in its cycle of 400 years. -/
def dateOf (number : Int) : Int × Nat × Nat :=
  let cycle := number / 146097
  let inCycle := (number % 146097).toNat
  let year := (inCycle - inCycle / 1460 + inCycle / 36524 - inCycle / 146096) / 365
  let inYear := inCycle - (365 * year + year / 4 - year / 100)
  let month := (5 * inYear + 2) / 153
  let day := inYear - daysBeforeMonth month + 1
  let calendarYear := year + 400 * cycle
  if month < 10 then (calendarYear, month + 3, day) else (calendarYear + 1, month - 9, day)

def isLeapYear (year : Int) : Bool := year % 4 = 0 && (year % 100 ≠ 0 || year % 400 = 0)

def daysInMonth (year : Int) (month : Nat) : Nat :=
  if month = 2 then (if isLeapYear year then 29 else 28)
  else if month = 4 ∨ month = 6 ∨ month = 9 ∨ month = 11 then 30
  else 31

/-- The years that can be told. -/
def inRange (year : Int) : Bool := decide (-262143 ≤ year) && decide (year ≤ 262142)

def isValid (t : Timestamp) : Bool :=
  inRange t.year && (1 ≤ t.month && t.month ≤ 12)
    && (1 ≤ t.day && t.day ≤ daysInMonth t.year t.month)
    && t.hour < 24 && t.minute < 60 && t.second ≤ 60

/-- The time in UTC of a time that is `offset` minutes ahead of it. -/
def toUtc? (t : Timestamp) (offset : Int) : Option Timestamp :=
  let minutes := dayNumber t.year t.month t.day * 1440 + t.hour * 60 + t.minute - offset
  let (year, month, day) := dateOf (minutes / 1440)
  let inDay := (minutes % 1440).toNat
  let utc := { t with year, month, day, hour := inDay / 60, minute := inDay % 60 }
  if inRange year then some utc else none

/-- The timestamp so many seconds after the beginning of the year 1970. -/
def ofUnix (seconds : Nat) : Timestamp :=
  let (year, month, day) := dateOf (dayNumber 1970 1 1 + (seconds / 86400 : Nat))
  let inDay := seconds % 86400
  { year, month, day, hour := inDay / 3600, minute := inDay / 60 % 60, second := inDay % 60 }

/-! ## Reading -/

def skipBlanks (cs : List Char) : List Char := cs.dropWhile Text.isBlank

/-- A numeral of at most `width` digits, if there is a limit, after blanks. -/
def numeral? (width : Option Nat) (cs : List Char) : Option (Nat × List Char) :=
  let cs := skipBlanks cs
  let allDigits := cs.takeWhile Char.isDigit
  let digits := match width with
    | some w => allDigits.take w
    | none => allDigits
  if digits.isEmpty then none
  else some (Json.Numeral.digitsValue digits, cs.drop digits.length)

/-- A year: four digits at most, or any number of them after a sign. -/
def year? (cs : List Char) : Option (Int × List Char) :=
  let signed (sign : Int) (cs : List Char) : Option (Int × List Char) :=
    match cs with
    | c :: _ => if c.isDigit then (numeral? none cs).map fun (n, rest) => (sign * n, rest) else none
    | [] => none
  match skipBlanks cs with
  | '-' :: cs => signed (-1) cs
  | '+' :: cs => signed 1 cs
  | cs => (numeral? (some 4) cs).map fun (n, rest) => ((n : Int), rest)

/-- A punctuation mark after blanks. -/
def mark? (c : Char) (cs : List Char) : Option (List Char) :=
  match skipBlanks cs with
  | d :: rest => if d = c then some rest else none
  | [] => none

/-- Two digits. -/
def pair? : List Char → Option (Nat × List Char)
  | a :: b :: rest =>
    if a.isDigit && b.isDigit then some (Json.Numeral.digitsValue [a, b], rest) else none
  | _ => none

/-- What follows a fraction of a second, if there is one; a point needs a digit after it. -/
def skipFraction? : List Char → Option (List Char)
  | '.' :: cs => if (cs.takeWhile Char.isDigit).isEmpty then none else some (cs.dropWhile Char.isDigit)
  | cs => some cs

def sign? : List Char → Option (Int × List Char)
  | '+' :: rest => some (1, rest)
  | '-' :: rest => some (-1, rest)
  | '−' :: rest => some (-1, rest)
  | _ => none

/-- Whether a text begins with the letters `UTC`. -/
def isUtcWord : List Char → Bool
  | u :: t :: c :: _ => u.toUpper = 'U' && t.toUpper = 'T' && c.toUpper = 'C'
  | _ => false

/-- An offset in minutes, below a day; hours and minutes may be parted by colons and blanks. -/
def offset? (cs : List Char) : Option (Int × List Char) :=
  if isUtcWord cs then some (0, cs.drop 3)
  else match cs with
    | 'Z' :: rest => some (0, rest)
    | 'z' :: rest => some (0, rest)
    | cs => do
      let (sign, cs) ← sign? cs
      let (hours, cs) ← pair? cs
      let (minutes, cs) ← pair? (cs.dropWhile fun c => c = ':' || Text.isBlank c)
      if minutes < 60 && hours < 24 then some (sign * (60 * hours + minutes : Nat), cs) else none

/-- What follows the mark between date and time. -/
def dateEnd? : List Char → Option (List Char)
  | c :: rest => if c = 'T' ∨ c = 't' ∨ c = ' ' then some rest else none
  | [] => none

def ofChars? (cs : List Char) : Option Timestamp := do
  let (year, cs) ← year? cs
  let (month, cs) ← numeral? (some 2) (← mark? '-' cs)
  let (day, cs) ← numeral? (some 2) (← mark? '-' cs)
  let (hour, cs) ← numeral? (some 2) (← dateEnd? cs)
  let (minute, cs) ← numeral? (some 2) (← mark? ':' cs)
  let (second, cs) ← numeral? (some 2) (← mark? ':' cs)
  let (offset, cs) ← offset? (skipBlanks (← skipFraction? cs))
  let t : Timestamp := { year, month, day, hour, minute, second }
  if t.isValid && (skipBlanks cs).isEmpty then t.toUtc? offset else none

def ofText? (s : String) : Option Timestamp := ofChars? s.toList

/-! ## Writing -/

/-- The digits of a number, with zeros in front up to a width. -/
def padded (width n : Nat) : String :=
  let digits := Nat.toDigits 10 n
  String.ofList (List.replicate (width - digits.length) '0' ++ digits)

/-- A year in four digits, with a sign if that is not enough. -/
def yearText (year : Int) : String :=
  if year < 0 then "-" ++ padded 4 year.natAbs
  else if year ≤ 9999 then padded 4 year.natAbs
  else "+" ++ padded 4 year.natAbs

/-- A timestamp with a part of its second behind it. -/
def textWith (part : String) (t : Timestamp) : String :=
  yearText t.year ++ "-" ++ padded 2 t.month ++ "-" ++ padded 2 t.day ++ "T" ++ padded 2 t.hour
    ++ ":" ++ padded 2 t.minute ++ ":" ++ padded 2 t.second ++ part ++ "Z"

def text (t : Timestamp) : String := t.textWith ""

def toJson (t : Timestamp) : Json := .string t.text

def reader : Json.Reader Timestamp := fun depth s => do
  match ofText? (← Json.Reader.string depth s) with
  | some t => .ok t
  | none => .error .mismatch

end Timestamp

end AdmissionRules
