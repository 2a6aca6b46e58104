import Tenancy.Duration
import Tenancy.Text.Blank

/-! # Points in time

A timestamp counts nanoseconds from the start of 1970, before and after.  A second that was put in
to keep the calendar with the sun has no number in this count: its points are counted from the
nanosecond before it.  A timestamp is written as a calendar date and a time of day in universal
time, with as many fraction digits (none, three, six or nine) as it needs, and read with any
offset. -/

namespace Tenancy

/-- A point in time. -/
structure Timestamp where
  /-- The last counted nanosecond. -/
  nanos : Int
  /-- How many nanoseconds of a second put in have begun since; none outside such a second. -/
  leap : Nat := 0
  deriving DecidableEq, Repr

namespace Timestamp

/-- The point at a counted nanosecond. -/
def ofNanos (nanos : Int) : Timestamp := { nanos }

/-- Whether a point is before another. -/
def isBefore (a b : Timestamp) : Bool :=
  a.nanos < b.nanos || (a.nanos == b.nanos && a.leap < b.leap)

instance : LT Timestamp := ⟨fun a b => a.isBefore b⟩
instance : LE Timestamp := ⟨fun a b => ¬ b < a⟩
instance (a b : Timestamp) : Decidable (a < b) := inferInstanceAs (Decidable (a.isBefore b = true))
instance (a b : Timestamp) : Decidable (a ≤ b) := inferInstanceAs (Decidable (¬ b < a))

/-- The point `d` later.  What is left of a second put in passes first. -/
def add (t : Timestamp) (d : Duration) : Timestamp :=
  if t.leap = 0 then ofNanos (t.nanos + d.nanos)
  else if t.leap + d.nanos ≤ Duration.nanosPerSec then { t with leap := t.leap + d.nanos }
  else ofNanos (t.nanos + (t.leap + d.nanos - Duration.nanosPerSec : Nat))

/-- The point `d` earlier.  What has begun of a second put in is gone back over first. -/
def sub (t : Timestamp) (d : Duration) : Timestamp :=
  if d.nanos < t.leap then { t with leap := t.leap - d.nanos }
  else ofNanos (t.nanos - (d.nanos - t.leap : Nat))

def ofEpochSecs (n : Int) : Timestamp := ofNanos (n * Duration.nanosPerSec)

/-! ## Calendar

Years, months and days follow the Gregorian calendar in both directions.  Days are counted from
the start of 1970; a year is taken to begin in March, which puts the leap day last. -/

/-- A calendar date. -/
structure Date where
  year : Int
  month : Nat
  day : Nat
  deriving DecidableEq, Repr

/-- The day number of a date. -/
def Date.dayNumber (d : Date) : Int :=
  let y := if d.month ≤ 2 then d.year - 1 else d.year
  let era := y / 400
  let yearOfEra := y - era * 400
  let shifted : Int := if d.month > 2 then d.month - 3 else d.month + 9
  let dayOfYear := (153 * shifted + 2) / 5 + d.day - 1
  let dayOfEra := yearOfEra * 365 + yearOfEra / 4 - yearOfEra / 100 + dayOfYear
  era * 146097 + dayOfEra - 719468

/-- The date with a day number. -/
def Date.ofDayNumber (n : Int) : Date :=
  let z := n + 719468
  let era := z / 146097
  let dayOfEra := z - era * 146097
  let yearOfEra := (dayOfEra - dayOfEra / 1460 + dayOfEra / 36524 - dayOfEra / 146096) / 365
  let dayOfYear := dayOfEra - (365 * yearOfEra + yearOfEra / 4 - yearOfEra / 100)
  let shifted := (5 * dayOfYear + 2) / 153
  let day := dayOfYear - (153 * shifted + 2) / 5 + 1
  let month := if shifted < 10 then shifted + 3 else shifted - 9
  let year := yearOfEra + era * 400 + (if month ≤ 2 then 1 else 0)
  ⟨year, month.toNat, day.toNat⟩

def isLeapYear (y : Int) : Bool := y % 4 == 0 && (y % 100 != 0 || y % 400 == 0)

def daysInMonth (y : Int) (m : Nat) : Nat :=
  match m with
  | 2 => if isLeapYear y then 29 else 28
  | 4 | 6 | 9 | 11 => 30
  | _ => 31

/-- Nanoseconds in a day. -/
def nanosPerDay : Nat := 86400 * Duration.nanosPerSec

/-- The point at the start of a date. -/
def ofDate (d : Date) : Timestamp := ofNanos (d.dayNumber * nanosPerDay)

/-- The least point in time that rows and cutoffs can hold: the start of the year -262143. -/
def earliest : Timestamp := ofDate ⟨-262143, 1, 1⟩

/-- The greatest point in time that rows and cutoffs can hold: the last nanosecond of the year
    262142. -/
def latest : Timestamp := ofNanos ((ofDate ⟨262143, 1, 1⟩).nanos - 1)

/-! ## Written form -/

/-- A year: four digits, and a sign outside the years 0 to 9999. -/
def yearText (y : Int) : String :=
  if 0 ≤ y ∧ y ≤ 9999 then Text.paddedDecimal 4 y.natAbs
  else (if y < 0 then "-" else "+") ++ Text.paddedDecimal 4 y.natAbs

/-- A fraction of a second in as many groups of three digits as it needs. -/
def fractionText (nanos : Nat) : String :=
  if nanos = 0 then ""
  else if nanos % 1000000 = 0 then "." ++ Text.paddedDecimal 3 (nanos / 1000000)
  else if nanos % 1000 = 0 then "." ++ Text.paddedDecimal 6 (nanos / 1000)
  else "." ++ Text.paddedDecimal 9 nanos

/-- The written form, in universal time; a second put in is the sixty-first of its minute. -/
def text (t : Timestamp) : String :=
  let date := Date.ofDayNumber (t.nanos / nanosPerDay)
  let rest := (t.nanos % nanosPerDay).toNat
  let secs := rest / Duration.nanosPerSec
  let (second, fraction) :=
    if t.leap = 0 then (secs % 60, rest % Duration.nanosPerSec) else (secs % 60 + 1, t.leap - 1)
  let two := Text.paddedDecimal 2
  yearText date.year ++ "-" ++ two date.month ++ "-" ++ two date.day ++ "T" ++
    two (secs / 3600) ++ ":" ++ two (secs / 60 % 60) ++ ":" ++ two second ++
    fractionText fraction ++ "Z"

/-! ## Reading

Numbers may be short and stand behind white space, and white space may stand before the marks
between them. -/

/-- The characters without the white space in front. -/
def skipBlanks (cs : List Char) : List Char := cs.dropWhile Text.isBlank

/-- Reads at most `most` decimal digits from the front, and at least one. -/
def takeDigits? (most : Nat) (cs : List Char) : Option (Nat × List Char) :=
  let ds := (cs.take most).takeWhile Char.isDigit
  if ds = [] then none else some (Text.digitsValue ds, cs.drop ds.length)

/-- Reads a number of one or two digits. -/
def takeTwo? (cs : List Char) : Option (Nat × List Char) := takeDigits? 2 (skipBlanks cs)

/-- Reads the character `c`. -/
def takeMark? (c : Char) (cs : List Char) : Option (List Char) :=
  match skipBlanks cs with
  | d :: rest => if d = c then some rest else none
  | [] => none

/-- Reads a year: of at most four digits, or of any number of digits behind a sign. -/
def takeYear? (cs : List Char) : Option (Int × List Char) :=
  match skipBlanks cs with
  | '-' :: rest => do
    let (n, rest) ← takeDigits? rest.length rest
    return (-n, rest)
  | '+' :: rest => do
    let (n, rest) ← takeDigits? rest.length rest
    return (n, rest)
  | cs => do
    let (n, rest) ← takeDigits? 4 cs
    return (n, rest)

/-- Nanoseconds of a run of fraction digits; those beyond the ninth are dropped. -/
def fractionNanos (ds : List Char) : Nat :=
  Text.digitsValue (ds.take 9 ++ List.replicate (9 - ds.length) '0')

/-- Reads an optional fraction of a second. -/
def takeFraction? (cs : List Char) : Option (Nat × List Char) :=
  match cs with
  | '.' :: rest =>
    let ds := rest.takeWhile Char.isDigit
    if ds = [] then none else some (fractionNanos ds, rest.dropWhile Char.isDigit)
  | _ => some (0, cs)

/-- Reads a date. -/
def takeDate? (cs : List Char) : Option (Date × List Char) := do
  let (year, cs) ← takeYear? cs
  let cs ← takeMark? '-' cs
  let (month, cs) ← takeTwo? cs
  let cs ← takeMark? '-' cs
  let (day, cs) ← takeTwo? cs
  if 1 ≤ month ∧ month ≤ 12 ∧ 1 ≤ day ∧ day ≤ daysInMonth year month then
    some (⟨year, month, day⟩, cs)
  else none

/-- Reads a time of day: its whole seconds and its fraction.  A sixty-first second is put in after
    the sixtieth. -/
def takeTime? (cs : List Char) : Option ((Nat × Nat × Bool) × List Char) := do
  let (hour, cs) ← takeTwo? cs
  let cs ← takeMark? ':' cs
  let (minute, cs) ← takeTwo? cs
  let cs ← takeMark? ':' cs
  let (second, cs) ← takeTwo? cs
  let (fraction, cs) ← takeFraction? cs
  if hour < 24 ∧ minute < 60 ∧ second ≤ 60 then
    some ((hour * 3600 + minute * 60 + min second 59, fraction, second == 60), cs)
  else none

/-- Whether a character may stand between the hours and the minutes of an offset. -/
def isOffsetMark (c : Char) : Bool := c == ':' || Text.isBlank c

/-- Reads exactly two decimal digits from the front. -/
def takePair? (cs : List Char) : Option (Nat × List Char) :=
  match cs with
  | a :: b :: rest => if a.isDigit ∧ b.isDigit then some (Text.digitsValue [a, b], rest) else none
  | _ => none

/-- Reads an offset from universal time, in seconds. -/
def takeOffset? (cs : List Char) : Option (Int × List Char) :=
  match skipBlanks cs with
  | [] => none
  | sign :: rest => do
    if sign = 'Z' ∨ sign = 'z' then return (0, rest)
    else if Text.equalsIgnoringCase (String.ofList ((sign :: rest).take 3)) "UTC" then
      return (0, rest.drop 2)
    else
      let direction : Int ←
        if sign = '+' then some 1
        else if sign = '-' ∨ sign = '−' then some (-1)
        else none
      let (hours, rest) ← takePair? rest
      let (minutes, rest) ← takePair? (rest.dropWhile isOffsetMark)
      if hours < 24 ∧ minutes < 60 then some (direction * (hours * 3600 + minutes * 60), rest)
      else none

/-- Reads a date, a `T` or a blank, a time of day and an offset. -/
def ofText? (s : String) : Option Timestamp := do
  let (date, cs) ← takeDate? s.toList
  let cs ← match cs with
    | 'T' :: rest | 't' :: rest | ' ' :: rest => some rest
    | _ => none
  let ((secs, fraction, isPutIn), cs) ← takeTime? cs
  let (offset, cs) ← takeOffset? cs
  let start := (ofDate date).nanos + (secs - offset) * Duration.nanosPerSec
  let t : Timestamp :=
    if isPutIn then ⟨start + Duration.nanosPerSec - 1, fraction + 1⟩ else ⟨start + fraction, 0⟩
  if skipBlanks cs = [] ∧ earliest ≤ t ∧ t.nanos ≤ latest.nanos then some t else none

end Timestamp

end Tenancy
