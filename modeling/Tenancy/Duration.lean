import Tenancy.Text.Ascii
import Tenancy.Text.Blank

/-! # Spans of time

A span counts nanoseconds.  In settings it is written as digits and a unit, `ms`, `s`, `m` or `h`;
without a unit the digits count seconds. -/

namespace Tenancy

/-- A span of time. -/
structure Duration where
  nanos : Nat
  deriving DecidableEq, Repr

namespace Duration

/-- Nanoseconds in a second. -/
def nanosPerSec : Nat := 1000000000

def ofSecs (n : Nat) : Duration := ⟨n * nanosPerSec⟩

def ofMillis (n : Nat) : Duration := ⟨n * 1000000⟩

/-- Whole seconds of the span. -/
def secs (d : Duration) : Nat := d.nanos / nanosPerSec

/-- What the span has beyond whole seconds. -/
def subsecNanos (d : Duration) : Nat := d.nanos % nanosPerSec

/-- Whole milliseconds of the span. -/
def millis (d : Duration) : Nat := d.nanos / 1000000

/-- The bound on numbers and seconds in a written span: both fit in 64 bits. -/
def wordBound : Nat := UInt64.size

/-- `n` units of `secsPerUnit` seconds, if their seconds stay within the bound. -/
def ofUnits? (n secsPerUnit : Nat) : Option Duration :=
  if n * secsPerUnit < wordBound then some (ofSecs (n * secsPerUnit)) else none

/-- The span of `n` of the unit written `unit`. -/
def withUnit? (n : Nat) (unit : List Char) : Option Duration :=
  match unit with
  | ['m', 's'] => some (ofMillis n)
  | [] => ofUnits? n 1
  | ['s'] => ofUnits? n 1
  | ['m'] => ofUnits? n 60
  | ['h'] => ofUnits? n 3600
  | _ => none

/-- Reads a span between white space. -/
def ofText? (s : String) : Option Duration :=
  let cs := Text.trimChars s.toList
  (Text.natBelow? wordBound (cs.takeWhile Char.isDigit)).bind fun n =>
    withUnit? n (cs.dropWhile Char.isDigit)

end Duration

end Tenancy
