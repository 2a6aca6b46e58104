import Tenancy.Text.Percent

/-! # Scanning JSON from the front

A document is read byte by byte from the front, and reading stops at the first flaw.  A flaw is
either a text that is not JSON (`malformed`) or a value of the wrong kind (`wrongShape`); which of
the two is reported is decided by which comes first.  Strings that matter are decoded and must be
sound; values nobody asked for are skipped, and of their strings only the outline is checked. -/

namespace Tenancy.Json

/-- Why a document was not read. -/
inductive Flaw where
  /-- The text is not JSON, or ends too early. -/
  | malformed
  /-- A value is of the wrong kind, missing or given twice. -/
  | wrongShape
  deriving DecidableEq, Repr

/-- A result and what follows it, or the first flaw. -/
abbrev Scanned (α : Type) : Type := Except Flaw (α × Bytes)

/-- Whether a byte is white space of JSON. -/
def isSpace (b : UInt8) : Bool := b == 0x20 || b == 0x0A || b == 0x0D || b == 0x09

def skipSpace (bs : Bytes) : Bytes := bs.dropWhile isSpace

def isDigit (b : UInt8) : Bool := 0x30 ≤ b && b ≤ 0x39

/-- The rest after a given run of bytes. -/
def scanWord (word bs : Bytes) : Except Flaw Bytes :=
  if word.isPrefixOf bs then .ok (bs.drop word.length) else .error .malformed

/-! ## Strings -/

/-- The value of four hexadecimal digits. -/
def hex4? (a b c d : UInt8) : Option Nat := do
  let a ← Bytes.hexValue? a
  let b ← Bytes.hexValue? b
  let c ← Bytes.hexValue? c
  let d ← Bytes.hexValue? d
  return ((a * 16 + b) * 16 + c) * 16 + d

/-- The byte that an escape of one letter stands for. -/
def simpleEscape? (b : UInt8) : Option UInt8 :=
  if b = 0x22 ∨ b = 0x5C ∨ b = 0x2F then some b
  else if b = 0x62 then some 0x08
  else if b = 0x66 then some 0x0C
  else if b = 0x6E then some 0x0A
  else if b = 0x72 then some 0x0D
  else if b = 0x74 then some 0x09
  else none

def isHighSurrogate (n : Nat) : Bool := 0xD800 ≤ n && n ≤ 0xDBFF

def isLowSurrogate (n : Nat) : Bool := 0xDC00 ≤ n && n ≤ 0xDFFF

/-- The bytes of a code point. -/
def charBytes (n : Nat) : Bytes := Bytes.ofText (String.singleton (Char.ofNat n))

/-- Decodes a string from behind its opening quote.  `done` holds the decoded bytes, last first. -/
def scanString (done : Bytes) : Bytes → Scanned Bytes
  | [] => .error .malformed
  | b :: rest =>
    if b = 0x22 then .ok (done.reverse, rest)
    else if b < 0x20 then .error .malformed
    else if b ≠ 0x5C then scanString (b :: done) rest
    else match rest with
      | [] => .error .malformed
      | e :: rest =>
        if e ≠ 0x75 then
          match simpleEscape? e with
          | some c => scanString (c :: done) rest
          | none => .error .malformed
        else match rest with
          | a :: b :: c :: d :: rest =>
            match hex4? a b c d with
            | none => .error .malformed
            | some n =>
              if isLowSurrogate n then .error .malformed
              else if !isHighSurrogate n then scanString ((charBytes n).reverse ++ done) rest
              else match rest with
                | s :: u :: a :: b :: c :: d :: rest =>
                  match hex4? a b c d with
                  | none => .error .malformed
                  | some low =>
                    if s = 0x5C ∧ u = 0x75 ∧ isLowSurrogate low then
                      let code := 0x10000 + (n - 0xD800) * 0x400 + (low - 0xDC00)
                      scanString ((charBytes code).reverse ++ done) rest
                    else .error .malformed
                | _ => .error .malformed
          | _ => .error .malformed

/-- Reads a string from behind its opening quote as a text. -/
def scanText (bs : Bytes) : Except Flaw (String × Bytes) := do
  let (decoded, rest) ← scanString [] bs
  match Bytes.text? decoded with
  | some s => return (s, rest)
  | none => .error .malformed

/-- Skips a string from behind its opening quote. -/
def skipString : Bytes → Except Flaw Bytes
  | [] => .error .malformed
  | b :: rest =>
    if b = 0x22 then .ok rest
    else if b < 0x20 then .error .malformed
    else if b ≠ 0x5C then skipString rest
    else match rest with
      | [] => .error .malformed
      | e :: rest =>
        if e ≠ 0x75 then
          if (simpleEscape? e).isSome then skipString rest else .error .malformed
        else match rest with
          | a :: b :: c :: d :: rest =>
            if (hex4? a b c d).isSome then skipString rest else .error .malformed
          | _ => .error .malformed

/-! ## Numbers -/

/-- A number as written: all its digits, how many of them are a fraction, and its exponent. -/
structure Numeral where
  digits : Bytes
  decimals : Nat
  exponent : Int

def scanDigits (bs : Bytes) : Scanned Bytes :=
  let ds := bs.takeWhile isDigit
  if ds = [] then .error .malformed else .ok (ds, bs.dropWhile isDigit)

/-- Reads digits without a leading zero. -/
def scanInteger (bs : Bytes) : Except Flaw (Bytes × Bytes) := do
  let (ds, rest) ← scanDigits bs
  if ds.head? = some 0x30 ∧ ds.length ≠ 1 then .error .malformed else .ok (ds, rest)

/-- Reads a fraction, if there is one. -/
def scanFraction : Bytes → Scanned Bytes
  | b :: rest => if b = 0x2E then scanDigits rest else .ok ([], b :: rest)
  | [] => .ok ([], [])

def digitsValue (ds : Bytes) : Nat := ds.foldl (fun n d => 10 * n + (d.toNat - 0x30)) 0

/-- Reads an exponent, if there is one. -/
def scanExponent : Bytes → Except Flaw (Int × Bytes)
  | b :: rest =>
    if b = 0x65 ∨ b = 0x45 then
      match rest with
      | sign :: more =>
        if sign = 0x2B then do
          let (ds, rest) ← scanDigits more
          return ((digitsValue ds : Int), rest)
        else if sign = 0x2D then do
          let (ds, rest) ← scanDigits more
          return (-(digitsValue ds : Int), rest)
        else do
          let (ds, rest) ← scanDigits (sign :: more)
          return ((digitsValue ds : Int), rest)
      | [] => .error .malformed
    else .ok (0, b :: rest)
  | [] => .ok (0, [])

/-- Reads a number from behind its sign. -/
def scanNumeral (bs : Bytes) : Except Flaw (Numeral × Bytes) := do
  let (whole, rest) ← scanInteger bs
  let (fraction, rest) ← scanFraction rest
  let (exponent, rest) ← scanExponent rest
  return (⟨whole ++ fraction, fraction.length, exponent⟩, rest)

/-- The double nearest to a whole number, as a whole number; of two equally near ones the even one.
    Numbers past the largest double are rounded as if there were no largest. -/
def nearestDouble (n : Nat) : Nat :=
  if n < 0x20000000000000 then n
  else
    let unit := 1 <<< (n.log2 - 52)
    let units := n / unit
    let left := 2 * (n % unit)
    if unit < left ∨ (left = unit ∧ units % 2 = 1) then (units + 1) * unit else units * unit

/-- Takes digits into a word of 64 bits for as long as they fit; also tells how many were left. -/
def takeIntoWord : (word : Nat) → Bytes → Nat × Nat
  | word, [] => (word, 0)
  | word, d :: ds =>
    let next := 10 * word + (d.toNat - 0x30)
    if next < UInt64.size then takeIntoWord next ds else (word, ds.length + 1)

/-- A numeral as a word and a power of ten: digits that do not fit into the word are dropped, and
    only those before the point still count by their number. -/
def Numeral.scaled (n : Numeral) : Nat × Int :=
  let fraction := n.digits.drop (n.digits.length - n.decimals)
  let (word, dropped) := takeIntoWord 0 (n.digits.take (n.digits.length - n.decimals))
  let (word, left) := takeIntoWord word fraction
  (word, dropped - (n.decimals - left) + n.exponent)

/-- Whether a number is too large for a double when the double of its word is multiplied by the
    double of its power of ten. -/
def Numeral.isTooLarge (n : Numeral) : Bool :=
  let (word, exponent) := n.scaled
  if word = 0 ∨ exponent < 0 then false
  else if 308 < exponent then true
  else
    let limit := (1 <<< 1024) - (1 <<< 970)
    limit ≤ nearestDouble word * nearestDouble (Nat.pow 10 exponent.toNat)

/-! ## Values nobody asked for -/

/-- The kind of a value that is open. -/
inductive Frame where
  | array
  | object
  deriving DecidableEq

/-- Reads a key and its colon from before the quote. -/
def skipKey (bs : Bytes) : Except Flaw Bytes :=
  match skipSpace bs with
  | b :: rest =>
    if b = 0x22 then do
      let rest ← skipString rest
      scanWord [0x3A] (skipSpace rest)
    else .error .malformed
  | [] => .error .malformed

/-- What stands at a place where a value must begin: a complete value that is skipped, or the
    opening of an array or object. -/
def skipAtom (bs : Bytes) : Except Flaw (Option Frame × Bytes) :=
  match skipSpace bs with
  | [] => .error .malformed
  | b :: rest =>
    if b = 0x6E then (scanWord [0x75, 0x6C, 0x6C] rest).map (none, ·)
    else if b = 0x74 then (scanWord [0x72, 0x75, 0x65] rest).map (none, ·)
    else if b = 0x66 then (scanWord [0x61, 0x6C, 0x73, 0x65] rest).map (none, ·)
    else if b = 0x2D then (scanNumeral rest).map fun r => (none, r.2)
    else if isDigit b then (scanNumeral (b :: rest)).map fun r => (none, r.2)
    else if b = 0x22 then (skipString rest).map (none, ·)
    else if b = 0x5B then .ok (some .array, rest)
    else if b = 0x7B then .ok (some .object, rest)
    else .error .malformed

/-- The byte that closes a frame. -/
def Frame.closer : Frame → UInt8
  | array => 0x5D
  | object => 0x7D

/-- Goes on behind a complete value inside open frames, innermost first: closes those that end here
    and stops where the next value must begin, or where no frame is left.  The flag says whether the
    innermost frame holds a value already. -/
def skipClosers (frames : List Frame) (holdsValue : Bool) (bs : Bytes) :
    Except Flaw (List Frame × Bytes) :=
  match frames with
  | [] => .ok ([], bs)
  | frame :: outer =>
    match skipSpace bs with
    | [] => .error .malformed
    | b :: rest =>
      if b = frame.closer then skipClosers outer true rest
      else
        let next? : Except Flaw Bytes :=
          if holdsValue then if b = 0x2C then .ok rest else .error .malformed
          else .ok (b :: rest)
        next?.bind fun next =>
          match frame with
          | .array => .ok (frame :: outer, next)
          | .object => (skipKey next).map (frame :: outer, ·)

/-- Skips what is left of a value inside open frames.  Each round reads at least one byte, so the
    length of the text bounds the rounds. -/
def skipFrames : (rounds : Nat) → List Frame → Bytes → Except Flaw Bytes
  | 0, _, _ => .error .malformed
  | rounds + 1, frames, bs => do
    let (opened, rest) ← skipAtom bs
    let (frames, rest) ← match opened with
      | some frame => skipClosers (frame :: frames) false rest
      | none => skipClosers frames true rest
    if frames = [] then return rest else skipFrames rounds frames rest

/-- Skips a value of any kind. -/
def skipValue (bs : Bytes) : Except Flaw Bytes := skipFrames (bs.length + 1) [] bs

/-- The flaw of a value that is of no kind asked for: it is malformed where it cannot even be
    begun, and otherwise of the wrong shape. -/
def mismatch (bs : Bytes) : Flaw :=
  let ofNumeral (s : Scanned Numeral) : Flaw :=
    match s with
    | .ok (n, _) => if n.isTooLarge then .malformed else .wrongShape
    | .error flaw => flaw
  match bs with
  | [] => .malformed
  | b :: rest =>
    if b = 0x5B ∨ b = 0x7B then .wrongShape
    else if b = 0x2D then ofNumeral (scanNumeral rest)
    else if isDigit b then ofNumeral (scanNumeral (b :: rest))
    else if b = 0x22 then
      match scanText rest with
      | .ok _ => .wrongShape
      | .error flaw => flaw
    else match skipAtom (b :: rest) with
      | .ok _ => .wrongShape
      | .error flaw => flaw

/-- Reads a text; a value of another kind is a flaw. -/
def scanTextValue (bs : Bytes) : Scanned String :=
  match skipSpace bs with
  | b :: rest => if b = 0x22 then scanText rest else .error (mismatch (b :: rest))
  | [] => .error .malformed

/-- Reads a text or null. -/
def scanOptionalText (bs : Bytes) : Scanned (Option String) :=
  match skipSpace bs with
  | b :: rest =>
    if b = 0x6E then (scanWord [0x75, 0x6C, 0x6C] rest).map (none, ·)
    else (scanTextValue (b :: rest)).map fun r => (some r.1, r.2)
  | [] => .error .malformed

end Tenancy.Json
