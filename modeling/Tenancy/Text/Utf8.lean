/-! # Texts as bytes

Texts travel as UTF-8.  Reading is strict where a text is required (`Bytes.text?`) and forgiving
where bytes are only echoed (`Bytes.lossyText`): there every maximal part that cannot belong to a
character becomes one replacement character. -/

namespace Tenancy

/-- A run of bytes. -/
abbrev Bytes := List UInt8

namespace Bytes

/-- The bytes of a text. -/
def ofText (s : String) : Bytes := s.toUTF8.toList

/-- The text that the bytes encode, if they are well formed. -/
def text? (bs : Bytes) : Option String := String.fromUTF8? ⟨bs.toArray⟩

/-- What may follow a lead byte: how many further bytes complete the character, and the range of
    the first of them (which rules out overlong forms, surrogates and values beyond the last code
    point). -/
def lead? (b : UInt8) : Option (Nat × UInt8 × UInt8) :=
  if 0xC2 ≤ b ∧ b ≤ 0xDF then some (1, 0x80, 0xBF)
  else if b = 0xE0 then some (2, 0xA0, 0xBF)
  else if b = 0xED then some (2, 0x80, 0x9F)
  else if 0xE1 ≤ b ∧ b ≤ 0xEF then some (2, 0x80, 0xBF)
  else if b = 0xF0 then some (3, 0x90, 0xBF)
  else if 0xF1 ≤ b ∧ b ≤ 0xF3 then some (3, 0x80, 0xBF)
  else if b = 0xF4 then some (3, 0x80, 0x8F)
  else none

/-- State of a forgiving decoder: the code point begun, the number of bytes it still needs and the
    range that the next of them must lie in. -/
structure Pending where
  code : Nat
  missing : Nat
  low : UInt8
  high : UInt8

/-- The payload of a lead byte of a character with `further` more bytes. -/
def leadPayload (b : UInt8) (further : Nat) : Nat := b.toNat % (1 <<< (6 - further))

/-- Decodes byte by byte; a byte that does not continue the pending character ends it as broken
    and is read anew. -/
def lossyFrom (pending : Option Pending) : Bytes → List Char
  | [] => if pending.isSome then ['\uFFFD'] else []
  | b :: bs =>
    let start (broken : List Char) : List Char :=
      if b < 0x80 then broken ++ Char.ofNat b.toNat :: lossyFrom none bs
      else match lead? b with
        | some (k, low, high) => broken ++ lossyFrom (some ⟨leadPayload b k, k, low, high⟩) bs
        | none => broken ++ '\uFFFD' :: lossyFrom none bs
    match pending with
    | none => start []
    | some p =>
      if p.low ≤ b ∧ b ≤ p.high then
        let code := p.code * 64 + b.toNat % 64
        if p.missing ≤ 1 then Char.ofNat code :: lossyFrom none bs
        else lossyFrom (some ⟨code, p.missing - 1, 0x80, 0xBF⟩) bs
      else start ['\uFFFD']

/-- The text that the bytes encode, with a replacement character for each part that encodes
    nothing. -/
def lossyText (bs : Bytes) : String := String.ofList (lossyFrom none bs)

end Bytes

end Tenancy
