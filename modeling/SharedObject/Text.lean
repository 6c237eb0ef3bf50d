/-!
# The text of bytes and numbers

Names in library files are arbitrary bytes.  `decodeLossy` reads them as UTF-8
and puts one replacement character for each maximal ill-formed piece: a lead
byte together with those following bytes that could still have continued it.
The decoder is an automaton whose state is the sequence begun but not finished.

Addresses, handles, offsets and bit sets are shown as `0x` followed by lowercase
hexadecimal digits without leading zeros.
-/

namespace SharedObject

/-- The digits of a number after `0x`, lowercase and without leading zeros. -/
def hexText (number : Nat) : String :=
  "0x" ++ String.ofList (Nat.toDigits 16 number)

namespace Utf8

/-- The character that stands for an ill-formed piece. -/
def replacement : Char := '\uFFFD'

/-- A multi-byte sequence of which `remaining` bytes are still to come, the next
of them between `low` and `high`. -/
structure Unfinished where
  value : Nat
  low : UInt8
  high : UInt8
  remaining : Nat
  deriving DecidableEq, Repr

/-- What a byte means when no sequence is open: the characters it completes and
the sequence it opens. -/
def leadByte (byte : UInt8) : List Char × Option Unfinished :=
  if byte < 0x80 then
    ([Char.ofNat byte.toNat], none)
  else if 0xC2 ≤ byte ∧ byte ≤ 0xDF then
    ([], some ⟨byte.toNat - 0xC0, 0x80, 0xBF, 1⟩)
  else if 0xE0 ≤ byte ∧ byte ≤ 0xEF then
    ([], some ⟨byte.toNat - 0xE0, if byte = 0xE0 then 0xA0 else 0x80,
      if byte = 0xED then 0x9F else 0xBF, 2⟩)
  else if 0xF0 ≤ byte ∧ byte ≤ 0xF4 then
    ([], some ⟨byte.toNat - 0xF0, if byte = 0xF0 then 0x90 else 0x80,
      if byte = 0xF4 then 0x8F else 0xBF, 3⟩)
  else
    ([replacement], none)

/-- What a byte means after the sequence `unfinished`, if one is open. -/
def advance (unfinished : Option Unfinished) (byte : UInt8) : List Char × Option Unfinished :=
  match unfinished with
  | none => leadByte byte
  | some ⟨value, low, high, remaining⟩ =>
      if low ≤ byte ∧ byte ≤ high then
        let extended := value * 64 + (byte.toNat - 0x80)
        if remaining ≤ 1 then ([Char.ofNat extended], none)
        else ([], some ⟨extended, 0x80, 0xBF, remaining - 1⟩)
      else
        let (characters, next) := leadByte byte
        (replacement :: characters, next)

/-- The characters of the remaining bytes, given the sequence that is open. -/
def decodeFrom (unfinished : Option Unfinished) : List UInt8 → List Char
  | [] => if unfinished.isSome then [replacement] else []
  | byte :: bytes =>
      let (characters, next) := advance unfinished byte
      characters ++ decodeFrom next bytes

end Utf8

/-- The text of a byte string, ill-formed pieces replaced. -/
def decodeLossy (bytes : List UInt8) : String :=
  String.ofList (Utf8.decodeFrom none bytes)

end SharedObject
