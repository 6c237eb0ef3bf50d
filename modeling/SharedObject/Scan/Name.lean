import SharedObject.Scan.Arithmetic
import SharedObject.Scan.Field
import SharedObject.Text

/-!
# Reading names

Names are byte strings that end at a NUL byte.  Those of a string table have to
end inside the table and inside the file; those of a fixed field may fill it.
-/

namespace SharedObject

namespace Scan

/-- The text of a field that is padded with NUL bytes. -/
def paddedName (field : List UInt8) : Scan String := do
  return decodeLossy (← front field (field.findIdx (· == 0)))

/-- The bytes before the next NUL byte, after those already taken; `none` when
there is no NUL among the next `limit` bytes. -/
def bytesBeforeNul (taken : List UInt8) : (limit : Nat) → Scan (Option (List UInt8))
  | 0 => return none
  | limit + 1 => do
      let byte ← u8
      if byte = 0 then return some taken.reverse
      else bytesBeforeNul (byte :: taken) limit

/-- The name that starts at `offset` in a table that ends at `tableEnd`. -/
def nameAt (offset tableEnd : Nat) : Scan String := do
  let readableEnd := min tableEnd (← size)
  refuseIf (readableEnd ≤ offset) (.stringOutsideTable offset)
  seek offset
  match ← bytesBeforeNul [] (readableEnd - offset) with
  | some bytes => return decodeLossy bytes
  | none => malformed (.stringNotTerminated offset)

/-- The name that starts at `offset` and may go on to the end of the file. -/
def nameToEnd (offset : Nat) : Scan String := do
  nameAt offset (← size)

end Scan

end SharedObject
