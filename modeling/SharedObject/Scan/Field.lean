import SharedObject.Scan.Basic

/-!
# Reading fields

A field is read by as many read calls as its bytes take.  It fails with the
failure of the first call that fails, and with the end of the file when a call
gives nothing.  A 64-bit image has 8-byte words where a 32-bit image has 4.
-/

namespace SharedObject

/-- The size of the words of an image. -/
inductive Width
  | bits32
  | bits64
  deriving DecidableEq, Repr, Inhabited

def Width.bits : Width → Nat
  | .bits32 => 32
  | .bits64 => 64

namespace Scan

/-- One read call; it gives at least one byte.  A call that fails is reported as an I/O
error, the only kind of failure that a `ReadFault` stands for. -/
def readCall (wanted : Nat) : Scan (List UInt8) := do
  let cursor ← get
  match (← read).serve cursor.position wanted with
  | .error text => throw (.reported (.io text))
  | .ok [] => malformed .endOfFile
  | .ok (byte :: bytes) =>
      set { cursor with position := cursor.position + (byte :: bytes).length }
      return byte :: bytes

theorem run_readCall (wanted : Nat) (source : Source) (cursor : Cursor) :
    readCall wanted source cursor =
      match source.serve cursor.position wanted with
      | .error text => .error (.reported (.io text)) cursor
      | .ok [] => .error (.malformed .endOfFile) cursor
      | .ok (byte :: bytes) =>
          .ok (byte :: bytes)
            { cursor with position := cursor.position + (byte :: bytes).length } := by
  simp only [readCall, run_bind, run_get, run_read]
  cases source.serve cursor.position wanted with
  | error text => rfl
  | ok bytes => cases bytes <;> rfl

/-- Exactly `count` bytes, read by at most `calls` read calls. -/
def readWithin : (calls count : Nat) → Scan (List UInt8)
  | _, 0 => return []
  | 0, _ + 1 => malformed .endOfFile
  | calls + 1, count + 1 => do
      let bytes ← readCall (count + 1)
      let others ← readWithin calls (count + 1 - bytes.length)
      return bytes ++ others

/-- Exactly `count` bytes; as each call gives one at least, `count` calls suffice. -/
def take (count : Nat) : Scan (List UInt8) :=
  readWithin count count

/-- The first `most` bytes of the file, or all of a shorter file. -/
def leading (most : Nat) : Scan (List UInt8) := do
  seek 0
  take (min (← size) most)

/-- The number in the next `count` bytes. -/
def number (count : Nat) : Scan Nat := do
  let bytes ← take count
  return (← get).order.value bytes

def u8 : Scan UInt8 :=
  return UInt8.ofNat (← number 1)

def u16 : Scan UInt16 :=
  return UInt16.ofNat (← number 2)

def u32 : Scan UInt32 :=
  return UInt32.ofNat (← number 4)

def u64 : Scan UInt64 :=
  return UInt64.ofNat (← number 8)

/-- A field that holds an address or an offset, as wide as the image is. -/
def word : Width → Scan UInt64
  | .bits32 => return (← u32).toUInt64
  | .bits64 => u64

end Scan

end SharedObject
