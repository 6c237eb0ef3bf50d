/-!
# Byte sources

A source holds the bytes of a file and says how a reader gets at them.  One read
call may give fewer bytes than were asked for, calls from some position on may
fail, and asking for the length may fail.
-/

namespace SharedObject

/-- Read calls made at `position` or later fail with `text`.  The failure is of a
kind that is reported as an I/O error: neither an interruption, after which the call is
made again, nor an unexpected end of file, for which the file counts as cut short. -/
structure ReadFault where
  position : Nat
  text : String
  deriving DecidableEq, Repr

/-- The bytes of a file together with the way in which reading them behaves. -/
structure Source where
  bytes : Array UInt8
  /-- Where reading fails, if it does. -/
  fault : Option ReadFault := none
  /-- The failure met when the length is asked for, if it is met. -/
  lengthFault : Option String := none
  /-- How many bytes a call at a position gives at most; one is always given. -/
  chunk : Nat → Option Nat := fun _ => none

namespace Source

def size (source : Source) : Nat :=
  source.bytes.size

/-- The bytes from `position` on, `count` of them unless the file ends earlier. -/
def slice (source : Source) (position count : Nat) : List UInt8 :=
  (source.bytes.extract position (position + count)).toList

@[simp]
theorem length_slice (source : Source) (position count : Nat) :
    (source.slice position count).length = min count (source.size - position) := by
  simp only [slice, size, Array.length_toList, Array.size_extract]
  omega

theorem getElem?_slice_of_lt (source : Source) (position : Nat) {count index : Nat}
    (indexLt : index < count) :
    (source.slice position count)[index]? = source.bytes[position + index]? := by
  simp only [slice, Array.getElem?_toList]
  rw [Array.getElem?_extract]
  by_cases inside : index < min (position + count) source.bytes.size - position
  · simp [inside]
  · simp [inside]
    omega

/-- How many of `wanted` bytes one call at `position` may give, the end of the
file left aside. -/
def allowance (source : Source) (position wanted : Nat) : Nat :=
  let served := match source.chunk position with
    | none => wanted
    | some most => min wanted (max 1 most)
  match source.fault with
  | none => served
  | some fault => min served (fault.position - position)

theorem allowance_le (source : Source) (position wanted : Nat) :
    source.allowance position wanted ≤ wanted := by
  have served : (match source.chunk position with
      | none => wanted
      | some most => min wanted (max 1 most)) ≤ wanted := by
    cases source.chunk position with
    | none => exact Nat.le_refl wanted
    | some most => exact Nat.min_le_left _ _
  simp only [allowance]
  cases source.fault with
  | none => exact served
  | some fault => exact Nat.le_trans (Nat.min_le_left _ _) served

/-- The answer of one read call: a failure, or the bytes it gives.  The failure
is looked at before the end of the file. -/
def serve (source : Source) (position wanted : Nat) : Except String (List UInt8) :=
  match source.fault with
  | some fault =>
      if fault.position ≤ position then .error fault.text
      else .ok (source.slice position (source.allowance position wanted))
  | none => .ok (source.slice position (source.allowance position wanted))

end Source

end SharedObject
