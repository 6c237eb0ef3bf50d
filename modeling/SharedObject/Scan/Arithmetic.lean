import SharedObject.Scan.Basic

/-!
# Arithmetic on file offsets

Offsets and counts are numbers below `2 ^ 64`.  Each operation here checks that
its result is one, and stops the scan with a defect otherwise, so that a scan
free of defects is one whose arithmetic never leaves the width of an offset.
-/

namespace SharedObject

/-- One more than the greatest offset. -/
def offsetBound : Nat := 0x10000000000000000

/-- The sum of two offsets, or the greatest offset when the sum is beyond it. -/
def saturatingSum (first second : Nat) : Nat :=
  min (first + second) (offsetBound - 1)

namespace Scan

def sum (first second : Nat) : Scan Nat :=
  if first + second < offsetBound then pure (first + second) else defect .overflow

def product (first second : Nat) : Scan Nat :=
  if first * second < offsetBound then pure (first * second) else defect .overflow

/-- The difference of two offsets, the second at most the first. -/
def difference (first second : Nat) : Scan Nat :=
  if second ≤ first then pure (first - second) else defect .underflow

/-- The quotient and the remainder of a division. -/
def divide (dividend divisor : Nat) : Scan (Nat × Nat) :=
  if divisor = 0 then defect .divisionByZero
  else pure (dividend / divisor, dividend % divisor)

/-- The offset of the entry `index` in a table of entries of `stride` bytes. -/
def entryOffset (table index stride : Nat) : Scan Nat := do
  sum table (← product index stride)

/-- The item of a table at an index that has to be in range. -/
def item {α : Type} (table : Array α) (index : Nat) : Scan α :=
  match table[index]? with
  | some value => pure value
  | none => defect .indexOutOfRange

/-- The first `count` items, of which there have to be as many. -/
def front {α : Type} (items : List α) (count : Nat) : Scan (List α) :=
  if count ≤ items.length then pure (items.take count) else defect .indexOutOfRange

end Scan

end SharedObject
