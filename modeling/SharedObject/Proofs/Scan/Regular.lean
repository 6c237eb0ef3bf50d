import SharedObject.Proofs.Scan.Reading
import SharedObject.Scan.Name

/-!
# Regular scans

A regular scan looks at a file only by seeking, by checking ranges, and by reading
fields and names.  It asks neither for the length of the file nor for the place of
its cursor, so that bytes appended to a file do not change an answer it gives.  On its
own account it fails only by calling the file malformed, or with a defect.
-/

namespace SharedObject

namespace Scan

/-- The scans that are put together of seeks, range checks and reads. -/
inductive Regular : {α : Type} → Scan α → Prop
  | pure {α : Type} (value : α) : Regular (pure value)
  | malformed {α : Type} (cause : Malformed) : Regular (malformed cause : Scan α)
  | defect {α : Type} (defect : Defect) : Regular (Scan.defect defect : Scan α)
  | bind {α β : Type} {scan : Scan α} {next : α → Scan β} (first : Regular scan)
      (rest : ∀ value, Regular (next value)) : Regular (scan >>= next)
  | setOrder (order : ByteOrder) : Regular (setOrder order)
  | seek (offset : Nat) : Regular (seek offset)
  | checkRange (region : Region) (offset extent : Nat) :
      Regular (checkRange region offset extent)
  | take (count : Nat) : Regular (take count)
  | number (count : Nat) : Regular (number count)
  | nameAt (offset tableEnd : Nat) : Regular (nameAt offset tableEnd)
  | nameToEnd (offset : Nat) : Regular (nameToEnd offset)

namespace Regular

variable {α β : Type}

theorem refuseIf (wrong : Prop) [Decidable wrong] (cause : Malformed) :
    Regular (refuseIf wrong cause) := by
  unfold Scan.refuseIf
  split
  · exact .malformed cause
  · exact .pure _

theorem u8 : Regular u8 :=
  (number 1).bind fun _ => .pure _

theorem u16 : Regular u16 :=
  (number 2).bind fun _ => .pure _

theorem u32 : Regular u32 :=
  (number 4).bind fun _ => .pure _

theorem u64 : Regular u64 :=
  (number 8).bind fun _ => .pure _

theorem word (width : Width) : Regular (word width) := by
  cases width with
  | bits32 => exact u32.bind fun _ => .pure _
  | bits64 => exact u64

theorem sum (first second : Nat) : Regular (sum first second) := by
  unfold Scan.sum
  split
  · exact .pure _
  · exact .defect _

theorem product (first second : Nat) : Regular (product first second) := by
  unfold Scan.product
  split
  · exact .pure _
  · exact .defect _

theorem difference (first second : Nat) : Regular (difference first second) := by
  unfold Scan.difference
  split
  · exact .pure _
  · exact .defect _

theorem divide (dividend divisor : Nat) : Regular (divide dividend divisor) := by
  unfold Scan.divide
  split
  · exact .defect _
  · exact .pure _

theorem entryOffset (table index stride : Nat) : Regular (entryOffset table index stride) :=
  (product _ _).bind fun _ => sum _ _

theorem item (table : Array α) (index : Nat) : Regular (item table index) := by
  unfold Scan.item
  split
  · exact .pure _
  · exact .defect _

theorem front (items : List α) (count : Nat) : Regular (front items count) := by
  unfold Scan.front
  split
  · exact .pure _
  · exact .defect _

theorem paddedName (field : List UInt8) : Regular (paddedName field) :=
  (front _ _).bind fun _ => .pure _

theorem mapM {function : α → Scan β} (each : ∀ item, Regular (function item)) (items : List α) :
    Regular (items.mapM function) := by
  induction items with
  | nil => exact .pure _
  | cons item items ih =>
      rw [List.mapM_cons]
      exact (each item).bind fun _ => ih.bind fun _ => .pure _

theorem filterMapM {function : α → Scan (Option β)} (each : ∀ item, Regular (function item))
    (items : List α) : Regular (items.filterMapM function) := by
  induction items with
  | nil => exact .pure _
  | cons item items ih =>
      rw [List.filterMapM_cons]
      refine (each item).bind fun found => ?_
      cases found with
      | none => exact ih
      | some value => exact ih.bind fun _ => .pure _

theorem findM? {test : α → Scan Bool} (each : ∀ item, Regular (test item)) (items : List α) :
    Regular (items.findM? test) := by
  induction items with
  | nil => exact .pure _
  | cons item items ih =>
      refine (each item).bind fun found => ?_
      cases found with
      | true => exact .pure _
      | false => exact ih

end Regular

end Scan

end SharedObject
