import SharedObject.Proofs.Scan.Sound
import SharedObject.Scan.Name

/-!
# Scans of files that agree up to a bound

Two files that have the same bytes up to a bound are told apart by no scan that stays below
the bound.  Each rule asks for what keeps the scan there, and says how far it has come.
-/

namespace SharedObject

/-- The bytes of two files up to a bound are there to be read in both, and are the same. -/
structure Source.AgreeBelow (bound : Nat) (first second : Source) : Prop where
  firstSound : first.fault = none
  secondSound : second.fault = none
  firstInside : bound ≤ first.size
  secondInside : bound ≤ second.size
  same : first.slice 0 bound = second.slice 0 bound

theorem Source.AgreeBelow.slice_eq {bound : Nat} {first second : Source}
    (agree : first.AgreeBelow bound second) {position count : Nat}
    (below : position + count ≤ bound) :
    first.slice position count = second.slice position count := by
  have cut (source : Source) :
      source.slice position count = ((source.slice 0 bound).drop position).take count := by
    rw [slice_eq_take_drop, slice_eq_take_drop, List.drop_zero, List.drop_take, List.take_take,
      Nat.min_eq_left (by omega)]
  rw [cut first, cut second, agree.same]

namespace Scan

variable {α β : Type} {first second : Source} {cursor : Cursor} {bound : Nat}

/-- From the cursor, the scan does the same in both files; what it answers and where it
leaves the cursor satisfies `holds`. -/
def Agrees (first second : Source) (cursor : Cursor) (scan : Scan α)
    (holds : α → Cursor → Prop) : Prop :=
  scan first cursor = scan second cursor ∧
    ∀ value moved, scan first cursor = .ok value moved → holds value moved

namespace Agrees

theorem pure {value : α} {holds : α → Cursor → Prop} (held : holds value cursor) :
    Agrees first second cursor (pure value) holds := by
  refine ⟨rfl, ?_⟩
  rintro _ _ ⟨⟩
  exact held

theorem fail (failure : Failure) {holds : α → Cursor → Prop} :
    Agrees first second cursor (throw failure) holds := by
  refine ⟨rfl, ?_⟩
  rintro value moved ⟨⟩

theorem bind {scan : Scan α} {next : α → Scan β} {between : α → Cursor → Prop}
    {holds : β → Cursor → Prop} (earlier : Agrees first second cursor scan between)
    (later : ∀ value moved, between value moved → Agrees first second moved (next value) holds) :
    Agrees first second cursor (scan >>= next) holds := by
  obtain ⟨same, known⟩ := earlier
  constructor
  · rw [run_bind, run_bind, ← same]
    cases given : scan first cursor with
    | ok value moved => exact (later value moved (known value moved given)).1
    | error failure moved => rfl
  · intro result last given
    obtain ⟨value, moved, answered, given⟩ := bind_ok.mp given
    exact (later value moved (known value moved answered)).2 result last given

theorem mono {scan : Scan α} {holds weaker : α → Cursor → Prop}
    (agrees : Agrees first second cursor scan holds)
    (weaken : ∀ value moved, holds value moved → weaker value moved) :
    Agrees first second cursor scan weaker :=
  ⟨agrees.1, fun value moved given => weaken value moved (agrees.2 value moved given)⟩

theorem refuseIf (wrong : Prop) [Decidable wrong] (cause : Malformed) :
    Agrees first second cursor (refuseIf wrong cause)
      fun _ moved => ¬wrong ∧ moved = cursor := by
  unfold Scan.refuseIf
  split
  · exact fail _
  · exact pure ⟨‹_›, rfl⟩

theorem sum (left right : Nat) :
    Agrees first second cursor (sum left right)
      fun value moved => value = left + right ∧ moved = cursor := by
  unfold Scan.sum
  split
  · exact pure ⟨rfl, rfl⟩
  · exact fail _

theorem product (left right : Nat) :
    Agrees first second cursor (product left right)
      fun value moved => value = left * right ∧ moved = cursor := by
  unfold Scan.product
  split
  · exact pure ⟨rfl, rfl⟩
  · exact fail _

theorem entryOffset (table index stride : Nat) :
    Agrees first second cursor (entryOffset table index stride)
      fun value moved => value = table + index * stride ∧ moved = cursor := by
  apply (product index stride).bind
  rintro _ _ ⟨rfl, rfl⟩
  exact sum table _

theorem paddedName (field : List UInt8) :
    Agrees first second cursor (paddedName field) fun _ moved => moved = cursor := by
  have front : Agrees first second cursor (front field (field.findIdx (· == 0)))
      fun _ moved => moved = cursor := by
    unfold Scan.front
    split
    · exact pure rfl
    · exact fail _
  apply front.bind
  rintro _ _ rfl
  exact pure rfl

theorem setOrder (order : ByteOrder) :
    Agrees first second cursor (setOrder order)
      fun _ moved => moved = { cursor with order } := by
  refine ⟨rfl, ?_⟩
  rintro _ _ ⟨⟩
  rfl

/-- A traversal agrees when each of its steps does, wherever it starts in the byte order. -/
theorem mapM {function : β → Scan α} {items : List β} {order : ByteOrder}
    (each : ∀ item ∈ items, ∀ start : Cursor, start.order = order →
      Agrees first second start (function item) fun _ moved => moved.order = order)
    (ordered : cursor.order = order) :
    Agrees first second cursor (items.mapM function) fun _ moved => moved.order = order := by
  induction items generalizing cursor with
  | nil => exact pure ordered
  | cons item items ih =>
      rw [List.mapM_cons]
      apply (each item List.mem_cons_self cursor ordered).bind
      intro value moved movedOrder
      apply (ih (fun other member => each other (List.mem_cons_of_mem _ member)) movedOrder).bind
      intro values last lastOrder
      exact pure lastOrder

section Below

variable (agree : first.AgreeBelow bound second)
include agree

theorem seek {offset : Nat} (below : offset ≤ bound) :
    Agrees first second cursor (seek offset)
      fun _ moved => moved = { cursor with position := offset } := by
  have inFirst := Nat.le_trans below agree.firstInside
  have inSecond := Nat.le_trans below agree.secondInside
  refine ⟨?_, ?_⟩
  · rw [seek_of_inside inFirst, seek_of_inside inSecond]
  · intro _ moved sought
    exact (seek_ok.mp sought).2.symm

theorem checkRange (region : Region) {offset extent : Nat} (below : offset + extent ≤ bound) :
    Agrees first second cursor (checkRange region offset extent)
      fun _ moved => moved = cursor := by
  have inFirst := Nat.le_trans below agree.firstInside
  have inSecond := Nat.le_trans below agree.secondInside
  refine ⟨?_, ?_⟩
  · rw [run_checkRange, run_checkRange, if_neg (by omega), if_neg (by omega)]
  · intro _ moved checked
    exact (checkRange_ok.mp checked).2.symm

theorem take {count : Nat} (below : cursor.position + count ≤ bound) :
    Agrees first second cursor (take count) fun bytes moved =>
      bytes = first.slice cursor.position count ∧
        moved = { cursor with position := cursor.position + count } := by
  have inFirst := Nat.le_trans below agree.firstInside
  have inSecond := Nat.le_trans below agree.secondInside
  have taken := take_of_inside agree.firstSound inFirst
  refine ⟨?_, ?_⟩
  · rw [taken, take_of_inside agree.secondSound inSecond, agree.slice_eq below]
  · intro bytes moved given
    rw [taken] at given
    cases given
    exact ⟨rfl, rfl⟩

end Below

end Agrees

end Scan

/-- The number in the four bytes at an offset. -/
def Source.number32 (source : Source) (order : ByteOrder) (offset : Nat) : UInt32 :=
  .ofNat (order.value (source.slice offset 4))

theorem Scan.Agrees.u32 {first second : Source} {bound : Nat}
    (agree : first.AgreeBelow bound second) {cursor : Cursor}
    (below : cursor.position + 4 ≤ bound) :
    Agrees first second cursor u32 fun value moved =>
      value = first.number32 cursor.order cursor.position ∧
        moved = { cursor with position := cursor.position + 4 } := by
  have read : Agrees first second cursor (number 4) fun value moved =>
      value = cursor.order.value (first.slice cursor.position 4) ∧
        moved = { cursor with position := cursor.position + 4 } := by
    apply (Agrees.take agree below).bind
    rintro _ _ ⟨rfl, rfl⟩
    refine ⟨rfl, ?_⟩
    rintro _ _ ⟨⟩
    exact ⟨rfl, rfl⟩
  apply read.bind
  rintro _ _ ⟨rfl, rfl⟩
  exact Agrees.pure ⟨rfl, rfl⟩

end SharedObject
