import Mathlib.Data.List.Forall2
import SharedObject.Proofs.Scan.Holding
import SharedObject.Scan.Name

/-!
# What an answer tells of the file

A field that was read is the bytes of the file at the cursor, whether or not other reads
fail.  When a scan has answered, what its steps have read is therefore known from the file,
and a name that was read is a text that the file holds.
-/

namespace SharedObject

/-- The file has a text at an offset, up to the NUL byte that ends it. -/
def Source.HoldsText (source : Source) (offset : Nat) (text : String) : Prop :=
  ∃ bytes, 0 ∉ bytes ∧ source.Holds offset (bytes ++ [0]) ∧ text = decodeLossy bytes

namespace Scan

variable {α β : Type} {source : Source} {cursor moved : Cursor}

/-- What the scan answers is what so many bytes at the cursor stand for, and the cursor goes
past them. -/
def Decodes (scan : Scan α) (count : Nat) (meaning : ByteOrder → List UInt8 → α) : Prop :=
  ∀ source cursor value moved, scan source cursor = .ok value moved →
    value = meaning cursor.order (source.slice cursor.position count) ∧
      moved = { cursor with position := cursor.position + count }

namespace Decodes

variable {scan : Scan α} {count : Nat} {meaning : ByteOrder → List UInt8 → α}

theorem take (count : Nat) : Decodes (take count) count fun _ bytes => bytes := by
  intro source cursor bytes moved taken
  obtain ⟨reads, length⟩ := take_ok taken
  exact ⟨length ▸ reads.content, length ▸ reads.advanced⟩

theorem number (count : Nat) : Decodes (number count) count ByteOrder.value := by
  intro source cursor value moved read
  obtain ⟨bytes, between, taken, given⟩ := bind_ok.mp read
  obtain ⟨rfl, rfl⟩ := take count _ _ _ _ taken
  cases given
  exact ⟨rfl, rfl⟩

theorem map (decodes : Decodes scan count meaning) (function : α → β) :
    Decodes (do return function (← scan)) count
      fun order bytes => function (meaning order bytes) := by
  intro source cursor value moved read
  obtain ⟨found, between, read, given⟩ := bind_ok.mp read
  obtain ⟨rfl, rfl⟩ := decodes _ _ _ _ read
  cases given
  exact ⟨rfl, rfl⟩

theorem u16 : Decodes u16 2 fun order bytes => UInt16.ofNat (order.value bytes) :=
  (number 2).map UInt16.ofNat

theorem u32 : Decodes u32 4 fun order bytes => UInt32.ofNat (order.value bytes) :=
  (number 4).map UInt32.ofNat

/-- What follows goes on behind the field. -/
theorem next (decodes : Decodes scan count meaning) {next : α → Scan β} {result : β}
    (answered : (scan >>= next) source cursor = .ok result moved) :
    next (meaning cursor.order (source.slice cursor.position count)) source
      { cursor with position := cursor.position + count } = .ok result moved := by
  obtain ⟨value, between, read, answered⟩ := bind_ok.mp answered
  obtain ⟨rfl, rfl⟩ := decodes _ _ _ _ read
  exact answered

end Decodes

section Steps

variable {result : β}

theorem seek_next {offset : Nat} {next : Unit → Scan β}
    (answered : (seek offset >>= next) source cursor = .ok result moved) :
    next () source { cursor with position := offset } = .ok result moved := by
  obtain ⟨_, between, sought, answered⟩ := bind_ok.mp answered
  obtain ⟨_, rfl⟩ := seek_ok.mp sought
  exact answered

theorem refuseIf_next {wrong : Prop} [Decidable wrong] {cause : Malformed}
    {next : Unit → Scan β}
    (answered : (refuseIf wrong cause >>= next) source cursor = .ok result moved) :
    next () source cursor = .ok result moved := by
  obtain ⟨_, between, passed, answered⟩ := bind_ok.mp answered
  obtain ⟨_, rfl⟩ := refuseIf_ok.mp passed
  exact answered

theorem checkRange_next {region : Region} {offset extent : Nat} {next : Unit → Scan β}
    (answered : (checkRange region offset extent >>= next) source cursor = .ok result moved) :
    next () source cursor = .ok result moved :=
  refuseIf_next answered

/-- A step of arithmetic that was taken. -/
theorem checked_next {allowed : Prop} [Decidable allowed] {value : Nat} {cause : Defect}
    {next : Nat → Scan β}
    (answered : ((if allowed then pure value else defect cause) >>= next) source cursor =
      .ok result moved) : next value source cursor = .ok result moved := by
  split at answered
  · exact answered
  · cases answered

theorem sum_next {first second : Nat} {next : Nat → Scan β}
    (answered : (sum first second >>= next) source cursor = .ok result moved) :
    next (first + second) source cursor = .ok result moved :=
  checked_next answered

theorem product_next {first second : Nat} {next : Nat → Scan β}
    (answered : (product first second >>= next) source cursor = .ok result moved) :
    next (first * second) source cursor = .ok result moved :=
  checked_next answered

theorem difference_next {first second : Nat} {next : Nat → Scan β}
    (answered : (difference first second >>= next) source cursor = .ok result moved) :
    next (first - second) source cursor = .ok result moved :=
  checked_next answered

theorem entryOffset_next {table index stride : Nat} {next : Nat → Scan β}
    (answered : (entryOffset table index stride >>= next) source cursor = .ok result moved) :
    next (table + index * stride) source cursor = .ok result moved := by
  rw [entryOffset, bind_assoc] at answered
  exact sum_next (product_next answered)

/-- A traversal that answers has answered at each item, from some cursor. -/
theorem mapM_ok {function : α → Scan β} {items : List α} {values : List β}
    (answered : items.mapM function source cursor = .ok values moved) :
    List.Forall₂ (fun item value => ∃ start after,
      function item source start = .ok value after) items values := by
  induction items generalizing cursor values with
  | nil =>
      cases answered
      exact .nil
  | cons item items ih =>
      rw [List.mapM_cons] at answered
      obtain ⟨value, between, first, answered⟩ := bind_ok.mp answered
      obtain ⟨others, after, rest, given⟩ := bind_ok.mp answered
      cases given
      exact .cons ⟨cursor, between, first⟩ (ih rest)

end Steps

/-! ## Names -/

theorem u8_ok {byte : UInt8} (read : u8 source cursor = .ok byte moved) :
    source.Holds cursor.position [byte] ∧
      moved = { cursor with position := cursor.position + 1 } := by
  obtain ⟨value, between, read, given⟩ := bind_ok.mp read
  obtain ⟨bytes, after, taken, converted⟩ := bind_ok.mp read
  obtain ⟨reads, length⟩ := take_ok taken
  obtain ⟨only, rfl⟩ := List.length_eq_one_iff.mp length
  -- One byte stands for the same number in both byte orders.
  have same (order : ByteOrder) : UInt8.ofNat (order.value [only]) = only := by
    cases order <;> simp [ByteOrder.value, littleEndianValue]
  cases converted
  cases given
  rw [same]
  exact ⟨reads.content.symm, reads.advanced⟩

theorem bytesBeforeNul_ok {taken bytes : List UInt8} {limit : Nat}
    (found : bytesBeforeNul taken limit source cursor = .ok (some bytes) moved) :
    ∃ others, bytes = taken.reverse ++ others ∧ 0 ∉ others ∧
      source.Holds cursor.position (others ++ [0]) := by
  induction limit generalizing taken cursor with
  | zero => cases found
  | succ limit ih =>
      obtain ⟨byte, between, read, found⟩ := bind_ok.mp found
      obtain ⟨here, rfl⟩ := u8_ok read
      split at found
      · rename_i isNul
        cases found
        exact ⟨[], by simp, by simp, isNul ▸ here⟩
      · rename_i other
        obtain ⟨others, rfl, noNul, there⟩ := ih found
        refine ⟨byte :: others, by simp, by simp [noNul, Ne.symm other], ?_⟩
        have joined : source.Holds cursor.position ([byte] ++ (others ++ [0])) :=
          Source.holds_append.mpr ⟨here, there⟩
        exact joined

theorem nameAt_ok {offset tableEnd : Nat} {name : String}
    (read : nameAt offset tableEnd source cursor = .ok name moved) :
    source.HoldsText offset name := by
  obtain ⟨_, _, sized, read⟩ := bind_ok.mp read
  cases sized
  obtain ⟨found, between, read, given⟩ := bind_ok.mp (seek_next (refuseIf_next read))
  cases found with
  | none => cases given
  | some bytes =>
      cases given
      obtain ⟨others, same, noNul, held⟩ := bytesBeforeNul_ok read
      exact ⟨others, noNul, held, by rw [same]; rfl⟩

theorem nameToEnd_ok {offset : Nat} {name : String}
    (read : nameToEnd offset source cursor = .ok name moved) : source.HoldsText offset name :=
  nameAt_ok read

end Scan

end SharedObject
