import SharedObject.Proofs.Scan.Holding

/-!
# Reading files that can be read

Where no read fails, a field is read exactly when it is inside the file, and what is read
is what the file has there.
-/

namespace SharedObject

/-- The digits of the number that a field holds are the bytes of the field. -/
theorem littleEndianBytes_littleEndianValue (bytes : List UInt8) :
    littleEndianBytes bytes.length (littleEndianValue bytes) = bytes := by
  induction bytes with
  | nil => rfl
  | cons byte bytes ih =>
      have byteLt := byte.toNat_lt
      have first : UInt8.ofNat (byte.toNat + 256 * littleEndianValue bytes) = byte := by
        apply UInt8.toNat_inj.mp
        rw [UInt8.toNat_ofNat']
        omega
      have rest : (byte.toNat + 256 * littleEndianValue bytes) / 256 = littleEndianValue bytes := by
        omega
      rw [List.length_cons, littleEndianValue, littleEndianBytes, first, rest, ih]

namespace Source

variable (source : Source)

theorem slice_eq_take_drop (position count : Nat) :
    source.slice position count = (source.bytes.toList.drop position).take count := by
  simp [slice, List.extract_eq_take_drop]

/-- The first bytes of a slice are a slice. -/
theorem take_slice {fewer count : Nat} (le : fewer ≤ count) (position : Nat) :
    (source.slice position count).take fewer = source.slice position fewer := by
  rw [slice_eq_take_drop, slice_eq_take_drop, List.take_take, Nat.min_eq_left le]

end Source

namespace Scan

variable {α β : Type} {source : Source} {cursor moved : Cursor}

/-- From every cursor the scan reads the field of so many bytes that is there, if it is
inside the file, and gives what the bytes stand for. -/
def ReadsField (source : Source) (scan : Scan α) (count : Nat)
    (meaning : ByteOrder → List UInt8 → α) : Prop :=
  ∀ cursor moved value, scan source cursor = .ok value moved ↔
    cursor.position + count ≤ source.size ∧
      meaning cursor.order (source.slice cursor.position count) = value ∧
        { cursor with position := cursor.position + count } = moved

namespace ReadsField

variable {scan : Scan α} {count : Nat} {meaning : ByteOrder → List UInt8 → α}

theorem take (sound : source.fault = none) (positive : 0 < count) :
    ReadsField source (take count) count fun _ bytes => bytes := by
  intro cursor moved bytes
  constructor
  · intro taken
    obtain ⟨reads, length⟩ := take_ok taken
    have inside := reads.position_le (List.length_pos_iff.mp (by omega))
    have content := reads.content
    have advanced := reads.advanced
    rw [length] at inside content advanced
    exact ⟨inside, content.symm, advanced.symm⟩
  · rintro ⟨inside, rfl, rfl⟩
    exact take_of_inside sound inside

theorem number (sound : source.fault = none) (positive : 0 < count) :
    ReadsField source (number count) count ByteOrder.value := by
  intro cursor moved value
  constructor
  · intro read
    obtain ⟨bytes, between, taken, given⟩ := bind_ok.mp read
    obtain ⟨inside, rfl, rfl⟩ := (take sound positive _ _ _).mp taken
    cases given
    exact ⟨inside, rfl, rfl⟩
  · rintro ⟨inside, rfl, rfl⟩
    exact bind_ok.mpr ⟨_, _, take_of_inside sound inside, rfl⟩

theorem map (reads : ReadsField source scan count meaning) (function : α → β) :
    ReadsField source (do return function (← scan)) count
      fun order bytes => function (meaning order bytes) := by
  intro cursor moved value
  constructor
  · intro read
    obtain ⟨found, between, read, given⟩ := bind_ok.mp read
    obtain ⟨inside, rfl, rfl⟩ := (reads _ _ _).mp read
    cases given
    exact ⟨inside, rfl, rfl⟩
  · rintro ⟨inside, rfl, rfl⟩
    exact bind_ok.mpr ⟨_, _, (reads _ _ _).mpr ⟨inside, rfl, rfl⟩, rfl⟩

theorem u16 (sound : source.fault = none) :
    ReadsField source u16 2 fun order bytes => UInt16.ofNat (order.value bytes) :=
  (number sound (by decide)).map UInt16.ofNat

theorem u32 (sound : source.fault = none) :
    ReadsField source u32 4 fun order bytes => UInt32.ofNat (order.value bytes) :=
  (number sound (by decide)).map UInt32.ofNat

/-- The field at an offset is read, and what follows goes on behind it. -/
theorem at_iff (reads : ReadsField source scan count meaning) {offset : Nat}
    {next : α → Scan β} {result : β} :
    (do seek offset; next (← scan)) source cursor = .ok result moved ↔
      offset + count ≤ source.size ∧
        next (meaning cursor.order (source.slice offset count)) source
          { cursor with position := offset + count } = .ok result moved := by
  constructor
  · intro answered
    obtain ⟨_, start, sought, answered⟩ := bind_ok.mp answered
    obtain ⟨_, rfl⟩ := seek_ok.mp sought
    obtain ⟨value, between, read, answered⟩ := bind_ok.mp answered
    obtain ⟨inside, rfl, rfl⟩ := (reads _ _ _).mp read
    exact ⟨inside, answered⟩
  · rintro ⟨inside, answered⟩
    have sought : seek offset source cursor = .ok () { cursor with position := offset } :=
      seek_of_inside (Nat.le_of_add_right_le inside) cursor
    have read := (reads { cursor with position := offset } _ _).mpr ⟨inside, rfl, rfl⟩
    exact bind_ok.mpr ⟨(), _, sought, bind_ok.mpr ⟨_, _, read, answered⟩⟩

end ReadsField

/-- What follows a test is reached when the test does not refuse. -/
theorem refuseIf_bind_ok {wrong : Prop} [Decidable wrong] {cause : Malformed}
    {next : Unit → Scan β} {result : β} :
    (refuseIf wrong cause >>= next) source cursor = .ok result moved ↔
      ¬wrong ∧ next () source cursor = .ok result moved := by
  rw [run_bind, run_refuseIf]
  by_cases holds : wrong
  · simp [holds]
  · simp [holds]

variable (sound : source.fault = none)
include sound

/-- What a file starts with is read, whether or not it is as long as that. -/
theorem run_leading (most : Nat) :
    leading most source cursor =
      .ok (source.slice 0 most) { cursor with position := min source.size most } := by
  have length : (source.slice 0 most).length = min source.size most := by
    rw [Source.length_slice, Nat.sub_zero, Nat.min_comm]
  have content := source.slice_eq_slice_length 0 most
  rw [length] at content
  have start : seek 0 source cursor = .ok () { cursor with position := 0 } :=
    seek_of_inside (Nat.zero_le _) cursor
  have inside : 0 + min source.size most ≤ source.size := by omega
  simp only [leading, run_bind, start, run_size]
  rw [take_of_inside sound inside, Nat.zero_add, content]

/-- Bytes that are read one by one are those that the file has there. -/
theorem parses_mapM_u8 {α : Type} {order : ByteOrder} {items : List α} {bytes : List UInt8}
    (same : items.length = bytes.length) :
    Parses source order (items.mapM fun _ => u8) bytes bytes := by
  induction items generalizing bytes with
  | nil =>
      obtain rfl := List.eq_nil_of_length_eq_zero same.symm
      intro position _
      rfl
  | cons item items ih =>
      cases bytes with
      | nil => cases same
      | cons byte bytes =>
          rw [List.mapM_cons]
          exact (Parses.u8 sound byte).bind ((ih (Nat.succ.inj same)).map (byte :: ·))

theorem run_mapM_u8 {α : Type} {order : ByteOrder} {position : Nat} (items : List α)
    (inside : position + items.length ≤ source.size) :
    items.mapM (fun _ => u8) source { position, order } =
      .ok (source.slice position items.length)
        { position := position + items.length, order } := by
  have length : (source.slice position items.length).length = items.length := by
    rw [Source.length_slice]
    omega
  have held : source.Holds position (source.slice position items.length) :=
    (source.slice_eq_slice_length position items.length).symm
  have parses : Parses source order (items.mapM fun _ => u8) _ _ :=
    parses_mapM_u8 sound length.symm
  rw [parses position held, length]

end Scan

end SharedObject
