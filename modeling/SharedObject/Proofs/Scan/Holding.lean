import SharedObject.Proofs.Scan.Reading
import SharedObject.Proofs.Text.Utf8

/-!
# What a file holds

A number is written into a field as its digits of base 256.  A scan parses a byte
string to a value when it answers that value, and goes to the end of the byte string,
wherever the file holds it.  Sequences of fields are parsed one after the other.
-/

namespace SharedObject

/-- The least significant `count` digits of base 256 of a number, least significant
first. -/
def littleEndianBytes : (count number : Nat) → List UInt8
  | 0, _ => []
  | count + 1, number => UInt8.ofNat number :: littleEndianBytes count (number / 256)

/-- A number as a field of `count` bytes holds it. -/
def ByteOrder.bytes (order : ByteOrder) (count number : Nat) : List UInt8 :=
  match order with
  | .little => littleEndianBytes count number
  | .big => (littleEndianBytes count number).reverse

@[simp]
theorem length_littleEndianBytes (count number : Nat) :
    (littleEndianBytes count number).length = count := by
  induction count generalizing number with
  | zero => rfl
  | succ count ih => simp [littleEndianBytes, ih]

@[simp]
theorem ByteOrder.length_bytes (order : ByteOrder) (count number : Nat) :
    (order.bytes count number).length = count := by
  cases order <;> simp [ByteOrder.bytes]

theorem littleEndianValue_littleEndianBytes {count number : Nat} (small : number < 256 ^ count) :
    littleEndianValue (littleEndianBytes count number) = number := by
  induction count generalizing number with
  | zero =>
      have zero : number = 0 := by simpa using small
      subst zero
      rfl
  | succ count ih =>
      have quotient : number / 256 < 256 ^ count := by
        rw [Nat.pow_succ] at small
        omega
      rw [littleEndianBytes, littleEndianValue, ih quotient, UInt8.toNat_ofNat']
      omega

/-- A field that is long enough for a number is read as that number. -/
theorem ByteOrder.value_bytes (order : ByteOrder) {count number : Nat}
    (small : number < 256 ^ count) : order.value (order.bytes count number) = number := by
  cases order with
  | little => exact littleEndianValue_littleEndianBytes small
  | big =>
      rw [ByteOrder.bytes, ByteOrder.value, List.reverse_reverse]
      exact littleEndianValue_littleEndianBytes small

/-- A number as wide as an image is. -/
abbrev Word (width : Width) : Type :=
  BitVec width.bits

namespace Word

variable {width : Width}

/-- The number of bytes of a word. -/
def size : Width → Nat
  | .bits32 => 4
  | .bits64 => 8

/-- A word as a field holds it. -/
def bytes (order : ByteOrder) (word : Word width) : List UInt8 :=
  order.bytes (size width) word.toNat

/-- A word as it is kept, whatever the width of the image. -/
def toUInt64 (word : Word width) : UInt64 :=
  UInt64.ofNat word.toNat

theorem toNat_lt (word : Word width) : word.toNat < 256 ^ size width := by
  have bounded := word.isLt
  cases width with
  | bits32 => exact bounded
  | bits64 => exact bounded

@[simp]
theorem toNat_toUInt64 (word : Word width) : (toUInt64 word).toNat = word.toNat := by
  have bounded : word.toNat < 2 ^ 64 := by
    apply Nat.lt_of_lt_of_le word.isLt
    cases width <;> decide
  exact UInt64.toNat_ofNat_of_lt' bounded

end Word

namespace Source

variable {source : Source} {offset : Nat} {bytes others : List UInt8}

/-- The file has these bytes at an offset. -/
def Holds (source : Source) (offset : Nat) (bytes : List UInt8) : Prop :=
  source.slice offset bytes.length = bytes

instance (source : Source) (offset : Nat) (bytes : List UInt8) :
    Decidable (source.Holds offset bytes) :=
  inferInstanceAs (Decidable (_ = _))

theorem holds_append :
    source.Holds offset (bytes ++ others) ↔
      source.Holds offset bytes ∧ source.Holds (offset + bytes.length) others := by
  unfold Holds
  rw [List.length_append, ← slice_append_slice]
  constructor
  · intro held
    have counted := congrArg List.length held
    simp only [List.length_append, length_slice] at counted
    exact List.append_inj held (by rw [length_slice]; omega)
  · rintro ⟨first, second⟩
    rw [first, second]

/-- Bytes that a file holds are inside it. -/
theorem Holds.inside (held : source.Holds offset bytes) (nonempty : bytes ≠ []) :
    offset + bytes.length ≤ source.size := by
  have positive := List.length_pos_iff.mpr nonempty
  have counted := congrArg List.length held
  rw [length_slice] at counted
  omega

/-- A file holds all its bytes. -/
theorem holds_all (source : Source) : source.Holds 0 source.bytes.toList := by
  simp [Holds, slice]

theorem length_flatMap_of_stride {α : Type} {items : List α} {content : α → List UInt8}
    {stride : Nat} (each : ∀ item ∈ items, (content item).length = stride) :
    (items.flatMap content).length = items.length * stride := by
  rw [List.length_flatMap, List.map_congr_left each]
  simp

/-- The entries of a table are one stride from each other. -/
theorem Holds.entry {α : Type} {items : List α} {content : α → List UInt8} {stride : Nat}
    (held : source.Holds offset (items.flatMap content))
    (each : ∀ item ∈ items, (content item).length = stride) (index : Nat)
    (among : index < items.length) :
    source.Holds (offset + index * stride) (content items[index]) := by
  induction items generalizing offset index with
  | nil => cases among
  | cons item items ih =>
      rw [List.flatMap_cons, holds_append, each item List.mem_cons_self] at held
      cases index with
      | zero => simpa using held.1
      | succ index =>
          have rest := ih held.2 (fun other member => each other (List.mem_cons_of_mem item member))
            index (Nat.lt_of_succ_lt_succ among)
          rw [Nat.succ_mul, Nat.add_comm _ stride, ← Nat.add_assoc]
          exact rest

/-- The file has a name at an offset, with the NUL byte that ends it before `tableEnd`. -/
def HoldsName (source : Source) (offset tableEnd : Nat) (name : String) : Prop :=
  '\x00' ∉ name.toList ∧ source.Holds offset (utf8Bytes name ++ [0]) ∧
    offset + (utf8Bytes name).length < tableEnd

instance (source : Source) (offset tableEnd : Nat) (name : String) :
    Decidable (source.HoldsName offset tableEnd name) :=
  inferInstanceAs (Decidable (_ ∧ _))

end Source

namespace Scan

variable {α β : Type} {source : Source} {order : ByteOrder}

/-- A byte that can be read is read as it is, in both byte orders. -/
theorem run_u8 {position : Nat} {byte : UInt8} (readable : source.ReadableTo (position + 1))
    (held : source.Holds position [byte]) :
    u8 source { position, order } = .ok byte { position := position + 1, order } := by
  have taken : take 1 source { position, order } =
      .ok (source.slice position 1) { position := position + 1, order } :=
    take_of_readable readable
  have single : source.slice position 1 = [byte] := held
  have value : order.value [byte] = byte.toNat := by
    cases order <;> simp [ByteOrder.value, littleEndianValue]
  rw [u8, number, run_bind, run_bind, taken, single]
  dsimp only
  rw [run_bind, run_get]
  dsimp only
  rw [run_pure]
  dsimp only
  rw [run_pure, value, UInt8.ofNat_toNat]

/-- Wherever the file holds the bytes, the scan answers the value and goes past them. -/
def Parses (source : Source) (order : ByteOrder) (scan : Scan α) (bytes : List UInt8)
    (value : α) : Prop :=
  ∀ position, source.Holds position bytes →
    scan source { position, order } = .ok value { position := position + bytes.length, order }

namespace Parses

variable {scan : Scan α} {next : α → Scan β} {bytes others : List UInt8} {value : α} {result : β}

theorem bind (first : Parses source order scan bytes value)
    (rest : Parses source order (next value) others result) :
    Parses source order (scan >>= next) (bytes ++ others) result := by
  intro position held
  obtain ⟨here, there⟩ := Source.holds_append.mp held
  rw [run_bind, first position here]
  dsimp only
  rw [rest _ there, List.length_append, Nat.add_assoc]

/-- The last field of a record, from which the record is built. -/
theorem map (last : Parses source order scan bytes value) (build : α → β) :
    Parses source order (scan >>= fun value => Pure.pure (build value)) bytes (build value) := by
  intro position held
  rw [run_bind, last position held]
  rfl

variable (sound : source.fault = none)
include sound

theorem take {count : Nat} (length : bytes.length = count) :
    Parses source order (take count) bytes bytes := by
  intro position held
  subst length
  cases bytes with
  | nil => rfl
  | cons byte bytes =>
      have inside := held.inside (List.cons_ne_nil byte bytes)
      rw [take_of_inside sound inside, held]

theorem number {count value : Nat} (small : value < 256 ^ count) :
    Parses source order (number count) (order.bytes count value) value := by
  intro position held
  have taken : Parses source order (Scan.take count) _ _ :=
    take sound (order.length_bytes count value)
  rw [Scan.number, run_bind, taken position held]
  dsimp only
  rw [run_bind, run_get]
  dsimp only
  rw [run_pure, order.value_bytes small]

theorem u8 (value : UInt8) : Parses source order u8 [value] value := by
  have single : order.bytes 1 value.toNat = [value] := by
    cases order <;> simp [ByteOrder.bytes, littleEndianBytes]
  have parsed : Parses source order Scan.u8 (order.bytes 1 value.toNat)
      (UInt8.ofNat value.toNat) :=
    (number sound value.toNat_lt).map UInt8.ofNat
  rw [single, UInt8.ofNat_toNat] at parsed
  exact parsed

theorem u16OfNat {value : Nat} (small : value < 2 ^ 16) :
    Parses source order u16 (order.bytes 2 value) (UInt16.ofNat value) :=
  (number sound small).map UInt16.ofNat

theorem u16 (value : UInt16) : Parses source order u16 (order.bytes 2 value.toNat) value := by
  have parsed : Parses source order Scan.u16 (order.bytes 2 value.toNat)
      (UInt16.ofNat value.toNat) :=
    u16OfNat sound value.toNat_lt
  rw [UInt16.ofNat_toNat] at parsed
  exact parsed

theorem u32OfNat {value : Nat} (small : value < 2 ^ 32) :
    Parses source order u32 (order.bytes 4 value) (UInt32.ofNat value) :=
  (number sound small).map UInt32.ofNat

theorem u32 (value : UInt32) : Parses source order u32 (order.bytes 4 value.toNat) value := by
  have parsed : Parses source order Scan.u32 (order.bytes 4 value.toNat)
      (UInt32.ofNat value.toNat) :=
    u32OfNat sound value.toNat_lt
  rw [UInt32.ofNat_toNat] at parsed
  exact parsed

/-- A word of a 32-bit image is an ordinary field of four bytes. -/
theorem u32OfWord (word : Word .bits32) :
    Parses source order Scan.u32 (Word.bytes order word) (UInt32.ofBitVec word) :=
  u32 sound (UInt32.ofBitVec word)

theorem word {width : Width} (word : Word width) :
    Parses source order (Scan.word width) (word.bytes order) word.toUInt64 := by
  cases width with
  | bits32 =>
      have widened : (UInt32.ofBitVec word).toUInt64 = word.toUInt64 := by
        apply UInt64.toNat_inj.mp
        rw [UInt32.toNat_toUInt64, Word.toNat_toUInt64]
        rfl
      exact widened ▸ (u32OfWord sound word).map UInt32.toUInt64
  | bits64 => exact (number sound word.toNat_lt).map UInt64.ofNat

end Parses

end Scan

end SharedObject
