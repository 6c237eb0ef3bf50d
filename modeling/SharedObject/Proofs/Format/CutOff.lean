import SharedObject.Proofs.Format.Detection
import SharedObject.Proofs.Scan.Sound
import SharedObject.Proofs.Scan.Yielding

/-!
# Which files are cut off

For each format, what the first bytes of its files are, and which files that can be read
are said to stop before these are complete.
-/

namespace SharedObject

open Scan

namespace Source

variable {source short long : Source}

/-- A slice starts a list when it is as much of the list as the file has room for. -/
theorem slice_prefix_iff {position count : Nat} {bytes : List UInt8} :
    source.slice position count <+: bytes ↔
      source.slice position count = bytes.take (min count (source.size - position)) := by
  rw [List.prefix_iff_eq_take, length_slice]

/-- A slice of a file starts the same slice of a longer file. -/
theorem Extends.slice_prefix (extended : long.Extends short) (position count : Nat) :
    short.slice position count <+: long.slice position count := by
  have content := short.slice_eq_slice_length position count
  rw [length_slice] at content
  by_cases outside : short.size < position
  · have nothing : short.size - position = 0 := by omega
    rw [content, nothing, Nat.min_zero, slice_eq_take_drop, List.take_zero]
    exact List.nil_prefix
  · have inside : position + min count (short.size - position) ≤ short.size := by omega
    rw [content, ← extended.slice_eq inside, ← take_slice long (Nat.min_le_left _ _)]
    exact List.take_prefix _ _

end Source

theorem Scan.run_setOrder (order : ByteOrder) (source : Source) (cursor : Cursor) :
    setOrder order source cursor = .ok () { cursor with order } :=
  rfl

theorem Scan.run_front {α : Type} {items : List α} {count : Nat} (enough : count ≤ items.length)
    (source : Source) (cursor : Cursor) :
    front items count source cursor = .ok (items.take count) cursor := by
  rw [front, if_pos enough]
  rfl

namespace Elf

variable {source : Source} (sound : source.fault = none)

/-- The file starts like an ELF file and stops within the first six bytes. -/
def CutOff (source : Source) : Prop :=
  0 < source.size ∧ source.size < 6 ∧ source.slice 0 4 <+: magic

instance (source : Source) : Decidable (CutOff source) :=
  inferInstanceAs (Decidable (_ ∧ _))

include sound

/-- A file that can be read is an ELF file by its first five bytes, if it has six. -/
theorem hasIdentity_iff {width : Width} {cursor : Cursor} :
    (∃ moved, hasIdentity width source cursor = .ok true moved) ↔
      6 ≤ source.size ∧ source.Holds 0 (magic ++ [classByte width]) := by
  have length : (source.slice 0 6).length = min 6 source.size := source.length_slice 0 6
  have start : (source.slice 0 6).take 5 = source.slice 0 5 := source.take_slice (by decide) 0
  have read : leading 6 source cursor = .ok (source.slice 0 6) _ := run_leading sound 6
  by_cases whole : 6 ≤ source.size
  · rw [Nat.min_eq_left whole] at length
    match given : source.slice 0 6, length with
    | [first, second, third, fourth, fifth, sixth], _ =>
      rw [given] at read start
      have compared : source.Holds 0 (magic ++ [classByte width]) ↔
          (first = 0x7F ∧ second = 0x45 ∧ third = 0x4C ∧ fourth = 0x46) ∧
            fifth = classByte width := by
        simp [Source.Holds, magic, ← start, and_assoc]
      rw [hasIdentity, run_bind, read, compared]
      simp [run_bind, front, item, magic, whole]
  · have few : (source.slice 0 6).length ≠ 6 := by omega
    simp only [hasIdentity, run_bind, read, if_neg few, whole, false_and, iff_false]
    rintro ⟨moved, ⟨⟩⟩

theorem outcome_isCutOff (cursor : Cursor) :
    outcome isCutOff source cursor = .ok (decide (CutOff source)) := by
  have length : (source.slice 0 6).length = min 6 source.size := source.length_slice 0 6
  have shown : min (source.slice 0 6).length magic.length = min 4 source.size := by
    rw [length, magic, List.length_cons]
    simp only [List.length_cons, List.length_nil]
    omega
  have enough : min 4 source.size ≤ (source.slice 0 6).length := by omega
  have within : min 4 source.size ≤ magic.length := Nat.min_le_left _ _
  have start : (source.slice 0 6).take (min 4 source.size) = source.slice 0 4 := by
    rw [Source.take_slice source (by omega), source.slice_eq_slice_length 0 4,
      Source.length_slice, Nat.sub_zero]
  rw [isCutOff, outcome_bind_of_ok (run_leading sound 6)]
  dsimp only
  rw [shown, outcome_bind_of_ok (run_front enough _ _), outcome_bind_of_ok (run_front within _ _),
    start]
  have compared : ((source.slice 0 4 == magic.take (min 4 source.size)) = true) ↔
      source.slice 0 4 <+: magic := by
    rw [beq_iff_eq, Source.slice_prefix_iff, Nat.sub_zero]
  simp only [outcome, run_pure]
  congr 1
  rw [Bool.eq_iff_iff]
  simp only [Bool.and_eq_true, decide_eq_true_eq, compared, length]
  unfold CutOff
  constructor
  · rintro ⟨⟨nonempty, starts⟩, short⟩
    exact ⟨by omega, by omega, starts⟩
  · rintro ⟨nonempty, short, starts⟩
    exact ⟨⟨by omega, starts⟩, by omega⟩

omit sound in
/-- The beginning of an ELF file is cut off if it is not one itself. -/
theorem cutOff_of_extends {short long : Source} (extended : long.Extends short)
    (nonempty : 0 < short.size) {width : Width}
    (held : long.Holds 0 (magic ++ [classByte width]))
    (misfit : ¬(6 ≤ short.size ∧ short.Holds 0 (magic ++ [classByte width]))) :
    CutOff short := by
  have first : long.slice 0 4 = magic := (Source.holds_append.mp held).1
  have starts := extended.slice_prefix 0 4
  rw [first] at starts
  have few : short.size < 6 := by
    apply Nat.lt_of_not_le
    intro enough
    have same : long.slice 0 5 = short.slice 0 5 := extended.slice_eq (by omega)
    exact misfit ⟨enough, same.symm.trans held⟩
  exact ⟨nonempty, few, starts⟩

end Elf

namespace Pe

variable {source : Source}

/-- Where the DOS header says that the headers are. -/
def headersOffset (source : Source) : Nat :=
  littleEndianValue (source.slice signaturePointer 4)

/-- The headers of a PE file of one width: a DOS header, and where it points the signature,
the COFF header and the first field of the optional header. -/
structure Marked (width : Width) (source : Source) : Prop where
  dos : source.Holds 0 dosMagic
  pointer : signaturePointer + 4 ≤ source.size
  signed : source.Holds (headersOffset source) signature
  whole : headersOffset source + 26 ≤ source.size
  field : UInt16.ofNat (littleEndianValue (source.slice (headersOffset source + 24) 2)) =
    optionalMagic width

/-- The file starts like a PE file and stops before the first field of the optional
header, but not between the DOS header and the signature. -/
def CutOff (source : Source) : Prop :=
  0 < source.size ∧ source.slice 0 2 <+: dosMagic ∧
    (source.size < signaturePointer + 4 ∨
      headersOffset source < source.size ∧ source.slice (headersOffset source) 4 <+: signature ∧
        source.size < headersOffset source + 26)

instance (source : Source) : Decidable (CutOff source) :=
  inferInstanceAs (Decidable (_ ∧ _))

/-- The file has a DOS header and stops before the headers that this points at: a DOS
program, for all that can be told. -/
def IsStub (source : Source) : Prop :=
  signaturePointer + 4 ≤ source.size ∧ source.size ≤ headersOffset source

instance (source : Source) : Decidable (IsStub source) :=
  inferInstanceAs (Decidable (_ ∧ _))

theorem headersOffset_lt (source : Source) : headersOffset source < 2 ^ 32 := by
  have bounded := littleEndianValue_lt (source.slice signaturePointer 4)
  have most : (source.slice signaturePointer 4).length ≤ 4 := by
    rw [Source.length_slice]
    exact Nat.min_le_left _ _
  exact Nat.lt_of_lt_of_le bounded (Nat.pow_le_pow_right (by decide) most)

/-- A DOS header that is whole points at the same offset in every longer file. -/
theorem headersOffset_extends {long short : Source} (extended : long.Extends short)
    (inside : signaturePointer + 4 ≤ short.size) : headersOffset long = headersOffset short := by
  rw [headersOffset, headersOffset, extended.slice_eq inside]

theorem toNat_headersField (source : Source) :
    (UInt32.ofNat (ByteOrder.little.value (source.slice signaturePointer 4))).toNat =
      headersOffset source :=
  UInt32.toNat_ofNat_of_lt' (headersOffset_lt source)

theorem run_optionalHeaderOffset {headers : Nat} (small : headers < 2 ^ 32) (cursor : Cursor) :
    optionalHeaderOffset headers source cursor = .ok (headers + 24) cursor := by
  have first : headers + 4 < 2 ^ 64 := by omega
  have second : headers + 4 + coffHeaderSize < 2 ^ 64 := by
    rw [coffHeaderSize]
    omega
  rw [optionalHeaderOffset, run_bind, run_sum first]
  exact run_sum second

theorem optionalHeaderOffset_bind {α : Type} {headers : Nat} (small : headers < 2 ^ 32)
    (next : Nat → Scan α) (cursor : Cursor) :
    (optionalHeaderOffset headers >>= next) source cursor = next (headers + 24) source cursor := by
  rw [run_bind, run_optionalHeaderOffset small]

/-- Whether a file of this size stops inside the headers that its DOS header points at. -/
def endsInHeaders (size headers : Nat) : Scan Bool := do
  if size ≤ headers then
    return false
  seek headers
  let available := min (← difference size headers) 4
  let found ← (List.range available).mapM fun _ => u8
  let firstField ← optionalHeaderOffset headers
  return found == (← front signature available) && size < (← sum firstField 2)

/-- What a file starts with is not ruled out to be the start of a DOS header. -/
theorem native_iff : ((source.slice 0 2).isEmpty || !(source.slice 0 2).isPrefixOf dosMagic) =
    false ↔ 0 < source.size ∧ source.slice 0 2 <+: dosMagic := by
  have length : (source.slice 0 2).length = min 2 source.size := source.length_slice 0 2
  have nonempty : 0 < min 2 source.size ↔ 0 < source.size := by omega
  rw [Bool.or_eq_false_iff, Bool.not_eq_false', List.isPrefixOf_iff_prefix,
    List.isEmpty_eq_false_iff, ← List.length_pos_iff, length, nonempty]

section Reading

variable (sound : source.fault = none)
include sound

/-- The optional header is located where the marks of a PE file lead to it. -/
theorem locateOptionalHeader_ok {cursor moved : Cursor} {found : Nat × UInt16} :
    locateOptionalHeader source cursor = .ok found moved ↔
      source.Holds 0 dosMagic ∧ signaturePointer + 4 ≤ source.size ∧
        source.Holds (headersOffset source) signature ∧
        headersOffset source + 26 ≤ source.size ∧
        (headersOffset source + 24,
          UInt16.ofNat (littleEndianValue (source.slice (headersOffset source + 24) 2))) = found ∧
        { position := headersOffset source + 26, order := .little } = moved := by
  have small := headersOffset_lt source
  have value := toNat_headersField source
  have two := ReadsField.take sound (show 0 < 2 by decide)
  have four := ReadsField.take sound (show 0 < 4 by decide)
  rw [locateOptionalHeader, run_bind, run_setOrder]
  simp only [two.at_iff, four.at_iff, refuseIf_bind_ok, (ReadsField.u32 sound).at_iff, value,
    optionalHeaderOffset_bind small, (ReadsField.u16 sound).at_iff, run_pure,
    EStateM.Result.ok.injEq, Decidable.not_not]
  constructor
  · rintro ⟨_, dos, pointer, _, signed, whole, located, advanced⟩
    exact ⟨dos, pointer, signed, whole, located, advanced⟩
  · rintro ⟨dos, pointer, signed, whole, located, advanced⟩
    have dosInside := dos.inside (List.cons_ne_nil _ _)
    have signedInside := signed.inside (List.cons_ne_nil _ _)
    exact ⟨dosInside, dos, pointer, signedInside, signed, whole, located, advanced⟩

theorem hasIdentity_iff {width : Width} {cursor : Cursor} :
    (∃ moved, hasIdentity width source cursor = .ok true moved) ↔ Marked width source := by
  constructor
  · rintro ⟨moved, identified⟩
    obtain ⟨found, between, located, identified⟩ := bind_ok.mp identified
    simp only [run_pure, EStateM.Result.ok.injEq, beq_iff_eq] at identified
    obtain ⟨dos, pointer, signed, whole, rfl, _⟩ := (locateOptionalHeader_ok sound).mp located
    exact ⟨dos, pointer, signed, whole, identified.1⟩
  · rintro ⟨dos, pointer, signed, whole, field⟩
    have located : locateOptionalHeader source cursor = .ok _ _ :=
      (locateOptionalHeader_ok sound).mpr ⟨dos, pointer, signed, whole, rfl, rfl⟩
    refine ⟨{ position := headersOffset source + 26 }, bind_ok.mpr ⟨_, _, located, ?_⟩⟩
    simp [field]

theorem outcome_endsInHeaders {headers : Nat} (small : headers < 2 ^ 32) (cursor : Cursor) :
    outcome (endsInHeaders source.size headers) source cursor =
      .ok (decide (headers < source.size ∧ source.slice headers 4 <+: signature ∧
        source.size < headers + 26)) := by
  unfold endsInHeaders
  by_cases before : source.size ≤ headers
  · simp only [if_pos before, outcome, run_pure, Nat.not_lt.mpr before, false_and, decide_false]
  have beyond : headers < source.size := Nat.lt_of_not_le before
  have remaining (start : Cursor) :
      difference source.size headers source start = .ok (source.size - headers) start := by
    rw [difference, if_pos (Nat.le_of_lt beyond)]
    rfl
  have enough : min (source.size - headers) 4 ≤ signature.length := Nat.min_le_right _ _
  have within : headers + (List.range (min (source.size - headers) 4)).length ≤ source.size := by
    rw [List.length_range]
    omega
  have ended : headers + 24 + 2 < 2 ^ 64 := by omega
  rw [if_neg before, outcome_bind_of_ok (seek_of_inside (Nat.le_of_lt beyond) _),
    outcome_bind_of_ok (remaining _), outcome_bind_of_ok (run_mapM_u8 sound _ within),
    outcome_bind_of_ok (run_optionalHeaderOffset small _),
    outcome_bind_of_ok (run_front enough _ _), outcome_bind_of_ok (run_sum ended)]
  have compared : (source.slice headers (min (source.size - headers) 4) ==
      signature.take (min (source.size - headers) 4)) = true ↔
        source.slice headers 4 <+: signature := by
    rw [beq_iff_eq, Source.slice_prefix_iff, Nat.min_comm 4,
      source.slice_eq_slice_length headers 4, Source.length_slice, Nat.min_comm 4]
  simp only [outcome, run_pure, List.length_range]
  congr 1
  rw [Bool.eq_iff_iff]
  simp only [Bool.and_eq_true, decide_eq_true_eq, compared, beyond, true_and]

/-- A file with a DOS header is cut off when it stops inside the headers that this points
at. -/
theorem outcome_isCutOff (cursor : Cursor) :
    outcome isCutOff source cursor = .ok (decide (CutOff source)) := by
  rw [isCutOff, outcome_bind_of_ok (run_leading sound 2)]
  by_cases starts : 0 < source.size ∧ source.slice 0 2 <+: dosMagic
  case neg =>
    have foreign : ((source.slice 0 2).isEmpty || !(source.slice 0 2).isPrefixOf dosMagic) =
        true := (Bool.not_eq_false _).mp (mt native_iff.mp starts)
    have uncut : ¬CutOff source := fun cut => starts ⟨cut.1, cut.2.1⟩
    simp only [foreign, if_true, outcome, run_pure, uncut, decide_false]
  simp only [native_iff.mpr starts, if_neg Bool.false_ne_true, outcome_bind_of_ok (run_size _ _)]
  by_cases pointer : source.size < signaturePointer + 4
  · have cut : CutOff source := ⟨starts.1, starts.2, .inl pointer⟩
    simp only [if_pos pointer, outcome, run_pure, cut, decide_true]
  -- The DOS header is whole: what is left depends on the headers that it points at.
  have inside : signaturePointer + 4 ≤ source.size := Nat.le_of_not_lt pointer
  have small := headersOffset_lt source
  have pointed := (ReadsField.u32 sound { position := signaturePointer, order := .little } _ _).mpr
    ⟨inside, rfl, rfl⟩
  have value := toNat_headersField source
  rw [if_neg pointer, outcome_bind_of_ok (run_setOrder _ _ _),
    outcome_bind_of_ok (seek_of_inside (Nat.le_of_add_right_le inside) _),
    outcome_bind_of_ok pointed]
  have rest := outcome_endsInHeaders sound small
    { position := signaturePointer + 4, order := .little }
  have cut : CutOff source ↔ headersOffset source < source.size ∧
      source.slice (headersOffset source) 4 <+: signature ∧
        source.size < headersOffset source + 26 := by
    simp only [CutOff, starts.1, starts.2, pointer, true_and, false_or]
  simp only [value, cut]
  exact rest

end Reading

/-- The beginning of a PE file is cut off if it is neither a PE file itself nor a DOS
program. -/
theorem cutOff_of_extends {short long : Source} (extended : long.Extends short)
    (nonempty : 0 < short.size) {width : Width} (marked : Marked width long)
    (misfit : ¬Marked width short) (headed : ¬IsStub short) : CutOff short := by
  have starts := extended.slice_prefix 0 2
  have dos : long.slice 0 2 = dosMagic := marked.dos
  rw [dos] at starts
  by_cases pointer : short.size < signaturePointer + 4
  · exact ⟨nonempty, starts, .inl pointer⟩
  have inside : signaturePointer + 4 ≤ short.size := Nat.le_of_not_lt pointer
  have sameHeaders : headersOffset long = headersOffset short :=
    headersOffset_extends extended inside
  have beyond : headersOffset short < short.size :=
    Nat.lt_of_not_le fun before => headed ⟨inside, before⟩
  obtain ⟨longDos, _, longSigned, _, longField⟩ := marked
  rw [sameHeaders] at longSigned longField
  have signs := extended.slice_prefix (headersOffset short) 4
  have signed : long.slice (headersOffset short) 4 = signature := longSigned
  rw [signed] at signs
  have ends : short.size < headersOffset short + 26 := by
    apply Nat.lt_of_not_le
    intro whole
    have dosInside : 0 + 2 ≤ short.size := by
      rw [signaturePointer] at inside
      omega
    have signedInside : headersOffset short + 4 ≤ short.size := by omega
    have fieldInside : headersOffset short + 24 + 2 ≤ short.size := by omega
    rw [extended.slice_eq fieldInside] at longField
    exact misfit
      { dos := (extended.slice_eq dosInside).symm.trans longDos
        pointer := inside
        signed := (extended.slice_eq signedInside).symm.trans longSigned
        whole := whole
        field := longField }
  exact ⟨nonempty, starts, .inr ⟨beyond, signs, ends⟩⟩

end Pe

namespace MachO

variable {source : Source}

/-- The file stops inside a magic number. -/
def CutOff (source : Source) : Prop :=
  0 < source.size ∧ source.size < 4 ∧ ∃ bytes ∈ magicBytes, source.slice 0 4 <+: bytes

instance (source : Source) : Decidable (CutOff source) :=
  inferInstanceAs (Decidable (_ ∧ _))

/-- Four bytes that read as a magic number, in one byte order or the other, are those of
a magic number. -/
theorem mem_magicBytes {width : Width} {bytes : List UInt8} (four : bytes.length = 4)
    (isMagic : UInt32.ofNat (littleEndianValue bytes) = magic width ∨
      UInt32.ofNat (littleEndianValue bytes) = swappedMagic width) : bytes ∈ magicBytes := by
  have small := littleEndianValue_lt bytes
  rw [four] at small
  have value : (UInt32.ofNat (littleEndianValue bytes)).toNat = littleEndianValue bytes :=
    UInt32.toNat_ofNat_of_lt' small
  have digits := littleEndianBytes_littleEndianValue bytes
  rw [four, ← value] at digits
  rw [← digits]
  rcases isMagic with same | same
  · rw [same]
    cases width <;> decide
  · rw [same]
    cases width <;> decide

section Reading

variable (sound : source.fault = none)
include sound

/-- A file that can be read is a Mach-O file by its first four bytes. -/
theorem hasIdentity_iff {width : Width} {cursor : Cursor} :
    (∃ moved, hasIdentity width source cursor = .ok true moved) ↔
      4 ≤ source.size ∧
        (UInt32.ofNat (littleEndianValue (source.slice 0 4)) = magic width ∨
          UInt32.ofNat (littleEndianValue (source.slice 0 4)) = swappedMagic width) := by
  constructor
  · rintro ⟨moved, identified⟩
    obtain ⟨found, read, isMagic⟩ := hasIdentity_ok identified
    obtain ⟨_, ordered, chosen, read⟩ := bind_ok.mp read
    cases chosen
    obtain ⟨_, start, sought, read⟩ := bind_ok.mp read
    obtain ⟨_, rfl⟩ := seek_ok.mp sought
    obtain ⟨inside, rfl, _⟩ := (ReadsField.u32 sound _ _ _).mp read
    dsimp only at inside
    exact ⟨by omega, isMagic⟩
  · rintro ⟨inside, isMagic⟩
    have yields : YieldsFrom source cursor .little readMagic
        (UInt32.ofNat (littleEndianValue (source.slice 0 4))) := by
      apply YieldsFrom.afterSetOrder
      apply YieldsFrom.afterSeek (Nat.zero_le _)
      exact ⟨_, (ReadsField.u32 sound _ _ _).mpr ⟨by dsimp only; omega, rfl, rfl⟩⟩
    obtain ⟨moved, read⟩ := yields
    refine ⟨{ position := moved }, bind_ok.mpr ⟨_, _, read, ?_⟩⟩
    simp [isMagic]

theorem outcome_isCutOff (cursor : Cursor) :
    outcome isCutOff source cursor = .ok (decide (CutOff source)) := by
  have length : (source.slice 0 4).length = min 4 source.size := source.length_slice 0 4
  have nonempty : 0 < min 4 source.size ↔ 0 < source.size := by omega
  have few : min 4 source.size ≠ 4 ↔ source.size < 4 := by omega
  rw [isCutOff, outcome_bind_of_ok (run_leading sound 4)]
  simp only [outcome, run_pure]
  congr 1
  rw [Bool.eq_iff_iff]
  simp only [Bool.and_eq_true, Bool.not_eq_true', List.isEmpty_eq_false_iff,
    ← List.length_pos_iff, bne_iff_ne, length, nonempty, few, List.any_eq_true,
    List.isPrefixOf_iff_prefix, decide_eq_true_eq]
  unfold CutOff
  rw [and_assoc]

end Reading

/-- The beginning of a Mach-O file is cut off if it is not one itself. -/
theorem cutOff_of_extends {short long : Source} (extended : long.Extends short)
    (nonempty : 0 < short.size) {width : Width}
    (whole : 4 ≤ long.size)
    (isMagic : UInt32.ofNat (littleEndianValue (long.slice 0 4)) = magic width ∨
      UInt32.ofNat (littleEndianValue (long.slice 0 4)) = swappedMagic width)
    (few : short.size < 4) : CutOff short := by
  have length : (long.slice 0 4).length = 4 := by
    rw [Source.length_slice]
    omega
  exact ⟨nonempty, few, long.slice 0 4, mem_magicBytes length isMagic, extended.slice_prefix 0 4⟩

end MachO

namespace Format

variable {source short long : Source}

/-- The file starts like one of the formats and stops too early to tell. -/
def CutOff (source : Source) : Prop :=
  Elf.CutOff source ∨ Pe.CutOff source ∨ MachO.CutOff source

instance (source : Source) : Decidable (CutOff source) :=
  inferInstanceAs (Decidable (_ ∨ _))

theorem outcome_isCutOff (sound : source.fault = none) (cursor : Cursor) :
    outcome isCutOff source cursor = .ok (decide (CutOff source)) := by
  obtain ⟨afterElf, elf⟩ := exists_of_outcome_ok (Elf.outcome_isCutOff sound cursor)
  rw [isCutOff, outcome_bind_of_ok elf]
  by_cases isElf : Elf.CutOff source
  · have cut : CutOff source := .inl isElf
    simp only [isElf, cut, decide_true, if_true, outcome, run_pure]
  obtain ⟨afterPe, pe⟩ := exists_of_outcome_ok (Pe.outcome_isCutOff sound afterElf)
  simp only [isElf, decide_false, if_neg Bool.false_ne_true, outcome_bind_of_ok pe]
  by_cases isPe : Pe.CutOff source
  · have cut : CutOff source := .inr (.inl isPe)
    simp only [isPe, cut, decide_true, if_true, outcome, run_pure]
  have last : CutOff source ↔ MachO.CutOff source := by
    simp only [CutOff, isElf, isPe, false_or]
  simp only [isPe, decide_false, if_neg Bool.false_ne_true, MachO.outcome_isCutOff sound, last]

/-- A file that no format fits is truncated when it is cut off, and of no format
otherwise. -/
theorem outcome_unrecognized (sound : source.fault = none) (cursor : Cursor) :
    outcome unrecognized source cursor =
      .ok (if CutOff source then .malformedBinary .truncatedHeader else .unsupportedFormat) := by
  have recovered : outcome (recover isCutOff false) source cursor =
      .ok (decide (CutOff source)) := by
    rw [outcome_recover, outcome_isCutOff sound]
  obtain ⟨moved, recovered⟩ := exists_of_outcome_ok recovered
  rw [unrecognized, outcome_bind_of_ok recovered]
  by_cases cut : CutOff source
  · simp only [cut, decide_true, if_true, outcome, run_pure]
  · simp only [cut, decide_false, if_neg Bool.false_ne_true, if_false, outcome, run_pure]

theorem fits_iff {format : Format} :
    format.fits source = true ↔ ∃ moved, format.hasIdentity source {} = .ok true moved :=
  ⟨hasIdentity_of_fits, fun ⟨_, identified⟩ => fits_of_hasIdentity identified⟩

/-- The beginning of a file of a format is of this format, or is cut off, or is the DOS
program of a PE file. -/
theorem cutOff_of_extends (extended : long.Extends short) (sound : short.fault = none)
    (nonempty : 0 < short.size) {format : Format} (fitting : format.fits long = true)
    (misfit : ¬format.fits short = true)
    (headed : ¬((∃ width, format = .pe width) ∧ Pe.IsStub short)) : CutOff short := by
  rw [fits_iff] at fitting misfit
  cases format with
  | elf width =>
      obtain ⟨_, held⟩ := (Elf.hasIdentity_iff extended.sound).mp fitting
      have unlike := mt (Elf.hasIdentity_iff sound).mpr misfit
      exact .inl (Elf.cutOff_of_extends extended nonempty held unlike)
  | pe width =>
      have marked := (Pe.hasIdentity_iff extended.sound).mp fitting
      have unmarked := mt (Pe.hasIdentity_iff sound).mpr misfit
      have notStub : ¬Pe.IsStub short := fun stub => headed ⟨⟨width, rfl⟩, stub⟩
      exact .inr (.inl (Pe.cutOff_of_extends extended nonempty marked unmarked notStub))
  | machO width =>
      obtain ⟨whole, isMagic⟩ := (MachO.hasIdentity_iff extended.sound).mp fitting
      have few : short.size < 4 := by
        apply Nat.lt_of_not_le
        intro enough
        have same : long.slice 0 4 = short.slice 0 4 := extended.slice_eq (by omega)
        rw [same] at isMagic
        exact misfit ((MachO.hasIdentity_iff sound).mpr ⟨enough, isMagic⟩)
      exact .inr (.inr (MachO.cutOff_of_extends extended nonempty whole isMagic few))

/-- A DOS program is not taken for the beginning of a library. -/
theorem not_cutOff_of_isStub (stub : Pe.IsStub source) : ¬CutOff source := by
  obtain ⟨header, before⟩ := stub
  rw [Pe.signaturePointer] at header
  rintro (⟨_, few, _⟩ | ⟨_, _, short | ⟨beyond, _⟩⟩ | ⟨_, few, _⟩)
  · omega
  · rw [Pe.signaturePointer] at short
    omega
  · omega
  · omega

theorem not_fits_of_isStub (sound : source.fault = none) (stub : Pe.IsStub source)
    (width : Width) : ¬(Format.pe width).fits source = true := by
  intro fitting
  have marked := (Pe.hasIdentity_iff sound).mp (fits_iff.mp fitting)
  have whole := marked.whole
  have before := stub.2
  omega

end Format

end SharedObject
