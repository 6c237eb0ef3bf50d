import SharedObject.Proofs.Format.CutOff
import SharedObject.Proofs.Scan.Reaching

/-!
# Detecting formats through a fault

A format is detected by the bytes that tell it from others.  A fault behind these bytes goes
unnoticed; with a fault in front of their end the file is taken to be of no format, and not to
be cut off either.
-/

namespace SharedObject

open Scan

variable {source faulty intact : Source} {text : String} {width : Width}

namespace Elf

theorem reaches_hasIdentity (whole : 6 ≤ source.size)
    (held : source.Holds 0 (magic ++ [classByte width])) (cursor : Cursor) :
    ∃ moved, Reaches source cursor (hasIdentity width) 6 true moved := by
  have length : (source.slice 0 6).length = 6 := by
    rw [Source.length_slice]
    omega
  have start : (source.slice 0 6).take 5 = magic ++ [classByte width] :=
    (source.take_slice (by decide) 0).trans held
  refine ⟨{ cursor with position := 6 }, (Reaches.leading (by decide) whole).followed ?_⟩
  match source.slice 0 6, length, start with
  | [first, second, third, fourth, fifth, sixth], _, start =>
    have same : (first = 0x7F ∧ second = 0x45 ∧ third = 0x4C ∧ fourth = 0x46) ∧
        fifth = classByte width := by
      simpa [magic, and_assoc] using start
    simp [front, item, magic, run_bind, same]

theorem survives_isCutOff (damaged : faulty.Damages intact text) :
    Survives faulty intact text isCutOff := by
  apply (Survives.leading damaged 6).bind
  intro start
  have regular : Regular (do
      let shown := min start.length magic.length
      return 0 < shown && (← front start shown) == (← front magic shown) && start.length < 6) :=
    (Regular.front _ _).bind fun _ => (Regular.front _ _).bind fun _ => .pure _
  exact regular.survives damaged

end Elf

namespace Pe

/-- The marks of a PE file are there whether or not they can be read. -/
theorem Marked.of_damages (marked : Marked width intact) (damaged : faulty.Damages intact text) :
    Marked width faulty := by
  obtain ⟨dos, pointer, signed, whole, field⟩ := marked
  constructor <;>
    simpa only [Source.Holds, headersOffset, damaged.slice_eq, damaged.size_eq]

theorem reaches_hasIdentity (marked : Marked width source) (cursor : Cursor) :
    ∃ moved, Reaches source cursor (hasIdentity width)
      (max (signaturePointer + 4) (headersOffset source + 26)) true moved := by
  obtain ⟨dos, pointer, signed, whole, field⟩ := marked
  have small := headersOffset_lt source
  have value := toNat_headersField source
  have reach : max (signaturePointer + 4) (headersOffset source + 26) =
      max (0 + 2) (max (signaturePointer + 4)
        (max (headersOffset source + 4) (headersOffset source + 24 + 2))) := by
    rw [signaturePointer]
    omega
  have located : Reaches source cursor locateOptionalHeader
      (max (0 + 2) (max (signaturePointer + 4)
        (max (headersOffset source + 4) (headersOffset source + 24 + 2))))
      (headersOffset source + 24,
        UInt16.ofNat (littleEndianValue (source.slice (headersOffset source + 24) 2)))
      { position := headersOffset source + 26, order := .little } := by
    have dosInside := dos.inside (List.cons_ne_nil _ _)
    have signedInside := signed.inside (List.cons_ne_nil _ _)
    apply Reaches.after (run_setOrder .little source cursor)
    apply Reaches.afterSeek (Nat.zero_le _)
    apply (Reaches.take (by decide) dosInside).bind
    apply Reaches.afterRefuseIf (not_not.mpr dos)
    apply Reaches.afterSeek (by omega)
    apply (Reaches.u32 pointer).bind
    simp only [value]
    apply Reaches.afterSeek (by omega)
    apply (Reaches.take (by decide) signedInside).bind
    apply Reaches.afterRefuseIf (not_not.mpr signed)
    apply Reaches.after (run_optionalHeaderOffset small _)
    apply Reaches.afterSeek (by omega)
    exact (Reaches.u16 whole).map _
  have identified := located.map fun found => found.2 == optionalMagic width
  simp only [field, beq_self_eq_true] at identified
  rw [reach]
  exact ⟨_, identified⟩

theorem regular_endsInHeaders (size headers : Nat) : Regular (endsInHeaders size headers) := by
  unfold endsInHeaders
  split
  · exact .pure false
  apply (Regular.seek _).bind
  intro _
  apply (Regular.difference _ _).bind
  intro remaining
  apply (Regular.mapM (fun _ => Regular.u8) _).bind
  intro found
  apply ((Regular.sum _ _).bind fun _ => Regular.sum _ _).bind
  intro firstField
  exact (Regular.front _ _).bind fun _ => (Regular.sum _ _).bind fun _ => .pure _

theorem survives_isCutOff (damaged : faulty.Damages intact text) :
    Survives faulty intact text isCutOff := by
  apply (Survives.leading damaged 2).bind
  intro start
  dsimp only
  split
  · exact .pure false
  apply (Survives.size damaged).bind
  intro size
  split
  · exact .pure true
  have regular : Regular (do
      setOrder .little
      seek signaturePointer
      let headers := (← u32).toNat
      endsInHeaders size headers) :=
    (Regular.setOrder _).bind fun _ => (Regular.seek _).bind fun _ => Regular.u32.bind fun _ =>
      regular_endsInHeaders _ _
  exact regular.survives damaged

end Pe

namespace MachO

theorem reaches_hasIdentity (whole : 4 ≤ source.size)
    (isMagic : UInt32.ofNat (littleEndianValue (source.slice 0 4)) = magic width ∨
      UInt32.ofNat (littleEndianValue (source.slice 0 4)) = swappedMagic width) (cursor : Cursor) :
    ∃ moved, Reaches source cursor (hasIdentity width) 4 true moved := by
  have read : Reaches source cursor readMagic 4
      (UInt32.ofNat (littleEndianValue (source.slice 0 4))) ⟨4, .little⟩ := by
    apply Reaches.after (run_setOrder .little source cursor)
    apply Reaches.afterSeek (Nat.zero_le _)
    exact Reaches.u32 whole
  have identified := read.map fun found => found == magic width || found == swappedMagic width
  have isIdentity : (UInt32.ofNat (littleEndianValue (source.slice 0 4)) == magic width ||
      UInt32.ofNat (littleEndianValue (source.slice 0 4)) == swappedMagic width) = true := by
    simpa using isMagic
  rw [isIdentity] at identified
  exact ⟨_, identified⟩

theorem survives_isCutOff (damaged : faulty.Damages intact text) :
    Survives faulty intact text isCutOff :=
  (Survives.leading damaged 4).bind fun _ => .pure _

end MachO

namespace Format

/-- Where the bytes end that tell a file of a format from others. -/
def identityEnd (source : Source) : Format → Nat
  | .elf _ => 6
  | .pe _ => max (Pe.signaturePointer + 4) (Pe.headersOffset source + 26)
  | .machO _ => 4

/-- The identity of a file reaches as far as the bytes do that tell its format. -/
theorem reaches_hasIdentity (damaged : faulty.Damages intact text) {format : Format}
    (fitting : format.fits intact = true) (cursor : Cursor) :
    ∃ moved, Reaches faulty cursor format.hasIdentity (format.identityEnd faulty) true moved := by
  have sound := damaged.sound
  have identified := fits_iff.mp fitting
  cases format with
  | elf width =>
      obtain ⟨whole, held⟩ := (Elf.hasIdentity_iff sound).mp identified
      rw [Source.Holds, ← damaged.slice_eq] at held
      rw [← damaged.size_eq] at whole
      exact Elf.reaches_hasIdentity whole held cursor
  | pe width =>
      have marked := (Pe.hasIdentity_iff sound).mp identified
      exact Pe.reaches_hasIdentity (marked.of_damages damaged) cursor
  | machO width =>
      obtain ⟨whole, isMagic⟩ := (MachO.hasIdentity_iff sound).mp identified
      rw [← damaged.slice_eq] at isMagic
      rw [← damaged.size_eq] at whole
      exact MachO.reaches_hasIdentity whole isMagic cursor

/-- A file of a format is taken for one through a fault exactly when the fault is not in front
of the end of these bytes. -/
theorem fits_faulty_iff (damaged : faulty.Damages intact text) {format : Format}
    (fitting : format.fits intact = true) {fault : ReadFault}
    (faultAt : faulty.fault = some fault) :
    format.fits faulty = true ↔ format.identityEnd faulty ≤ fault.position := by
  obtain ⟨moved, reaches⟩ := reaches_hasIdentity damaged fitting {}
  constructor
  · intro fits
    apply Nat.le_of_not_lt
    intro early
    obtain ⟨_, identified⟩ := fits_iff.mp fits
    have stopped := reaches.stops fault faultAt early
    rw [outcome_of_ok identified] at stopped
    cases stopped
  · intro behind
    apply fits_of_hasIdentity
    apply reaches.answers
    intro other same
    cases faultAt.symm.trans same
    exact behind

theorem survives_isCutOff (damaged : faulty.Damages intact text) :
    Survives faulty intact text isCutOff := by
  apply (Elf.survives_isCutOff damaged).bind
  intro elf
  split
  · exact .pure true
  apply (Pe.survives_isCutOff damaged).bind
  intro pe
  split
  · exact .pure true
  · exact MachO.survives_isCutOff damaged

theorem firstByte_of_starts {count : Nat} {byte : UInt8} {bytes : List UInt8}
    (nonempty : 0 < source.size) (positive : 0 < count)
    (starts : source.slice 0 count <+: byte :: bytes) : source.bytes[0]? = some byte := by
  have length := source.length_slice 0 count
  obtain ⟨first, others, slice⟩ : ∃ first others, source.slice 0 count = first :: others := by
    apply List.exists_cons_of_length_pos
    omega
  rw [slice, List.cons_prefix_cons] at starts
  rw [← starts.1]
  exact Source.getElem?_of_slice_eq_cons slice.symm

/-- A file of a format is not cut off. -/
theorem not_cutOff_of_fits (sound : source.fault = none) {format : Format}
    (fitting : format.fits source = true) : ¬CutOff source := by
  obtain ⟨byte, among, first⟩ := firstByte_of_fits fitting
  have identified := fits_iff.mp fitting
  have notElf (elf : Elf.CutOff source) : byte = 0x7F := by
    obtain ⟨nonempty, _, starts⟩ := elf
    exact Option.some.inj (first.symm.trans (firstByte_of_starts nonempty (by decide) starts))
  have notPe (pe : Pe.CutOff source) : byte = 0x4D := by
    obtain ⟨nonempty, starts, _⟩ := pe
    exact Option.some.inj (first.symm.trans (firstByte_of_starts nonempty (by decide) starts))
  cases format with
  | elf width =>
      have whole := ((Elf.hasIdentity_iff sound).mp identified).1
      cases List.mem_singleton.mp among
      rintro (⟨_, few, _⟩ | pe | ⟨_, few, _⟩)
      · omega
      · cases notPe pe
      · omega
  | pe width =>
      obtain ⟨_, pointer, _, whole, _⟩ := (Pe.hasIdentity_iff sound).mp identified
      rw [Pe.signaturePointer] at pointer
      rintro (⟨_, few, _⟩ | ⟨_, _, few | ⟨_, _, few⟩⟩ | ⟨_, few, _⟩)
      · omega
      · rw [Pe.signaturePointer] at few
        omega
      · omega
      · omega
  | machO width =>
      have whole := ((MachO.hasIdentity_iff sound).mp identified).1
      rintro (elf | pe | ⟨_, few, _⟩)
      · rw [notElf elf] at among
        simp [firstBytes] at among
      · rw [notPe pe] at among
        simp [firstBytes] at among
      · omega

/-- With a fault in front of the end of the bytes that tell its format, a file is of no
format. -/
theorem outcome_unrecognized_of_fault (damaged : faulty.Damages intact text) {format : Format}
    (fitting : format.fits intact = true) (cursor : Cursor) :
    outcome unrecognized faulty cursor = .ok .unsupportedFormat := by
  have uncut := outcome_isCutOff damaged.sound cursor
  rw [decide_eq_false (not_cutOff_of_fits damaged.sound fitting)] at uncut
  have recovered : outcome (recover isCutOff false) faulty cursor = .ok false := by
    rw [outcome_recover]
    rcases (survives_isCutOff damaged).outcome_cases cursor with same | stopped
    · rw [same, uncut]
    · rw [stopped]
  obtain ⟨moved, recovered⟩ := exists_of_outcome_ok recovered
  rw [unrecognized, outcome_bind_of_ok recovered]
  rfl

end Format

end SharedObject
