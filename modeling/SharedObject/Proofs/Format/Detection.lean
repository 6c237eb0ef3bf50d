import SharedObject.Format
import SharedObject.Proofs.Elf.Defects
import SharedObject.Proofs.Elf.Regularity
import SharedObject.Proofs.MachO.Defects
import SharedObject.Proofs.MachO.Regularity
import SharedObject.Proofs.Pe.Defects
import SharedObject.Proofs.Pe.Regularity
import SharedObject.Proofs.Scan.Extension

/-!
# Telling formats apart

Whether a file is of a format depends on its bytes alone, not on the probes made
before.  No file is of two formats, and what a file is of, every longer file is of.
-/

namespace SharedObject

open Scan

variable {source : Source}

namespace Elf

/-- What is known of the start of an ELF file of one class. -/
theorem start_of_hasIdentity {width : Width} {cursor moved : Cursor}
    (identified : hasIdentity width source cursor = .ok true moved) :
    source.bytes[0]? = some 0x7F ∧ source.bytes[4]? = some (classByte width) := by
  obtain ⟨start, between, given, identified⟩ := bind_ok.mp identified
  obtain ⟨content, _⟩ := leading_ok given
  split at identified
  · rename_i whole
    rw [whole] at content
    have byteAt : ∀ index, index < 6 → start[index]? = source.bytes[index]? := by
      intro index indexLt
      rw [content, Source.getElem?_slice_of_lt source 0 indexLt, Nat.zero_add]
    match start, whole with
    | [first, second, third, fourth, fifth, sixth], _ =>
      rw [← byteAt 0 (by decide), ← byteAt 4 (by decide)]
      have compared : ((first = 0x7F ∧ second = 0x45 ∧ third = 0x4C ∧ fourth = 0x46) ∧
          fifth = classByte width) ∧ between = moved := by
        simpa [front, item, magic] using identified
      simp [compared.1.1.1, compared.1.2]
  · cases identified

theorem width_unique {first second : Width} {cursor moved other : Cursor}
    (asFirst : hasIdentity first source cursor = .ok true moved)
    (asSecond : hasIdentity second source cursor = .ok true other) : first = second := by
  have same := (start_of_hasIdentity asFirst).2.symm.trans (start_of_hasIdentity asSecond).2
  cases first <;> cases second <;> first | rfl | cases same

theorem hasIdentity_extends {long short : Source} (extended : long.Extends short) {width : Width}
    {cursor moved : Cursor} (identified : hasIdentity width short cursor = .ok true moved) :
    hasIdentity width long cursor = .ok true moved := by
  obtain ⟨start, between, given, identified⟩ := bind_ok.mp identified
  split at identified
  · rename_i whole
    refine bind_ok.mpr ⟨start, between, leading_extends extended whole given, ?_⟩
    rw [if_pos whole]
    have regular : Regular (do
        return (← front start 4) == magic && (← item start.toArray 4) == classByte width) :=
      (Regular.front _ _).bind fun _ => (Regular.item _ _).bind fun _ => .pure _
    exact regular.persists extended _ _ _ identified
  · cases identified

end Elf

namespace Pe

/-- What is known of the start of a PE file. -/
theorem start_of_hasIdentity {width : Width} {cursor moved : Cursor}
    (identified : hasIdentity width source cursor = .ok true moved) :
    source.bytes[0]? = some 0x4D := by
  obtain ⟨_, _, located, _⟩ := bind_ok.mp identified
  obtain ⟨_, ordered, _, located⟩ := bind_ok.mp located
  obtain ⟨_, start, sought, located⟩ := bind_ok.mp located
  obtain ⟨_, rfl⟩ := seek_ok.mp sought
  obtain ⟨bytes, _, taken, located⟩ := bind_ok.mp located
  obtain ⟨_, _, passed, _⟩ := bind_ok.mp located
  obtain ⟨isMagic, _⟩ := refuseIf_ok.mp passed
  obtain ⟨reads, _⟩ := take_ok taken
  have content := reads.content
  rw [Decidable.not_not.mp isMagic] at content
  exact Source.getElem?_of_slice_eq_cons content

theorem width_unique {first second : Width} {cursor moved other : Cursor}
    (asFirst : hasIdentity first source cursor = .ok true moved)
    (asSecond : hasIdentity second source cursor = .ok true other) : first = second := by
  obtain ⟨located, _, here, asFirst⟩ := bind_ok.mp asFirst
  obtain ⟨_, _, there, asSecond⟩ := bind_ok.mp asSecond
  rw [here] at there
  cases there
  simp only [run_pure, EStateM.Result.ok.injEq, beq_iff_eq] at asFirst asSecond
  have same := asFirst.1.symm.trans asSecond.1
  cases first <;> cases second <;> first | rfl | cases same

end Pe

namespace MachO

/-- The least significant byte of the magic number is the first of the file. -/
theorem start_of_readMagic {cursor moved : Cursor} {found : UInt32}
    (read : readMagic source cursor = .ok found moved) :
    source.bytes[0]? = some found.toUInt8 := by
  obtain ⟨_, ordered, sameOrder, read⟩ := bind_ok.mp read
  cases sameOrder
  obtain ⟨_, start, sought, read⟩ := bind_ok.mp read
  obtain ⟨_, rfl⟩ := seek_ok.mp sought
  obtain ⟨value, _, read, given⟩ := bind_ok.mp read
  cases given
  obtain ⟨bytes, between, taken, given⟩ := bind_ok.mp read
  obtain ⟨reads, length⟩ := take_ok taken
  have advanced := reads.advanced
  subst advanced
  cases given
  cases bytes with
  | nil => cases length
  | cons byte bytes =>
      rw [Source.getElem?_of_slice_eq_cons reads.content]
      have byteLt := byte.toNat_lt
      congr 1
      apply UInt8.toNat_inj.mp
      simp only [ByteOrder.value, littleEndianValue, UInt32.toNat_toUInt8, UInt32.toNat_ofNat']
      omega

theorem hasIdentity_ok {width : Width} {cursor moved : Cursor}
    (identified : hasIdentity width source cursor = .ok true moved) :
    ∃ found, readMagic source cursor = .ok found moved ∧
      (found = magic width ∨ found = swappedMagic width) := by
  obtain ⟨found, between, read, identified⟩ := bind_ok.mp identified
  simp only [run_pure, EStateM.Result.ok.injEq, Bool.or_eq_true, beq_iff_eq] at identified
  obtain ⟨isMagic, rfl⟩ := identified
  exact ⟨found, read, isMagic⟩

theorem width_unique {first second : Width} {cursor moved other : Cursor}
    (asFirst : hasIdentity first source cursor = .ok true moved)
    (asSecond : hasIdentity second source cursor = .ok true other) : first = second := by
  obtain ⟨found, here, isFirst⟩ := hasIdentity_ok asFirst
  obtain ⟨_, there, isSecond⟩ := hasIdentity_ok asSecond
  rw [here] at there
  cases there
  rcases isFirst with rfl | rfl
  · cases first <;> cases second <;> revert isSecond <;> decide
  · cases first <;> cases second <;> revert isSecond <;> decide

end MachO

namespace Format

theorem ensures_hasIdentity (format : Format) :
    Ensures source format.hasIdentity fun _ => True := by
  cases format with
  | elf width => exact Elf.ensures_hasIdentity width
  | pe width => exact Pe.ensures_hasIdentity width
  | machO width => exact MachO.ensures_hasIdentity width

theorem ensures_detect (format : Format) : Ensures source format.detect fun _ => True :=
  (ensures_hasIdentity format).recover .intro

theorem ensures_isCutOff : Ensures source isCutOff fun _ => True := by
  refine Elf.ensures_isCutOff.bind fun _ _ => ?_
  split
  · exact .pure .intro
  refine Pe.ensures_isCutOff.bind fun _ _ => ?_
  split
  · exact .pure .intro
  · exact MachO.ensures_isCutOff

theorem ensures_unrecognized : Ensures source unrecognized fun _ => True := by
  refine (ensures_isCutOff.recover .intro).bind fun _ _ => ?_
  split <;> exact .pure .intro

theorem settled_hasIdentity (format : Format) : Settled format.hasIdentity := by
  cases format with
  | elf width =>
      refine (settled_leading 6).bind fun start => ?_
      split
      · exact (Settled.front _ _).bind fun _ => (Settled.item _ _).bind fun _ => .pure _
      · exact .pure _
  | pe width => exact (Pe.restarts_hasIdentity width).settled
  | machO width => exact (MachO.restarts_hasIdentity width).settled

/-- Whether a file is of a format. -/
def fits (format : Format) (source : Source) : Bool :=
  match outcome format.hasIdentity source {} with
  | .ok found => found
  | .error _ => false

/-- Detection never fails, and gives the same wherever it starts. -/
theorem outcome_detect (format : Format) (source : Source) (cursor : Cursor) :
    outcome format.detect source cursor = .ok (format.fits source) := by
  rw [detect, outcome_recover, fits, settled_hasIdentity format source cursor {}]
  have identified : Ensures source format.hasIdentity fun _ => True := ensures_hasIdentity format
  have ensured := identified {}
  unfold outcome
  cases result : format.hasIdentity source {} with
  | ok found moved => rfl
  | error failure moved =>
      rw [result] at ensured
      obtain ⟨error, rfl⟩ := ensured
      rfl

/-- Probing formats one after the other finds the first that fits. -/
theorem outcome_firstDetected (formats : List Format) (source : Source) (cursor : Cursor) :
    outcome (firstDetected formats) source cursor = .ok (formats.find? (·.fits source)) := by
  induction formats generalizing cursor with
  | nil => rfl
  | cons format formats ih =>
      obtain ⟨moved, detected⟩ := exists_of_outcome_ok (outcome_detect format source cursor)
      rw [firstDetected, List.findM?, outcome_bind_of_ok detected, List.find?_cons]
      cases format.fits source with
      | true => rfl
      | false => exact ih moved

theorem hasIdentity_of_fits {format : Format} (fitting : format.fits source = true) :
    ∃ moved, format.hasIdentity source {} = .ok true moved := by
  apply exists_of_outcome_ok
  unfold fits at fitting
  split at fitting
  · rename_i identified
    rw [identified, fitting]
  · cases fitting

theorem fits_of_hasIdentity {format : Format} {moved : Cursor}
    (identified : format.hasIdentity source {} = .ok true moved) :
    format.fits source = true := by
  rw [fits, outcome_of_ok identified]

/-- The bytes that files of a format may start with. -/
def firstBytes : Format → List UInt8
  | .elf _ => [0x7F]
  | .pe _ => [0x4D]
  | .machO _ => [0xCE, 0xCF, 0xFE]

theorem firstByte_of_fits {format : Format} (fitting : format.fits source = true) :
    ∃ byte ∈ format.firstBytes, source.bytes[0]? = some byte := by
  obtain ⟨moved, identified⟩ := hasIdentity_of_fits fitting
  cases format with
  | elf width => exact ⟨0x7F, .head _, (Elf.start_of_hasIdentity identified).1⟩
  | pe width => exact ⟨0x4D, .head _, Pe.start_of_hasIdentity identified⟩
  | machO width =>
      obtain ⟨found, read, isMagic⟩ := MachO.hasIdentity_ok identified
      refine ⟨_, ?_, MachO.start_of_readMagic read⟩
      rcases isMagic with rfl | rfl
      · cases width <;> decide
      · cases width <;> decide

/-- No file is of two formats. -/
theorem fits_unique {first second : Format} (fitsFirst : first.fits source = true)
    (fitsSecond : second.fits source = true) : first = second := by
  obtain ⟨_, asFirst⟩ := hasIdentity_of_fits fitsFirst
  obtain ⟨_, asSecond⟩ := hasIdentity_of_fits fitsSecond
  obtain ⟨byte, among, isFirst⟩ := firstByte_of_fits fitsFirst
  obtain ⟨_, alsoAmong, same⟩ := firstByte_of_fits fitsSecond
  cases isFirst.symm.trans same
  cases first with
  | elf width =>
      cases second with
      | elf other => exact congrArg elf (Elf.width_unique asFirst asSecond)
      | pe other =>
          cases List.mem_singleton.mp among
          simp [firstBytes] at alsoAmong
      | machO other =>
          cases List.mem_singleton.mp among
          simp [firstBytes] at alsoAmong
  | pe width =>
      cases second with
      | elf other =>
          cases List.mem_singleton.mp among
          simp [firstBytes] at alsoAmong
      | pe other => exact congrArg pe (Pe.width_unique asFirst asSecond)
      | machO other =>
          cases List.mem_singleton.mp among
          simp [firstBytes] at alsoAmong
  | machO width =>
      cases second with
      | elf other =>
          cases List.mem_singleton.mp alsoAmong
          simp [firstBytes] at among
      | pe other =>
          cases List.mem_singleton.mp alsoAmong
          simp [firstBytes] at among
      | machO other => exact congrArg machO (MachO.width_unique asFirst asSecond)

theorem mem_probeOrder (format : Format) : format ∈ probeOrder := by
  rcases format with width | width | width <;> cases width <;> decide

/-- Among formats of which one fits a file, that one is the first to fit. -/
theorem find?_fits {formats : List Format} {format : Format} (among : format ∈ formats)
    (fitting : format.fits source = true) : formats.find? (·.fits source) = some format := by
  cases found : formats.find? (·.fits source) with
  | none =>
      have misfit := List.find?_eq_none.mp found format among
      exact absurd fitting misfit
  | some other =>
      have otherFits : other.fits source = true := by
        simpa using List.find?_some found
      rw [fits_unique fitting otherFits]

/-- What a file is of, every longer file is of. -/
theorem fits_extends {long short : Source} (extended : long.Extends short) {format : Format}
    (fitting : format.fits short = true) : format.fits long = true := by
  obtain ⟨moved, identified⟩ := hasIdentity_of_fits fitting
  cases format with
  | elf width => exact fits_of_hasIdentity (Elf.hasIdentity_extends extended identified)
  | pe width =>
      exact fits_of_hasIdentity ((Pe.regular_hasIdentity width).persists extended _ _ _ identified)
  | machO width =>
      exact fits_of_hasIdentity
        ((MachO.regular_hasIdentity width).persists extended _ _ _ identified)

end Format

end SharedObject
