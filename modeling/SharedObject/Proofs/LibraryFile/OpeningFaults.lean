import SharedObject.Proofs.Format.Faults
import SharedObject.Proofs.LibraryFile.CutOff
import SharedObject.Proofs.LibraryFile.Faults

/-!
# Opening a file through a fault

A file whose reads fail from some position on is opened as what it is, or the fault is
reported, provided that its format can be told from the bytes in front of the fault.  If it
cannot, the file is taken to be of no format and the fault goes unreported.
-/

namespace SharedObject

open Scan

variable {faulty intact : Source} {text : String}

namespace LibraryFile

/-- The format is told through the fault: what comes of opening the file is what comes of
reading its headers. -/
theorem ofSource_of_identified (damaged : faulty.Damages intact text)
    (known : faulty.lengthFault = none) {nativeOnly : Bool} {whole : LibraryFile}
    (opened : (ofSource intact nativeOnly).outcome = .ok whole)
    (fits : whole.format.fits faulty = true) :
    (∃ file, (ofSource faulty nativeOnly).outcome = .ok file ∧ file.format = whole.format) ∨
      (ofSource faulty nativeOnly).outcome = .error (.reported (.io text)) := by
  obtain ⟨_, permitted, start, parsed⟩ := fits_of_opened opened
  have found := Format.find?_fits (Format.mem_probeOrder whole.format) fits
  obtain ⟨cursor, recognized⟩ := Format.recognize_of_find? found {}
  have parsedIntact : Image.parse whole.format intact cursor = .ok whole.image whole.cursor :=
    (Image.restarts_parse whole.format).answer parsed
  have survives := (Image.regular_parse whole.format).survives damaged
  rcases survives cursor with ⟨image, moved, here, there⟩ | ⟨failure, _, there⟩ | stopped
  · cases there.symm.trans parsedIntact
    rw [← permitted] at here
    let file : LibraryFile := { source := faulty, cursor := whole.cursor, image := whole.image }
    have openedFaulty : (ofSource faulty nativeOnly).outcome = .ok file :=
      ofSource_ok.mpr ⟨known, rfl, whole.format, cursor, recognized, here⟩
    exact .inl ⟨file, openedFaulty, rfl⟩
  · rw [outcome_of_ok parsedIntact] at there
    cases there
  · rw [← permitted] at stopped
    exact .inr (ofSource_of_unread known recognized stopped)

/-- The format is not told through the fault: no other format fits either, and the file is of
none. -/
theorem ofSource_of_unidentified (damaged : faulty.Damages intact text)
    (known : faulty.lengthFault = none) {nativeOnly : Bool} {whole : LibraryFile}
    (opened : (ofSource intact nativeOnly).outcome = .ok whole)
    (misfit : ¬whole.format.fits faulty = true) :
    (ofSource faulty nativeOnly).outcome = .error (.reported .unsupportedFormat) := by
  obtain ⟨fitting, _⟩ := fits_of_opened opened
  have misfits : ∀ format ∈ Format.probeOrder, ¬format.fits faulty = true := by
    intro format _ fits
    have same := Format.fits_unique (Format.fits_intact damaged fits) fitting
    exact misfit (same ▸ fits)
  have detected := Format.outcome_firstDetected Format.probeOrder faulty {}
  rw [List.find?_eq_none.mpr misfits] at detected
  obtain ⟨moved, detected⟩ := exists_of_outcome_ok detected
  obtain ⟨last, named⟩ :=
    exists_of_outcome_ok (Format.outcome_unrecognized_of_fault damaged fitting moved)
  apply ofSource_of_unrecognized known
  rw [Format.recognize, outcome_bind_of_ok detected, outcome_bind_of_ok named]
  rfl

/-- A file that opens has reads that fail from some position on.  If this is in front of the
end of the bytes that tell the format of the file, it is refused as a file of no format.
Otherwise it opens as a file of the same format or fails with the text of the fault; it is
never called malformed, or not native. -/
theorem ofSource_fault (bytes : Array UInt8) (fault : ReadFault)
    (chunk chunkOfIntact : Nat → Option Nat) (nativeOnly : Bool) {whole : LibraryFile}
    (opened : (ofSource { bytes, chunk := chunkOfIntact } nativeOnly).outcome = .ok whole) :
    let faulty : Source := { bytes, fault := some fault, chunk }
    let outcome := (ofSource faulty nativeOnly).outcome
    (fault.position < whole.format.identityEnd faulty →
      outcome = .error (.reported .unsupportedFormat)) ∧
    (whole.format.identityEnd faulty ≤ fault.position →
      (∃ file, outcome = .ok file ∧ file.format = whole.format) ∨
        outcome = .error (.reported (.io fault.text))) := by
  intro faulty outcome
  have damaged : faulty.Damages { bytes, chunk := chunkOfIntact } fault.text :=
    ⟨rfl, rfl, fault.position, rfl⟩
  obtain ⟨fitting, _⟩ := fits_of_opened opened
  have identified : whole.format.fits faulty = true ↔
      whole.format.identityEnd faulty ≤ fault.position :=
    Format.fits_faulty_iff damaged fitting rfl
  constructor
  · intro early
    have misfit : ¬whole.format.fits faulty = true := by
      rw [identified]
      exact Nat.not_le.mpr early
    exact ofSource_of_unidentified damaged rfl opened misfit
  · intro behind
    exact ofSource_of_identified damaged rfl opened (identified.mpr behind)

/-- The header of an ELF file without sections. -/
def headerSample : Array UInt8 :=
  #[0x7F, 0x45, 0x4C, 0x46, 2, 1, 1] ++ Array.replicate 57 0

/-- The header opens as what it is, and as a file of no format if no byte of it can be read. -/
theorem outcomes_headerSample :
    (ofSource { bytes := headerSample } false).outcome.toOption.map (·.format) =
        some (.elf .bits64) ∧
      (ofSource { bytes := headerSample, fault := some ⟨0, "failure"⟩ } false).outcome.map
        (·.image) = .error (.reported .unsupportedFormat) := by
  decide +kernel

/-- The header cannot be read from its first byte on, or from the first one behind the bytes
that tell the format on. -/
theorem ofSource_fault_of_header :
    let early : Source := { bytes := headerSample, fault := some ⟨0, "failure"⟩ }
    let late : Source := { bytes := headerSample, fault := some ⟨6, "failure"⟩ }
    ∃ whole, (ofSource { bytes := headerSample } false).outcome = .ok whole ∧
      whole.format = .elf .bits64 ∧
      (ofSource early false).outcome = .error (.reported .unsupportedFormat) ∧
      ((∃ file, (ofSource late false).outcome = .ok file ∧ file.format = .elf .bits64) ∨
        (ofSource late false).outcome = .error (.reported (.io "failure"))) := by
  intro early late
  obtain ⟨whole, opened, isElf⟩ := exists_opened outcomes_headerSample.1
  obtain ⟨unread, _⟩ := ofSource_fault headerSample ⟨0, "failure"⟩ early.chunk _ false opened
  obtain ⟨_, unparsed⟩ := ofSource_fault headerSample ⟨6, "failure"⟩ late.chunk _ false opened
  rw [isElf] at unread unparsed
  exact ⟨whole, opened, isElf, unread (by decide), unparsed (by decide)⟩

/-- No byte of the header can be read, and the failure goes unreported. -/
theorem ofSource_fault_unreported :
    (ofSource { bytes := headerSample } false).outcome.isOk = true ∧
      (ofSource { bytes := headerSample, fault := some ⟨0, "failure"⟩ } false).outcome.map
        (·.image) = .error (.reported .unsupportedFormat) := by
  obtain ⟨format, unreported⟩ := outcomes_headerSample
  obtain ⟨_, opened, _⟩ := exists_opened format
  refine ⟨?_, unreported⟩
  rw [opened]
  rfl

end LibraryFile

end SharedObject
