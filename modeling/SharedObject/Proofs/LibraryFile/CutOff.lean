import SharedObject.Proofs.Format.CutOff
import SharedObject.Proofs.LibraryFile.Extension
import SharedObject.Proofs.Scan.Truncation

/-!
# Cut-off files are called malformed

The beginning of a file that opens opens too, or is malformed, except that the DOS program
in front of the headers of a PE file is of no format.
-/

namespace SharedObject

open Scan

section Parsing

variable {α β : Type}

/-- Whatever the scan answers has the property. -/
def Scan.Answers (scan : Scan α) (holds : α → Prop) : Prop :=
  ∀ source cursor value moved, scan source cursor = .ok value moved → holds value

namespace Scan.Answers

variable {holds : α → Prop}

theorem pure {value : α} (held : holds value) : Answers (pure value) holds := by
  rintro source cursor _ _ ⟨⟩
  exact held

/-- The last part of a scan gives its answer. -/
theorem bind {scan : Scan β} {next : β → Scan α} (rest : ∀ value, Answers (next value) holds) :
    Answers (scan >>= next) holds := by
  intro source cursor value moved given
  obtain ⟨intermediate, between, _, given⟩ := bind_ok.mp given
  exact rest intermediate source between value moved given

end Scan.Answers

theorem Elf.width_parse (width : Width) : Answers (Elf.parse width) (·.width = width) := by
  apply Answers.bind
  intro header
  dsimp only
  split
  · exact .pure rfl
  -- What is read on the way to the image does not matter.
  iterate 4 (apply Answers.bind; intro _)
  split
  · exact .pure rfl
  iterate 5 (apply Answers.bind; intro _)
  exact .pure rfl

theorem Pe.width_parse (width : Width) : Answers (Pe.parse width) (·.width = width) := by
  unfold Pe.parse
  apply Answers.bind
  rintro ⟨optional, field⟩
  dsimp only
  iterate 16 (apply Answers.bind; intro _)
  exact .pure rfl

theorem MachO.width_parse (width : Width) : Answers (MachO.parse width) (·.width = width) := by
  unfold MachO.parse
  iterate 11 (apply Answers.bind; intro _)
  exact .pure rfl

/-- The headers of a file were read by the parser of one of the formats. -/
theorem Image.parse_cases {format : Format} {source : Source} {cursor moved : Cursor}
    {image : Image} (parsed : Image.parse format source cursor = .ok image moved) :
    (∃ width found, format = .elf width ∧ image = .elf found ∧
      Elf.parse width source cursor = .ok found moved) ∨
    (∃ width found, format = .pe width ∧ image = .pe found ∧
      Pe.parse width source cursor = .ok found moved) ∨
    ∃ width found, format = .machO width ∧ image = .machO found ∧
      MachO.parse width source cursor = .ok found moved := by
  cases format with
  | elf width =>
      obtain ⟨found, _, parsed, given⟩ := bind_ok.mp parsed
      cases given
      exact .inl ⟨width, found, rfl, rfl, parsed⟩
  | pe width =>
      obtain ⟨found, _, parsed, given⟩ := bind_ok.mp parsed
      cases given
      exact .inr (.inl ⟨width, found, rfl, rfl, parsed⟩)
  | machO width =>
      obtain ⟨found, _, parsed, given⟩ := bind_ok.mp parsed
      cases given
      exact .inr (.inr ⟨width, found, rfl, rfl, parsed⟩)

theorem Image.format_parse (format : Format) :
    Answers (Image.parse format) (·.format = format) := by
  intro source cursor image moved parsed
  rcases Image.parse_cases parsed with ⟨width, found, rfl, rfl, read⟩ |
    ⟨width, found, rfl, rfl, read⟩ | ⟨width, found, rfl, rfl, read⟩
  · exact congrArg Format.elf (Elf.width_parse width source cursor found moved read)
  · exact congrArg Format.pe (Pe.width_parse width source cursor found moved read)
  · exact congrArg Format.machO (MachO.width_parse width source cursor found moved read)

end Parsing

namespace LibraryFile

variable {source short long : Source} {nativeOnly : Bool}

/-- The format of a file that was opened is one that the file is of, and the headers were
read. -/
theorem fits_of_opened {file : LibraryFile}
    (opened : (ofSource source nativeOnly).outcome = .ok file) :
    file.format.fits source = true ∧
      file.format.readImage nativeOnly = Image.parse file.format ∧
      ∃ cursor, Image.parse file.format source cursor = .ok file.image file.cursor := by
  obtain ⟨_, _, format, cursor, recognized, read⟩ := ofSource_ok.mp opened
  have fitting : format.fits source = true := by
    simpa using List.find?_some (Format.recognize_ok recognized)
  rcases Format.readImage_cases format nativeOnly with parsed | ⟨error, refused⟩
  · rw [parsed] at read
    have same : file.format = format := Image.format_parse format _ _ _ _ read
    rw [same]
    exact ⟨fitting, parsed, cursor, read⟩
  · rw [refused] at read
    cases read

theorem ofSource_of_unrecognized (known : source.lengthFault = none) {failure : Failure}
    (stopped : outcome (Format.recognize Format.probeOrder) source {} = .error failure) :
    (ofSource source nativeOnly).outcome = .error failure := by
  unfold outcome at stopped
  split at stopped
  · cases stopped
  · rename_i failed
    cases stopped
    simp only [ofSource, ofSourceTrying, known, failed]

theorem ofSource_of_unread (known : source.lengthFault = none) {format : Format}
    {cursor : Cursor}
    (recognized : Format.recognize Format.probeOrder source {} = .ok format cursor)
    {failure : Failure}
    (stopped : outcome (format.readImage nativeOnly) source cursor = .error failure) :
    (ofSource source nativeOnly).outcome = .error failure := by
  unfold outcome at stopped
  split at stopped
  · cases stopped
  · rename_i failed
    cases stopped
    simp only [ofSource, ofSourceTrying, known, recognized, failed]

/-- What opening a file of a known format comes to is what reading its headers comes to. -/
theorem outcome_ofSource_of_fits (known : source.lengthFault = none) {format : Format}
    (fitting : format.fits source = true) (nativeOnly : Bool) :
    ∃ cursor, (ofSource source nativeOnly).outcome.map (·.image) =
      outcome (format.readImage nativeOnly) source cursor := by
  have found := Format.find?_fits (Format.mem_probeOrder format) fitting
  obtain ⟨cursor, recognized⟩ := Format.recognize_of_find? found {}
  refine ⟨cursor, ?_⟩
  simp only [ofSource, ofSourceTrying, known, recognized, outcome]
  cases format.readImage nativeOnly source cursor <;> rfl

/-- A file of no format is refused, as truncated if it is cut off. -/
theorem outcome_recognize_of_misfit (sound : source.fault = none) {formats : List Format}
    (misfit : ∀ format ∈ formats, ¬format.fits source = true) (cursor : Cursor) :
    outcome (Format.recognize formats) source cursor =
      .error (.reported (if Format.CutOff source then .malformedBinary .truncatedHeader
        else .unsupportedFormat)) := by
  have detected := Format.outcome_firstDetected formats source cursor
  rw [List.find?_eq_none.mpr misfit] at detected
  obtain ⟨moved, detected⟩ := exists_of_outcome_ok detected
  obtain ⟨last, named⟩ := exists_of_outcome_ok (Format.outcome_unrecognized sound moved)
  rw [Format.recognize, outcome_bind_of_ok detected, outcome_bind_of_ok named]
  rfl

theorem ofSource_of_misfit (sound : source.fault = none) (known : source.lengthFault = none)
    (misfit : ∀ format : Format, ¬format.fits source = true) :
    (ofSource source nativeOnly).outcome =
      .error (.reported (if Format.CutOff source then .malformedBinary .truncatedHeader
        else .unsupportedFormat)) :=
  ofSource_of_unrecognized known
    (outcome_recognize_of_misfit sound (fun format _ => misfit format) {})

/-- The beginning of a file that opens opens as well if it is still of the format, or is
malformed. -/
theorem ofSource_of_fitting (extended : long.Extends short) (sound : short.fault = none)
    (known : short.lengthFault = none) {whole : LibraryFile}
    (opened : (ofSource long nativeOnly).outcome = .ok whole)
    (fitting : whole.format.fits short = true) :
    (∃ part, (ofSource short nativeOnly).outcome = .ok part ∧ part.format = whole.format) ∨
      ∃ cause, (ofSource short nativeOnly).outcome = .error (.malformed cause) := by
  obtain ⟨_, permitted, cursor, parsed⟩ := fits_of_opened opened
  have found := Format.find?_fits (Format.mem_probeOrder whole.format) fitting
  obtain ⟨start, recognized⟩ := Format.recognize_of_find? found {}
  have parsedAlike : Image.parse whole.format long start = .ok whole.image whole.cursor :=
    (Image.restarts_parse whole.format).answer parsed
  have regular := Image.regular_parse whole.format
  rcases regular.cases_of_extends extended sound parsedAlike with read | ⟨cause, refused⟩
  · rw [← permitted] at read
    let part : LibraryFile := { source := short, cursor := whole.cursor, image := whole.image }
    have openedPart : (ofSource short nativeOnly).outcome = .ok part :=
      ofSource_ok.mpr ⟨known, rfl, whole.format, start, recognized, read⟩
    exact .inl ⟨part, openedPart, rfl⟩
  · rw [← permitted] at refused
    exact .inr ⟨cause, ofSource_of_unread known recognized refused⟩

/-- The beginning of a file that opens is of no format if it is not of the same one. -/
theorem ofSource_of_misfitting (extended : long.Extends short) (sound : short.fault = none)
    (known : short.lengthFault = none) {whole : LibraryFile}
    (opened : (ofSource long nativeOnly).outcome = .ok whole)
    (misfit : ¬whole.format.fits short = true) :
    (ofSource short nativeOnly).outcome =
      .error (.reported (if Format.CutOff short then .malformedBinary .truncatedHeader
        else .unsupportedFormat)) := by
  obtain ⟨fitting, _⟩ := fits_of_opened opened
  apply ofSource_of_misfit sound known
  intro format fits
  have same := Format.fits_unique (Format.fits_extends extended fits) fitting
  exact misfit (same ▸ fits)

/-- A file that opens has been cut off behind any of its bytes but the first.  What is left
opens as a file of the same format, or is malformed, unless it is a DOS program: the part of
a PE file that has the DOS header whole and none of the headers that this points at.  Such
a file is of no format. -/
theorem ofSource_cutOff (bytes suffix : Array UInt8) (chunk chunkOfWhole : Nat → Option Nat)
    (nativeOnly : Bool) (nonempty : 0 < bytes.size) {whole : LibraryFile}
    (opened : (ofSource { bytes := bytes ++ suffix, chunk := chunkOfWhole } nativeOnly).outcome =
      .ok whole) :
    let short : Source := { bytes, chunk }
    let isProgram : Prop := (∃ width, whole.format = .pe width) ∧ Pe.IsStub short
    (isProgram → (ofSource short nativeOnly).outcome = .error (.reported .unsupportedFormat)) ∧
      (¬isProgram →
        (∃ part, (ofSource short nativeOnly).outcome = .ok part ∧ part.format = whole.format) ∨
          ∃ cause, (ofSource short nativeOnly).outcome = .error (.malformed cause)) := by
  intro short isProgram
  have sound : short.fault = none := rfl
  have known : short.lengthFault = none := rfl
  have extended : Source.Extends { bytes := bytes ++ suffix, chunk := chunkOfWhole } short :=
    ⟨rfl, suffix, rfl⟩
  by_cases fitting : whole.format.fits short = true
  · constructor
    · rintro ⟨⟨width, isPe⟩, stub⟩
      rw [isPe] at fitting
      exact absurd fitting (Format.not_fits_of_isStub sound stub width)
    · exact fun _ => ofSource_of_fitting extended sound known opened fitting
  · have refused := ofSource_of_misfitting extended sound known opened fitting
    constructor
    · intro program
      rwa [if_neg (Format.not_cutOff_of_isStub program.2)] at refused
    · intro noProgram
      obtain ⟨fittingWhole, _⟩ := fits_of_opened opened
      have cut := Format.cutOff_of_extends extended sound nonempty fittingWhole fitting noProgram
      rw [if_pos cut] at refused
      exact .inr ⟨.truncatedHeader, refused⟩

/-- What a PE file opens as, and what becomes of its beginnings: of the DOS header, and of what
ends inside the signature. -/
theorem outcomes_of_pe :
    let header : Array UInt8 := #[0x4D, 0x5A] ++ Array.replicate 58 0 ++ #[0x48, 0, 0, 0]
    let signed : Array UInt8 := Array.replicate 8 0 ++ #[0x50, 0x45]
    let rest : Array UInt8 := #[0, 0, 0x4C, 1] ++ Array.replicate 14 0 ++ #[96, 0, 0, 0] ++
      #[0x0B, 1] ++ Array.replicate 94 0
    (ofSource { bytes := header ++ (signed ++ rest) } false).outcome.toOption.map (·.format) =
        some (.pe .bits32) ∧
      (ofSource { bytes := header ++ signed } false).outcome.toOption.map (·.format) = none ∧
      (ofSource { bytes := header } false).outcome.map (·.format) =
        .error (.reported .unsupportedFormat) := by
  simp only [← List.toArray_replicate, List.append_toArray]
  decide +kernel

/-- A PE file is cut off behind its DOS header, and inside its signature. -/
theorem ofSource_cutOff_of_pe :
    let header : Array UInt8 := #[0x4D, 0x5A] ++ Array.replicate 58 0 ++ #[0x48, 0, 0, 0]
    let signed : Array UInt8 := Array.replicate 8 0 ++ #[0x50, 0x45]
    let rest : Array UInt8 := #[0, 0, 0x4C, 1] ++ Array.replicate 14 0 ++ #[96, 0, 0, 0] ++
      #[0x0B, 1] ++ Array.replicate 94 0
    ∃ whole, (ofSource { bytes := header ++ (signed ++ rest) } false).outcome = .ok whole ∧
      whole.format = .pe .bits32 ∧
      (ofSource { bytes := header } false).outcome = .error (.reported .unsupportedFormat) ∧
      ∃ cause,
        (ofSource { bytes := header ++ signed } false).outcome = .error (.malformed cause) := by
  intro header signed rest
  have format : (ofSource { bytes := header ++ (signed ++ rest) } false).outcome.toOption.map
      (·.format) = some (.pe .bits32) := outcomes_of_pe.1
  have closed : (ofSource { bytes := header ++ signed } false).outcome.toOption.map (·.format) =
      none := outcomes_of_pe.2.1
  obtain ⟨whole, opened, isPe⟩ := exists_opened format
  have atHeader := ofSource_cutOff header (signed ++ rest) (fun _ => none) _ false (by decide)
    opened
  have inSignature := ofSource_cutOff (header ++ signed) rest (fun _ => none) (fun _ => none)
    false (by decide) (by rw [Array.append_assoc]; exact opened)
  have program : Pe.IsStub { bytes := header } := by decide
  have noProgram : ¬Pe.IsStub { bytes := header ++ signed } := by decide
  refine ⟨whole, opened, isPe, atHeader.1 ⟨⟨_, isPe⟩, program⟩, ?_⟩
  rcases inSignature.2 fun given => noProgram given.2 with ⟨part, openedPart, _⟩ | malformed
  · rw [openedPart] at closed
    cases closed
  · exact malformed

/-- The DOS program of a PE file is neither opened as what it is the beginning of nor
called malformed. -/
theorem ofSource_program_of_pe :
    let header : Array UInt8 := #[0x4D, 0x5A] ++ Array.replicate 58 0 ++ #[0x48, 0, 0, 0]
    let rest : Array UInt8 := Array.replicate 8 0 ++ #[0x50, 0x45, 0, 0, 0x4C, 1] ++
      Array.replicate 14 0 ++ #[96, 0, 0, 0] ++ #[0x0B, 1] ++ Array.replicate 94 0
    ∃ whole, (ofSource { bytes := header ++ rest } false).outcome = .ok whole ∧
      ¬((∃ part, (ofSource { bytes := header } false).outcome = .ok part ∧
          part.format = whole.format) ∨
        ∃ cause, (ofSource { bytes := header } false).outcome = .error (.malformed cause)) := by
  intro header rest
  have signature : (#[0x50, 0x45, 0, 0, 0x4C, 1] : Array UInt8) =
      #[0x50, 0x45] ++ #[0, 0, 0x4C, 1] := rfl
  have opens : (ofSource { bytes := header ++ rest } false).outcome.toOption.map (·.format) =
      some (.pe .bits32) := by
    simpa only [header, rest, signature, Array.append_assoc] using outcomes_of_pe.1
  have refused : (ofSource { bytes := header } false).outcome.map (·.format) =
      .error (.reported .unsupportedFormat) := outcomes_of_pe.2.2
  obtain ⟨whole, opened, _⟩ := exists_opened opens
  refine ⟨whole, opened, ?_⟩
  rintro (⟨part, openedPart, _⟩ | ⟨cause, malformed⟩)
  · rw [openedPart] at refused
    cases refused
  · rw [malformed] at refused
    cases refused

end LibraryFile

end SharedObject
