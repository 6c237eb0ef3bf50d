import SharedObject.Proofs.Format.Detection
import SharedObject.Proofs.LibraryFile.Opening

/-!
# Cut-off files never mislead

What is reported of a file, that it is of a format or what names it lists, is also
reported of every file that it is the beginning of.  A file that was cut off may
thus fail to open or to answer, but it does not pass a part of a table off as the
whole.
-/

namespace SharedObject

open Scan

variable {source short long : Source}

namespace Image

theorem regular_parse (format : Format) : Regular (Image.parse format) := by
  cases format with
  | elf width => exact (Elf.regular_parse width).bind fun _ => .pure _
  | pe width => exact (Pe.regular_parse width).bind fun _ => .pure _
  | machO width => exact (MachO.regular_parse width).bind fun _ => .pure _

theorem restarts_parse (format : Format) : Restarts (Image.parse format) := by
  cases format with
  | elf width => exact (Elf.restarts_parse width).bind _
  | pe width => exact (Pe.restarts_parse width).bind _
  | machO width => exact (MachO.restarts_parse width).bind _

theorem regular_answer (image : Image) (query : Query) : Regular (image.answer query) := by
  cases image with
  | elf image =>
      cases query with
      | sections => exact image.regular_sections
      | symbols => exact image.regular_exportedNames _
      | sectionSymbols name => exact image.regular_sectionSymbols name
  | pe image =>
      cases query with
      | sections => exact .pure _
      | symbols => exact image.regular_exportedNames none
      | sectionSymbols name => exact image.regular_sectionSymbols name
  | machO image =>
      cases query with
      | sections => exact .pure _
      | symbols => exact image.regular_exportedNames _
      | sectionSymbols name => exact image.regular_sectionSymbols name

end Image

namespace Format

theorem recognize_ok {formats : List Format} {format : Format} {cursor moved : Cursor}
    (recognized : recognize formats source cursor = .ok format moved) :
    formats.find? (·.fits source) = some format := by
  obtain ⟨found, between, detected, recognized⟩ := bind_ok.mp recognized
  have same := outcome_firstDetected formats source cursor
  rw [outcome_of_ok detected] at same
  cases found with
  | none =>
      obtain ⟨error, _, _, thrown⟩ := bind_ok.mp recognized
      cases thrown
  | some found =>
      cases recognized
      exact (Except.ok.inj same).symm

theorem recognize_of_find? {formats : List Format} {format : Format}
    (found : formats.find? (·.fits source) = some format) (cursor : Cursor) :
    ∃ moved, recognize formats source cursor = .ok format moved := by
  have detected := outcome_firstDetected formats source cursor
  rw [found] at detected
  obtain ⟨moved, detected⟩ := exists_of_outcome_ok detected
  exact ⟨moved, bind_ok.mpr ⟨some format, moved, detected, rfl⟩⟩

/-- The first format that fits a file is the first that fits every longer file. -/
theorem find?_fits_extends (extended : long.Extends short) {formats : List Format}
    {format : Format} (found : formats.find? (·.fits short) = some format) :
    formats.find? (·.fits long) = some format := by
  have fitsShort : format.fits short = true := by
    simpa using List.find?_some found
  have fitsLong := fits_extends extended fitsShort
  exact find?_fits (List.mem_of_find?_eq_some found) fitsLong

/-- The host either does not mind a format or refuses it unseen. -/
theorem readImage_cases (format : Format) (nativeOnly : Bool) :
    format.readImage nativeOnly = Image.parse format ∨
      ∃ error, format.readImage nativeOnly = throw (.reported error) := by
  unfold readImage permit
  split
  · exact .inr ⟨_, rfl⟩
  · exact .inl (pure_bind _ _)
  · exact .inl (pure_bind _ _)

/-- Headers that could be read can be read from wherever the cursor is, and are the
same in every longer file. -/
theorem readImage_extends (extended : long.Extends short) {format : Format} {nativeOnly : Bool}
    {image : Image} {cursor moved : Cursor}
    (read : format.readImage nativeOnly short cursor = .ok image moved) (other : Cursor) :
    format.readImage nativeOnly long other = .ok image moved := by
  rcases readImage_cases format nativeOnly with parsed | ⟨error, refused⟩
  · rw [parsed] at read ⊢
    have readLong := (Image.regular_parse format).persists extended _ _ _ read
    exact (Image.restarts_parse format).answer readLong
  · rw [refused] at read
    cases read

end Format

namespace LibraryFile

/-- What opens, and what it is asked about then, comes out the same for a longer file. -/
theorem ofSource_extends (extended : long.Extends short) (known : long.lengthFault = none)
    {nativeOnly : Bool} {file : LibraryFile}
    (opened : (ofSource short nativeOnly).outcome = .ok file) :
    ∃ whole, (ofSource long nativeOnly).outcome = .ok whole ∧ whole.image = file.image ∧
      ∀ query names, (file.ask query).1 = .ok names → (whole.ask query).1 = .ok names := by
  obtain ⟨_, sameSource, format, cursor, recognized, read⟩ := ofSource_ok.mp opened
  have found := Format.find?_fits_extends extended (Format.recognize_ok recognized)
  obtain ⟨other, recognizedLong⟩ := Format.recognize_of_find? found {}
  have readLong := Format.readImage_extends extended read other
  refine ⟨{ file with source := long }, ?_, rfl, fun query names answered => ?_⟩
  · exact ofSource_ok.mpr ⟨known, rfl, format, other, recognizedLong, readLong⟩
  · obtain ⟨moved, answered⟩ := ask_ok.mp answered
    rw [sameSource] at answered
    have regular := file.image.regular_answer query
    exact ask_ok.mpr ⟨moved, regular.persists extended _ _ _ answered⟩

/-- A file that opens still opens, as one of the same format, when bytes are
appended to it, and every answer it gives remains the answer. -/
theorem ofSource_append (bytes suffix : Array UInt8) (chunk chunkOfWhole : Nat → Option Nat)
    (nativeOnly : Bool) {file : LibraryFile}
    (opened : (ofSource { bytes, chunk } nativeOnly).outcome = .ok file) :
    ∃ whole,
      (ofSource { bytes := bytes ++ suffix, chunk := chunkOfWhole } nativeOnly).outcome =
          .ok whole ∧
        whole.format = file.format ∧
        ∀ query names, (file.ask query).1 = .ok names → (whole.ask query).1 = .ok names := by
  have extended : Source.Extends { bytes := bytes ++ suffix, chunk := chunkOfWhole }
      { bytes, chunk } := ⟨rfl, suffix, rfl⟩
  obtain ⟨whole, openedWhole, sameImage, answers⟩ := ofSource_extends extended rfl opened
  exact ⟨whole, openedWhole, congrArg Image.format sameImage, answers⟩

/-- A file is read three bytes at a time, and at once with bytes after it: it has the same
section and the same symbol. -/
theorem ofSource_append_of_section :
    let short : Source := { bytes := sectionSample, chunk := fun _ => some 3 }
    let long : Source := { bytes := sectionSample ++ #[1, 2, 3] }
    ∃ file whole, (ofSource short false).outcome = .ok file ∧
      (ofSource long false).outcome = .ok whole ∧
      file.format = .machO .bits32 ∧ whole.format = .machO .bits32 ∧
      (file.ask .symbols).1 = .ok ["f"] ∧ (whole.ask .sections).1 = .ok ["T,t"] ∧
      (whole.ask .symbols).1 = .ok ["f"] ∧ (whole.ask (.sectionSymbols "T,t")).1 = .ok ["f"] := by
  intro short long
  have answers : (ofSource short false).outcome.toOption.map (fun file =>
      (file.format, (file.ask .sections).1, (file.ask .symbols).1,
        (file.ask (.sectionSymbols "T,t")).1)) =
          some (.machO .bits32, .ok ["T,t"], .ok ["f"], .ok ["f"]) := by
    decide +kernel
  obtain ⟨file, opened, shown⟩ := exists_opened answers
  obtain ⟨isMachO, sections, symbols, part⟩ : _ ∧ _ ∧ _ ∧ _ := by
    simpa only [Prod.mk.injEq] using shown
  obtain ⟨whole, openedWhole, sameFormat, kept⟩ :=
    ofSource_append sectionSample #[1, 2, 3] short.chunk long.chunk false opened
  exact ⟨file, whole, opened, openedWhole, isMachO, sameFormat.trans isMachO, symbols,
    kept _ _ sections, kept _ _ symbols, kept _ _ part⟩

end LibraryFile

end SharedObject
