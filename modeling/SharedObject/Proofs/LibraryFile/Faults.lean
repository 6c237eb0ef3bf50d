import Mathlib.Data.List.Forall2
import SharedObject.Proofs.LibraryFile.Extension
import SharedObject.Proofs.LibraryFile.Queries
import SharedObject.Proofs.Scan.Faults

/-!
# Read faults never change an answer

A file that opens although reads of it fail from some position on is the file that
its intact bytes are.  Each answer it gives is the answer for the intact bytes, unless
it is the fault itself, and a query that met the fault leaves no trace.
-/

namespace SharedObject

open Scan

variable {faulty intact : Source} {text : String}

theorem Elf.survives_hasIdentity (damaged : faulty.Damages intact text) (width : Width) :
    Survives faulty intact text (Elf.hasIdentity width) := by
  apply (Survives.leading damaged 6).bind
  intro start
  split
  · have regular : Regular (do
        return (← front start 4) == magic && (← item start.toArray 4) == classByte width) :=
      (Regular.front _ _).bind fun _ => (Regular.item _ _).bind fun _ => .pure _
    exact regular.survives damaged
  · exact .pure false

namespace Format

theorem survives_hasIdentity (damaged : faulty.Damages intact text) (format : Format) :
    Survives faulty intact text format.hasIdentity := by
  cases format with
  | elf width => exact Elf.survives_hasIdentity damaged width
  | pe width => exact (Pe.regular_hasIdentity width).survives damaged
  | machO width => exact (MachO.regular_hasIdentity width).survives damaged

/-- What a file is of in spite of a fault, it is of without. -/
theorem fits_intact (damaged : faulty.Damages intact text) {format : Format}
    (fitting : format.fits faulty = true) : format.fits intact = true := by
  obtain ⟨moved, identified⟩ := hasIdentity_of_fits fitting
  exact fits_of_hasIdentity ((survives_hasIdentity damaged format).answer identified)

theorem readImage_intact (damaged : faulty.Damages intact text) {format : Format}
    {nativeOnly : Bool} {image : Image} {cursor moved : Cursor}
    (read : format.readImage nativeOnly faulty cursor = .ok image moved) (other : Cursor) :
    format.readImage nativeOnly intact other = .ok image moved := by
  rcases readImage_cases format nativeOnly with parsed | ⟨error, refused⟩
  · rw [parsed] at read ⊢
    have survives := (Image.regular_parse format).survives damaged
    exact (Image.restarts_parse format).answer (survives.answer read)
  · rw [refused] at read
    cases read

end Format

namespace LibraryFile

/-- What opens in spite of a fault opens without, with the same headers and the cursor
at the same place. -/
theorem ofSource_intact (damaged : faulty.Damages intact text)
    (known : intact.lengthFault = none) {nativeOnly : Bool} {file : LibraryFile}
    (opened : (ofSource faulty nativeOnly).outcome = .ok file) :
    (ofSource intact nativeOnly).outcome = .ok { file with source := intact } := by
  obtain ⟨_, _, format, cursor, recognized, read⟩ := ofSource_ok.mp opened
  have found := Format.recognize_ok recognized
  have fitsFaulty : format.fits faulty = true := by
    simpa using List.find?_some found
  have fitsIntact := Format.fits_intact damaged fitsFaulty
  have foundIntact := Format.find?_fits (List.mem_of_find?_eq_some found) fitsIntact
  obtain ⟨other, recognizedIntact⟩ := Format.recognize_of_find? foundIntact {}
  have readIntact := Format.readImage_intact damaged read other
  exact ofSource_ok.mpr ⟨known, rfl, format, other, recognizedIntact, readIntact⟩

theorem ask_intact (damaged : faulty.Damages intact text) {file : LibraryFile}
    (source : file.source = faulty) (query : Query) :
    (file.ask query).1 = (({ file with source := intact } : LibraryFile).ask query).1 ∨
      (file.ask query).1 = .error (.reported (.io text)) := by
  rw [ask_eq_outcome, ask_eq_outcome, source]
  exact ((file.image.regular_answer query).survives damaged).outcome_cases file.cursor

/-- A file whose reads fail from some position on, if it opens at all, is of the format
of its intact bytes.  Every query is answered as it is for them, or fails with the text
of the fault, and is answered no differently after other queries. -/
theorem ofSource_faulty (bytes : Array UInt8) (fault : ReadFault)
    (chunk chunkOfIntact : Nat → Option Nat) (nativeOnly : Bool) {file : LibraryFile}
    (opened : (ofSource { bytes, fault := some fault, chunk } nativeOnly).outcome = .ok file) :
    ∃ whole, (ofSource { bytes, chunk := chunkOfIntact } nativeOnly).outcome = .ok whole ∧
      whole.format = file.format ∧
      ∀ queries,
        List.Forall₂
          (fun answer expected =>
            answer = expected ∨ answer = .error (.reported (.io fault.text)))
          (file.askAll queries) (whole.askAll queries) ∧
        file.askAll queries = queries.map fun query => (file.ask query).1 := by
  have damaged : Source.Damages { bytes, fault := some fault, chunk }
      { bytes, chunk := chunkOfIntact } fault.text := ⟨rfl, rfl, fault.position, rfl⟩
  obtain ⟨_, source, _⟩ := ofSource_ok.mp opened
  refine ⟨_, ofSource_intact damaged rfl opened, rfl, fun queries => ⟨?_, ?_⟩⟩
  · rw [askAll_eq_map, askAll_eq_map, List.forall₂_map_left_iff, List.forall₂_map_right_iff]
    exact List.forall₂_same.mpr fun query _ => ask_intact damaged source query
  · exact file.askAll_eq_map queries

/-- The string table of a Mach-O file cannot be read: its symbols cannot be listed, and
after that its sections can. -/
theorem ofSource_faulty_of_strings :
    let bytes : Array UInt8 :=
      #[0xCE, 0xFA, 0xED, 0xFE] ++ Array.replicate 12 0 ++
        #[1, 0, 0, 0, 24, 0, 0, 0, 0, 0, 0, 0] ++
        #[2, 0, 0, 0, 24, 0, 0, 0, 52, 0, 0, 0, 1, 0, 0, 0, 64, 0, 0, 0, 4, 0, 0, 0] ++
        #[1, 0, 0, 0, 0x0F, 1, 0, 0, 0, 0, 0, 0] ++ #[0, 0x5F, 0x66, 0]
    let fault : ReadFault := ⟨64, "scripted read failure"⟩
    ∃ file whole, (ofSource { bytes, fault := some fault } false).outcome = .ok file ∧
      (ofSource { bytes } false).outcome = .ok whole ∧
      file.askAll [.symbols, .sections] = [.error (.reported (.io fault.text)), .ok []] ∧
      (whole.ask .symbols).1 = .ok ["f"] ∧
      List.Forall₂
        (fun answer expected => answer = expected ∨ answer = .error (.reported (.io fault.text)))
        (file.askAll [.symbols, .sections]) (whole.askAll [.symbols, .sections]) := by
  intro bytes fault
  have answered : (ofSource { bytes, fault := some fault } false).outcome.toOption.map
      (·.askAll [.symbols, .sections]) =
        some [.error (.reported (.io fault.text)), .ok []] := by
    decide +kernel
  have listed : (ofSource { bytes } false).outcome.toOption.map
      (fun file => (file.ask .symbols).1) = some (.ok ["f"]) := by
    decide +kernel
  obtain ⟨file, opened, asked⟩ := exists_opened answered
  obtain ⟨whole, openedWhole, _, answers⟩ :=
    ofSource_faulty bytes fault _ (fun _ => none) false opened
  have symbols := view_of_opened openedWhole listed
  exact ⟨file, whole, opened, openedWhole, asked, symbols, (answers _).1⟩

end LibraryFile

end SharedObject
