import SharedObject.Proofs.Format.Detection
import SharedObject.Proofs.LibraryFile.Opening

/-!
# Inspecting a file meets no defects

No file of less than `2 ^ 63` bytes makes an offset overflow, a division fail or a
table be read past its end, neither when it is opened nor when it is asked about.
-/

namespace SharedObject

open Scan

variable {source : Source}

/-- What the headers of a file of `size` bytes are relied on for by queries. -/
def Image.Sound (size : Nat) : Image → Prop
  | .elf image => image.Sound
  | .pe _ => True
  | .machO image => image.Within size

namespace Format

theorem ensures_recognize (formats : List Format) :
    Ensures source (recognize formats) fun _ => True := by
  have detected : Ensures source (firstDetected formats) fun _ => True :=
    .findM?_trivial fun format _ => ensures_detect format
  refine detected.bind fun found _ => ?_
  cases found with
  | some format => exact .pure .intro
  | none => exact ensures_unrecognized.bind fun error _ => .report error

theorem ensures_permit (format : Format) (nativeOnly : Bool) :
    Ensures source (format.permit nativeOnly) fun _ => True := by
  unfold permit
  split
  · exact .report _
  · exact .pure .intro
  · exact .pure .intro

end Format

theorem Image.ensures_parse (format : Format) (bounded : source.size < 2 ^ 63) :
    Ensures source (Image.parse format) (Image.Sound source.size) := by
  cases format with
  | elf width => exact (Elf.ensures_parse width bounded).bind fun _ sound => .pure sound
  | pe width => exact (Pe.ensures_parse width).bind fun _ _ => .pure .intro
  | machO width => exact (MachO.ensures_parse width bounded).bind fun _ within => .pure within

theorem Format.ensures_readImage (format : Format) (nativeOnly : Bool)
    (bounded : source.size < 2 ^ 63) :
    Ensures source (format.readImage nativeOnly) (Image.Sound source.size) :=
  (ensures_permit format nativeOnly).bind fun _ _ => Image.ensures_parse format bounded

theorem Image.ensures_answer {image : Image} (sound : image.Sound source.size) (query : Query)
    (bounded : source.size < 2 ^ 63) : Ensures source (image.answer query) fun _ => True := by
  cases image with
  | elf image =>
      cases query with
      | sections => exact Elf.Image.ensures_sections sound
      | symbols => exact Elf.Image.ensures_exportedNames image _ bounded
      | sectionSymbols name => exact Elf.Image.ensures_sectionSymbols sound name bounded
  | pe image =>
      cases query with
      | sections => exact .pure .intro
      | symbols => exact Pe.Image.ensures_exportedNames image none
      | sectionSymbols name => exact Pe.Image.ensures_sectionSymbols image name
  | machO image =>
      cases query with
      | sections => exact .pure .intro
      | symbols => exact MachO.Image.ensures_exportedNames image _
      | sectionSymbols name => exact MachO.Image.ensures_sectionSymbols sound bounded name

namespace LibraryFile

theorem ask_no_defect {file : LibraryFile} (bounded : file.source.size < 2 ^ 63)
    (sound : file.image.Sound file.source.size) (query : Query) (defect : Defect) :
    (file.ask query).1 ≠ .error (.defect defect) := by
  have ensured := Image.ensures_answer sound query bounded
  unfold ask
  split
  · exact nofun
  · rename_i failure moved stopped
    exact fun same => ensured.of_error stopped defect (Except.error.inj same)

theorem askAll_no_defect {file : LibraryFile} (bounded : file.source.size < 2 ^ 63)
    (sound : file.image.Sound file.source.size) (queries : List Query) :
    ∀ answer ∈ file.askAll queries, ∀ defect, answer ≠ .error (.defect defect) := by
  induction queries generalizing file with
  | nil => simp [askAll]
  | cons query queries ih =>
      obtain ⟨sameSource, sameImage⟩ := file.ask_frame query
      intro answer member
      rw [askAll_cons] at member
      rcases List.mem_cons.mp member with rfl | member
      · exact ask_no_defect bounded sound query
      · refine ih ?_ ?_ answer member
        · rw [sameSource]
          exact bounded
        · rw [sameSource, sameImage]
          exact sound

/-- Opening a file of less than `2 ^ 63` bytes, and asking it anything, never meets
arithmetic that overflows or an index that is out of range. -/
theorem ofSource_no_defect (source : Source) (bounded : source.size < 2 ^ 63)
    (nativeOnly : Bool) :
    (∀ defect, (ofSource source nativeOnly).outcome ≠ .error (.defect defect)) ∧
      ∀ file, (ofSource source nativeOnly).outcome = .ok file →
        ∀ queries, ∀ answer ∈ file.askAll queries, ∀ defect,
          answer ≠ .error (.defect defect) := by
  unfold ofSource ofSourceTrying
  split
  · exact ⟨nofun, nofun⟩
  split
  · rename_i failure moved stopped
    have unfit := (Format.ensures_recognize Format.probeOrder).of_error stopped
    exact ⟨fun defect same => unfit defect (Except.error.inj same), nofun⟩
  dsimp only
  split
  · rename_i failure moved stopped
    have unfit := (Format.ensures_readImage _ nativeOnly bounded).of_error stopped
    exact ⟨fun defect same => unfit defect (Except.error.inj same), nofun⟩
  · rename_i image moved given
    have sound := (Format.ensures_readImage _ nativeOnly bounded).of_ok given
    refine ⟨nofun, fun file same => ?_⟩
    cases same
    exact askAll_no_defect bounded sound

/-- A file lists its section, its symbol and the symbol of the section, and does so without
a defect. -/
theorem ofSource_no_defect_of_section :
    let source : Source := { bytes := sectionSample }
    let queries : List Query := [.sections, .symbols, .sectionSymbols "T,t"]
    source.size < 2 ^ 63 ∧
      ∃ file, (ofSource source false).outcome = .ok file ∧
        file.askAll queries = [.ok ["T,t"], .ok ["f"], .ok ["f"]] ∧
        ∀ answer ∈ file.askAll queries, ∀ defect, answer ≠ .error (.defect defect) := by
  intro source queries
  have bounded : source.size < 2 ^ 63 := by decide +kernel
  have answers : (ofSource source false).outcome.toOption.map (·.askAll queries) =
      some [.ok ["T,t"], .ok ["f"], .ok ["f"]] := by
    decide +kernel
  obtain ⟨file, opened, answered⟩ := exists_opened answers
  obtain ⟨_, sound⟩ := ofSource_no_defect source bounded false
  exact ⟨bounded, file, opened, answered, sound file opened queries⟩

end LibraryFile

end SharedObject
