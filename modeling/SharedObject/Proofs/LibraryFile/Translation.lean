import SharedObject.Proofs.LibraryFile.Independence
import SharedObject.Proofs.Pe.Translation

/-!
# Where the exported names of a PE file start

The names that a PE file lists start where their addresses are translated to.  This is in
the raw data of a section only if the section has raw data for the address.
-/

namespace SharedObject

open Scan

namespace LibraryFile

/-- A PE file translates every address by the first section that covers it, to an offset
that is one of the raw data of this section unless the address lies behind them.  Every
name that the file lists, of a section or of all, whatever else it is asked before, starts
at the offset of such an address.  Where no section is larger in memory than in the file,
all these offsets are of raw data. -/
theorem ask_symbols_translated (file : LibraryFile) (earlier : List Query) {image : Pe.Image}
    (isPe : file.image = .pe image) :
    (∀ address offset, outcome (image.fileOffset address) file.source file.cursor = .ok offset ↔
      ∃ part, image.Translates part address offset) ∧
    (∀ query names, query ≠ .sections → ((file.after earlier).ask query).1 = .ok names →
      ∀ name ∈ names, ∃ address part offset, image.Translates part address offset ∧
        outcome (nameToEnd offset) file.source file.cursor = .ok name) ∧
    ((∀ part ∈ image.sections, part.virtualSize ≤ part.rawSize) →
      ∀ part address offset, image.Translates part address offset → part.HasRaw offset) := by
  refine ⟨fun _ _ => Pe.Image.outcome_fileOffset_iff_translates, ?_, ?_⟩
  · intro query names listing given name member
    rw [ask_after, ask_eq_outcome, isPe] at given
    cases query with
    | sections => exact absurd rfl listing
    | symbols => exact Pe.Image.translates_of_mem none given member
    | sectionSymbols name =>
        rcases image.sectionSymbols_cases given with rfl | ⟨part, given⟩
        · cases member
        · exact Pe.Image.translates_of_mem part given member
  · intro raw part address offset translates
    exact translates.hasRaw raw

/-- A PE file with one section of 50 bytes, which is larger in memory, and a name whose
address is the first one behind these bytes. -/
def tailSample : Array UInt8 :=
  #[0x4D, 0x5A] ++ Array.replicate 58 0 ++ #[64, 0, 0, 0] ++ #[0x50, 0x45, 0, 0] ++
    #[0x4C, 1, 1, 0] ++ Array.replicate 12 0 ++ #[104, 0, 0, 0] ++
    #[0x0B, 1] ++ Array.replicate 90 0 ++ #[1, 0, 0, 0, 0, 0x10, 0, 0, 0, 0, 0, 0] ++
    #[0x2E, 0x65, 0x64, 0x61, 0x74, 0x61, 0, 0] ++
    #[0, 0x10, 0, 0, 0, 0x10, 0, 0, 50, 0, 0, 0, 232, 0, 0, 0] ++ Array.replicate 16 0 ++
    Array.replicate 20 0 ++ #[1, 0, 0, 0, 1, 0, 0, 0] ++
    #[0x28, 0x10, 0, 0, 0x2C, 0x10, 0, 0, 0x30, 0x10, 0, 0] ++
    #[0, 0x10, 0, 0] ++ #[0x32, 0x10, 0, 0] ++ #[0, 0] ++ #[0x78, 0]

def tailImage : Pe.Image :=
  ⟨.bits32, [⟨".edata", 0x1000, 0x1000, 50, 232⟩], 0x1000⟩

theorem tailSample_opened :
    ∃ file, (ofSource { bytes := tailSample } false).outcome = .ok file ∧
      file.source = { bytes := tailSample } ∧ file.image = .pe tailImage ∧
      file.cursor = ⟨216, .little⟩ ∧ (file.ask .symbols).1 = .ok ["x"] := by
  have opens : (ofSource { bytes := tailSample } false).outcome.toOption.map (fun file =>
      (file.image, file.cursor, (file.ask .symbols).1)) =
        some (.pe tailImage, ⟨216, .little⟩, .ok ["x"]) := by
    simp only [tailSample, ← List.toArray_replicate, List.append_toArray]
    decide +kernel
  obtain ⟨file, opened, shown⟩ := exists_opened opens
  obtain ⟨_, source, _⟩ := ofSource_ok.mp opened
  obtain ⟨image, cursor, symbols⟩ : _ ∧ _ ∧ _ := by
    simpa only [Prod.mk.injEq] using shown
  exact ⟨file, opened, source, image, cursor, symbols⟩

/-- The name behind the raw data starts where its address is translated to. -/
theorem ask_symbols_translated_of_tail :
    ∃ file, (ofSource { bytes := tailSample } false).outcome = .ok file ∧
      file.image = .pe tailImage ∧ ((file.after []).ask .symbols).1 = .ok ["x"] ∧
      ∃ address part offset, tailImage.Translates part address offset ∧
        outcome (nameToEnd offset) file.source file.cursor = .ok "x" := by
  obtain ⟨file, opened, _, image, _, symbols⟩ := tailSample_opened
  obtain ⟨_, listed, _⟩ := file.ask_symbols_translated [] image
  exact ⟨file, opened, image, symbols, listed .symbols ["x"] (by decide) symbols "x" (by decide)⟩

/-- An address behind the raw data of the only section is translated to an offset behind
them, and the name listed from there starts at no offset of raw data. -/
theorem symbol_behind_raw_of_tail :
    ∃ file, (ofSource { bytes := tailSample } false).outcome = .ok file ∧
      file.image = .pe tailImage ∧ (file.ask .symbols).1 = .ok ["x"] ∧
      outcome (tailImage.fileOffset 0x1032) file.source file.cursor = .ok 282 ∧
      ∀ part ∈ tailImage.sections, ¬part.HasRaw 282 ∧ ∀ offset, part.HasRaw offset →
        outcome (nameToEnd offset) file.source file.cursor ≠ .ok "x" := by
  obtain ⟨file, opened, source, image, cursor, symbols⟩ := tailSample_opened
  refine ⟨file, opened, image, symbols, ?_, ?_⟩
  · rw [source, cursor]
    decide +kernel
  · rw [source, cursor]
    intro part member
    obtain rfl : part = ⟨".edata", 0x1000, 0x1000, 50, 232⟩ := by simpa [tailImage] using member
    refine ⟨by decide, ?_⟩
    intro offset raw
    have among : ∀ index < 50, outcome (nameToEnd (232 + index)) { bytes := tailSample }
        ⟨216, .little⟩ ≠ .ok "x" := by
      decide +kernel
    have start : 232 ≤ offset := raw.1
    have ending : offset < 232 + 50 := raw.2
    have other := among (offset - 232) (by omega)
    rwa [Nat.add_sub_cancel' start] at other

end LibraryFile

end SharedObject
