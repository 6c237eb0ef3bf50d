import SharedObject.Proofs.Elf.Membership
import SharedObject.Proofs.LibraryFile.Independence
import SharedObject.Proofs.MachO.Membership
import SharedObject.Proofs.Pe.Membership

/-!
# The listings of a file agree with each other

The symbols of a section are among the symbols of the file, no listing of symbols has a
name twice, and a name that no section has is the name of a section without symbols.
-/

namespace SharedObject

open Scan

namespace Image

variable {source : Source} {cursor : Cursor} (image : Image) {name : String}
  {listed part : List String}

theorem nodup_symbols
    (given : outcome (image.answer .symbols) source cursor = .ok listed) : listed.Nodup := by
  cases image with
  | elf image =>
      have given : outcome (image.exportedNames fun _ => true) source cursor = .ok listed := given
      exact image.nodup_exportedNames given
  | pe image =>
      have given : outcome (image.exportedNames none) source cursor = .ok listed := given
      exact image.nodup_exportedNames given
  | machO image =>
      have given : outcome (image.exportedNames fun _ => true) source cursor = .ok listed := given
      exact image.nodup_exportedNames given

theorem nodup_sectionSymbols
    (given : outcome (image.answer (.sectionSymbols name)) source cursor = .ok part) :
    part.Nodup := by
  cases image with
  | elf image =>
      rcases image.sectionSymbols_cases given with rfl | ⟨keep, given⟩
      · exact List.nodup_nil
      · exact image.nodup_exportedNames given
  | pe image =>
      rcases image.sectionSymbols_cases given with rfl | ⟨kept, given⟩
      · exact List.nodup_nil
      · exact image.nodup_exportedNames given
  | machO image =>
      rcases image.sectionSymbols_cases given with rfl | ⟨keep, given⟩
      · exact List.nodup_nil
      · exact image.nodup_exportedNames given

/-- The symbols of a section are symbols of the file. -/
theorem sectionSymbols_subset
    (all : outcome (image.answer .symbols) source cursor = .ok listed)
    (given : outcome (image.answer (.sectionSymbols name)) source cursor = .ok part) :
    part ⊆ listed := by
  cases image with
  | elf image =>
      rcases image.sectionSymbols_cases given with rfl | ⟨keep, given⟩
      · exact List.nil_subset listed
      · exact image.exportedNames_subset all given
  | pe image =>
      rcases image.sectionSymbols_cases given with rfl | ⟨kept, given⟩
      · exact List.nil_subset listed
      · exact image.exportedNames_subset all given
  | machO image =>
      rcases image.sectionSymbols_cases given with rfl | ⟨keep, given⟩
      · exact List.nil_subset listed
      · exact image.exportedNames_subset all given

/-- A name that is not listed as that of a section is the name of a section without
symbols, however the symbol tables may look. -/
theorem sectionSymbols_of_absent
    (given : outcome (image.answer .sections) source cursor = .ok listed)
    (absent : name ∉ listed) :
    outcome (image.answer (.sectionSymbols name)) source cursor = .ok [] := by
  cases image with
  | elf image => exact image.sectionSymbols_of_absent given absent
  | pe image =>
      obtain rfl := outcome_pure.mp given
      exact image.sectionSymbols_of_absent absent
  | machO image =>
      obtain rfl := outcome_pure.mp given
      exact image.sectionSymbols_of_absent absent

end Image

namespace LibraryFile

/-- The listings of a file are coherent, whatever else it is asked before each of them.
Where its symbols and the symbols of a section can both be listed, no name is listed twice
and those of the section are among all of them.  Where its sections can be listed and do
not have a name, the section of this name has no symbols: the answer is neither a name nor
a failure. -/
theorem ask_coherent (file : LibraryFile) (earlier others : List Query) (name : String) :
    (∀ listed part, ((file.after earlier).ask .symbols).1 = .ok listed →
      ((file.after others).ask (.sectionSymbols name)).1 = .ok part →
        listed.Nodup ∧ part.Nodup ∧ part ⊆ listed) ∧
    ∀ sections, ((file.after earlier).ask .sections).1 = .ok sections → name ∉ sections →
      ((file.after others).ask (.sectionSymbols name)).1 = .ok [] := by
  simp only [ask_after]
  simp only [ask_eq_outcome]
  constructor
  · intro listed part all given
    constructor
    · exact file.image.nodup_symbols all
    constructor
    · exact file.image.nodup_sectionSymbols given
    · exact file.image.sectionSymbols_subset all given
  · intro sections listed absent
    exact file.image.sectionSymbols_of_absent listed absent

/-- A Mach-O file with one section and one symbol in it, asked about this section and
about one that it does not have. -/
theorem ask_coherent_of_section :
    let bytes : Array UInt8 :=
      #[0xCE, 0xFA, 0xED, 0xFE] ++ Array.replicate 12 0 ++
        #[2, 0, 0, 0, 148, 0, 0, 0, 0, 0, 0, 0] ++
        #[1, 0, 0, 0, 124, 0, 0, 0] ++ Array.replicate 40 0 ++ #[1, 0, 0, 0, 0, 0, 0, 0] ++
        #[0x74] ++ Array.replicate 15 0 ++ #[0x54] ++ Array.replicate 51 0 ++
        #[2, 0, 0, 0, 24, 0, 0, 0, 176, 0, 0, 0, 1, 0, 0, 0, 188, 0, 0, 0, 4, 0, 0, 0] ++
        #[1, 0, 0, 0, 0x0F, 1, 0, 0, 0, 0, 0, 0] ++ #[0, 0x5F, 0x66, 0]
    ∃ file, (ofSource { bytes } false).outcome = .ok file ∧
      ((file.after []).ask .symbols).1 = .ok ["f"] ∧
      ((file.after [.symbols]).ask (.sectionSymbols "T,t")).1 = .ok ["f"] ∧
      ["f"].Nodup ∧ ["f"] ⊆ ["f"] ∧
      ((file.after []).ask .sections).1 = .ok ["T,t"] ∧ "t" ∉ ["T,t"] ∧
      ((file.after [.symbols]).ask (.sectionSymbols "t")).1 = .ok [] := by
  intro bytes
  have answers : (ofSource { bytes } false).outcome.toOption.map (fun file =>
      (((file.after []).ask .symbols).1, ((file.after [.symbols]).ask (.sectionSymbols "T,t")).1,
        ((file.after []).ask .sections).1)) = some (.ok ["f"], .ok ["f"], .ok ["T,t"]) := by
    decide +kernel
  obtain ⟨file, opened, shown⟩ := exists_opened answers
  obtain ⟨symbols, part, sections⟩ : _ ∧ _ ∧ _ := by
    simpa only [Prod.mk.injEq] using shown
  have absent : "t" ∉ ["T,t"] := by decide
  have among := (file.ask_coherent [] [.symbols] "T,t").1 ["f"] ["f"] symbols part
  have empty := (file.ask_coherent [] [.symbols] "t").2 ["T,t"] sections absent
  exact ⟨file, opened, symbols, part, among.1, among.2.2, sections, absent, empty⟩

end LibraryFile

end SharedObject
