import SharedObject.Proofs.Elf.Membership
import SharedObject.Proofs.LibraryFile.Independence
import SharedObject.Proofs.MachO.Membership
import SharedObject.Proofs.Pe.Membership

/-!
# Sections are looked up by name

A section is asked for by its name, and the name may be that of several sections.  The
symbols listed are those of the first of them; the symbols of the others are listed under
no name.
-/

namespace SharedObject

open Scan

namespace Image

variable {source : Source} {cursor : Cursor}

/-- From the cursor, the file is read to export a name that the section at a position, of
all sections in their order, defines. -/
def DefinesAt (source : Source) (cursor : Cursor) (position : Nat) (name : String) :
    Image → Prop
  | .elf image => image.DefinesAt source cursor position name
  | .pe image => image.DefinesAt source cursor position name
  | .machO image => image.DefinesAt source cursor position name

theorem mem_sectionSymbols (image : Image) {name : String} {sections part : List String}
    {position : Nat} (listed : outcome (image.answer .sections) source cursor = .ok sections)
    (first : sections.idxOf? name = some position)
    (given : outcome (image.answer (.sectionSymbols name)) source cursor = .ok part)
    (symbol : String) : symbol ∈ part ↔ image.DefinesAt source cursor position symbol := by
  cases image with
  | elf image => exact image.mem_sectionSymbols listed first given symbol
  | pe image =>
      obtain rfl := outcome_pure.mp listed
      exact image.mem_sectionSymbols first given symbol
  | machO image =>
      obtain rfl := outcome_pure.mp listed
      exact image.mem_sectionSymbols first given symbol

end Image

namespace LibraryFile

/-- Asked for the symbols of a section by its name, a file lists those that the first
section of this name defines, each of them and no others, whatever else it is asked
before.  So a section loses no symbols unless an earlier one has the same name. -/
theorem ask_sectionSymbols (file : LibraryFile) (earlier others : List Query)
    {sections part : List String} {index : Nat} {name : String}
    (listed : ((file.after earlier).ask .sections).1 = .ok sections)
    (named : sections[index]? = some name)
    (given : ((file.after others).ask (.sectionSymbols name)).1 = .ok part) :
    ∃ position ≤ index, sections[position]? = some name ∧
      (∀ before < position, sections[before]? ≠ some name) ∧
      ∀ symbol, symbol ∈ part ↔ file.image.DefinesAt file.source file.cursor position symbol := by
  rw [ask_after, ask_eq_outcome] at listed given
  have member : name ∈ sections := List.mem_of_getElem? named
  cases first : sections.idxOf? name with
  | none => exact absurd member (List.idxOf?_eq_none_iff.mp first)
  | some position =>
      obtain ⟨inside, same, unlike⟩ := List.idxOf?_eq_some_iff.mp first
      have missed : ∀ before < position, sections[before]? ≠ some name := by
        intro before isBefore also
        rw [List.getElem?_eq_getElem (by omega), Option.some.injEq] at also
        exact unlike before isBefore also
      have notLater : position ≤ index := by
        by_contra later
        exact missed index (by omega) named
      refine ⟨position, notLater, ?_, missed, ?_⟩
      · rw [List.getElem?_eq_getElem inside, same]
      · exact file.image.mem_sectionSymbols listed first given

/-- A Mach-O file with two sections of one name, the symbol `f` defined in the first and the
symbol `g` in the second. -/
def twinSample : Array UInt8 :=
  #[0xCE, 0xFA, 0xED, 0xFE] ++ Array.replicate 12 0 ++ #[2, 0, 0, 0, 216, 0, 0, 0, 0, 0, 0, 0] ++
    #[1, 0, 0, 0, 192, 0, 0, 0] ++ Array.replicate 40 0 ++ #[2, 0, 0, 0, 0, 0, 0, 0] ++
    #[0x74] ++ Array.replicate 15 0 ++ #[0x54] ++ Array.replicate 51 0 ++
    #[0x74] ++ Array.replicate 15 0 ++ #[0x54] ++ Array.replicate 51 0 ++
    #[2, 0, 0, 0, 24, 0, 0, 0, 244, 0, 0, 0, 2, 0, 0, 0, 12, 1, 0, 0, 5, 0, 0, 0] ++
    #[1, 0, 0, 0, 0x0F, 1, 0, 0, 0, 0, 0, 0] ++ #[3, 0, 0, 0, 0x0F, 2, 0, 0, 0, 0, 0, 0] ++
    #[0, 0x66, 0, 0x67, 0]

theorem twinSample_answers :
    ∃ file, (ofSource { bytes := twinSample } false).outcome = .ok file ∧
      ((file.after []).ask .sections).1 = .ok ["T,t", "T,t"] ∧
      ((file.after [.symbols]).ask (.sectionSymbols "T,t")).1 = .ok ["f"] := by
  have answers : (ofSource { bytes := twinSample } false).outcome.toOption.map (fun file =>
      (((file.after []).ask .sections).1,
        ((file.after [.symbols]).ask (.sectionSymbols "T,t")).1)) =
          some (.ok ["T,t", "T,t"], .ok ["f"]) := by
    simp only [twinSample, ← List.toArray_replicate, List.append_toArray]
    decide +kernel
  obtain ⟨file, opened, shown⟩ := exists_opened answers
  obtain ⟨sections, part⟩ : _ ∧ _ := by
    simpa only [Prod.mk.injEq] using shown
  exact ⟨file, opened, sections, part⟩

/-- Asked for the second of two sections of one name, a file answers for the first. -/
theorem ask_sectionSymbols_of_twins :
    ∃ file, (ofSource { bytes := twinSample } false).outcome = .ok file ∧
      ((file.after []).ask .sections).1 = .ok ["T,t", "T,t"] ∧
      ((file.after [.symbols]).ask (.sectionSymbols "T,t")).1 = .ok ["f"] ∧
      ∃ position ≤ 1, ["T,t", "T,t"][position]? = some "T,t" ∧
        (∀ before < position, ["T,t", "T,t"][before]? ≠ some "T,t") ∧
        ∀ symbol, symbol ∈ ["f"] ↔
          file.image.DefinesAt file.source file.cursor position symbol := by
  obtain ⟨file, opened, sections, part⟩ := twinSample_answers
  have named : ["T,t", "T,t"][1]? = some "T,t" := rfl
  exact ⟨file, opened, sections, part, file.ask_sectionSymbols [] [.symbols] sections named part⟩

/-- The symbol of the second section is not listed for the name that both have. -/
theorem symbol_lost_of_twins :
    ¬∀ (file : LibraryFile) (sections part : List String) (index : Nat) (name symbol : String),
      (ofSource { bytes := twinSample } false).outcome = .ok file →
      ((file.after []).ask .sections).1 = .ok sections → sections[index]? = some name →
      ((file.after [.symbols]).ask (.sectionSymbols name)).1 = .ok part →
      file.image.DefinesAt file.source file.cursor index symbol → symbol ∈ part := by
  intro kept
  obtain ⟨file, opened, sections, part⟩ := twinSample_answers
  have headers : (ofSource { bytes := twinSample } false).outcome.toOption.map (fun file =>
      (file.image, file.cursor)) =
        some (.machO ⟨.bits32, 2, ⟨["T,t", "T,t"], some ⟨244, 2, 268, 5⟩⟩⟩, ⟨244, .little⟩) := by
    decide +kernel
  obtain ⟨_, source, _⟩ := ofSource_ok.mp opened
  have defined : file.image.DefinesAt file.source file.cursor 1 "g" := by
    obtain ⟨image, cursor⟩ : _ ∧ _ := by
      simpa only [Prod.mk.injEq] using view_of_opened opened headers
    rw [source, image, cursor]
    have read : MachO.Image.Declares .bits32 ⟨244, 2, 268, 5⟩ 273 { bytes := twinSample }
        ⟨244, .little⟩ 1 ⟨3, 0x0F, 2⟩ "g" := by
      refine ⟨?_, ?_, ?_⟩ <;> decide +kernel
    exact ⟨by decide, _, rfl, 1, by decide, _, by decide, read⟩
  have listed := kept file _ _ 1 "T,t" "g" opened sections rfl part defined
  exact absurd listed (by decide)

end LibraryFile

end SharedObject
