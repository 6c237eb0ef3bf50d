import SharedObject.Proofs.Format.SectionCount
import SharedObject.Proofs.LibraryFile.Coherence
import SharedObject.Proofs.LibraryFile.CutOff
import SharedObject.Proofs.Pe.Translation
import SharedObject.Proofs.Scan.TextCount

/-!
# Listings are bounded by the file

The counts in a file may be anything, its tables may overlap, and many symbols may have
their names at one place.  Still, a file has no more sections than there is room for section
headers, and, each name being listed once, no more symbols than texts, which are no more than
its bytes.
-/

namespace SharedObject

open Scan

namespace Image

/-- How a text in the file reads as the name of a symbol. -/
def reading : Image → String → String
  | .machO _ => MachO.withoutUnderscore
  | .elf _ | .pe _ => id

/-- The name of a symbol is a text in the file, as the image reads it. -/
def Spells (image : Image) (source : Source) (name : String) : Prop :=
  ∃ offset text, source.HoldsText offset text ∧ name = image.reading text

end Image

section Located

variable {source : Source} {cursor : Cursor} {names : List String} {name : String}

theorem Elf.Image.spells_of_mem (image : Elf.Image) {keep : Elf.Symbol → Bool}
    (given : outcome (image.exportedNames keep) source cursor = .ok names)
    (member : name ∈ names) : (Image.elf image).Spells source name := by
  obtain ⟨_, table, _, _, symbol, _, declared⟩ := (image.mem_exportedNames given name).mp member
  obtain ⟨strings, symbols, _, _, _, _, named⟩ := declared
  obtain ⟨_, read⟩ := exists_of_outcome_ok named
  exact ⟨_, name, nameAt_ok read, rfl⟩

theorem Pe.Image.spells_of_mem (image : Pe.Image) {part : Option Pe.Section}
    (given : outcome (image.exportedNames part) source cursor = .ok names)
    (member : name ∈ names) : (Image.pe image).Spells source name := by
  obtain ⟨address, part, offset, _, named⟩ := Pe.Image.translates_of_mem part given member
  obtain ⟨_, read⟩ := exists_of_outcome_ok named
  exact ⟨offset, name, nameToEnd_ok read, rfl⟩

theorem MachO.Image.spells_of_mem (image : MachO.Image) {keep : MachO.Symbol → Bool}
    (given : outcome (image.exportedNames keep) source cursor = .ok names)
    (member : name ∈ names) : (Image.machO image).Spells source name := by
  obtain ⟨_, table, _, index, _, symbol, _, declared⟩ :=
    (image.mem_exportedNames given name).mp member
  obtain ⟨_, _, named⟩ := declared
  obtain ⟨_, answered⟩ := exists_of_outcome_ok named
  obtain ⟨text, _, read, given⟩ := bind_ok.mp (sum_next answered)
  cases given
  exact ⟨_, text, nameAt_ok read, rfl⟩

end Located

namespace Format

/-- The least size of a section header. -/
def sectionHeaderSize : Format → Nat
  | .elf width => Elf.headerSize width
  | .pe _ => Pe.sectionHeaderSize
  | .machO width => MachO.sectionHeaderSize width

theorem le_sectionHeaderSize (format : Format) : 40 ≤ format.sectionHeaderSize := by
  rcases format with width | width | width <;> cases width <;> decide

end Format

namespace Image

variable {source : Source} {cursor start moved : Cursor} {image : Image} {names : List String}

/-- The section names that an image lists are those of section headers in the file. -/
theorem length_sections_le {format : Format}
    (parsed : parse format source start = .ok image moved)
    (given : outcome (image.answer .sections) source cursor = .ok names) :
    names.length * format.sectionHeaderSize ≤ source.size := by
  rcases parse_cases parsed with ⟨width, found, rfl, rfl, read⟩ |
    ⟨width, found, rfl, rfl, read⟩ | ⟨width, found, rfl, rfl, read⟩
  · obtain ⟨_, listed⟩ := exists_of_outcome_ok given
    have length := (mapM_ok listed).length_eq
    rw [Array.length_toList] at length
    rw [← length]
    exact Elf.headers_inside read
  · obtain rfl := outcome_pure.mp given
    rw [List.length_map]
    exact Pe.sections_inside read
  · obtain rfl := outcome_pure.mp given
    exact MachO.sections_inside read

variable (image)

theorem spells_of_symbols
    (given : outcome (image.answer .symbols) source cursor = .ok names) :
    ∀ name ∈ names, image.Spells source name := by
  intro name member
  cases image with
  | elf image =>
      have given : outcome (image.exportedNames fun _ => true) source cursor = .ok names := given
      exact image.spells_of_mem given member
  | pe image =>
      have given : outcome (image.exportedNames none) source cursor = .ok names := given
      exact image.spells_of_mem given member
  | machO image =>
      have given : outcome (image.exportedNames fun _ => true) source cursor = .ok names := given
      exact image.spells_of_mem given member

theorem spells_of_sectionSymbols {part : String}
    (given : outcome (image.answer (.sectionSymbols part)) source cursor = .ok names) :
    ∀ name ∈ names, image.Spells source name := by
  intro name member
  have nonempty := List.ne_nil_of_mem member
  cases image with
  | elf image =>
      obtain ⟨keep, given⟩ := (image.sectionSymbols_cases given).resolve_left nonempty
      exact image.spells_of_mem given member
  | pe image =>
      obtain ⟨kept, given⟩ := (image.sectionSymbols_cases given).resolve_left nonempty
      exact image.spells_of_mem given member
  | machO image =>
      obtain ⟨keep, given⟩ := (image.sectionSymbols_cases given).resolve_left nonempty
      exact image.spells_of_mem given member

end Image

namespace LibraryFile

/-- The most names that a query of a file of so many bytes gives. -/
def mostNames (query : Query) (size : Nat) : Nat :=
  match query with
  | .sections => size / 40
  | .symbols | .sectionSymbols _ => size

/-- A file that opens lists at most as many sections as section headers fit into it, and at
most as many symbols, of a section or of all, as it has bytes, whatever it is asked before. -/
theorem ask_bounded {source : Source} {nativeOnly : Bool} {file : LibraryFile}
    (opened : (ofSource source nativeOnly).outcome = .ok file) (earlier : List Query)
    {query : Query} {names : List String}
    (given : ((file.after earlier).ask query).1 = .ok names) :
    names.length ≤ mostNames query source.size := by
  obtain ⟨_, same, _⟩ := ofSource_ok.mp opened
  obtain ⟨_, _, start, parsed⟩ := fits_of_opened opened
  rw [ask_after, ask_eq_outcome, same] at given
  cases query with
  | sections =>
      have room := Image.length_sections_le parsed given
      have least := Nat.mul_le_mul_left names.length file.format.le_sectionHeaderSize
      exact (Nat.le_div_iff_mul_le (by decide)).mpr (Nat.le_trans least room)
  | symbols =>
      have spelled := file.image.spells_of_symbols given
      exact Source.length_le_size_of_holdsText (file.image.nodup_symbols given) _ spelled
  | sectionSymbols part =>
      have spelled := file.image.spells_of_sectionSymbols given
      exact Source.length_le_size_of_holdsText (file.image.nodup_sectionSymbols given) _ spelled

/-- A Mach-O file with one section and four symbols in it, whose names overlap: they start at
each byte of one text, the last of them twice. -/
def overlapSample : Array UInt8 :=
  List.toArray <|
    [0xCE, 0xFA, 0xED, 0xFE] ++ List.replicate 12 0 ++ [2, 0, 0, 0, 148, 0, 0, 0, 0, 0, 0, 0] ++
      [1, 0, 0, 0, 124, 0, 0, 0] ++ List.replicate 40 0 ++ [1, 0, 0, 0, 0, 0, 0, 0] ++
      [0x74] ++ List.replicate 15 0 ++ [0x54] ++ List.replicate 51 0 ++
      [2, 0, 0, 0, 24, 0, 0, 0, 176, 0, 0, 0, 4, 0, 0, 0, 224, 0, 0, 0, 5, 0, 0, 0] ++
      [1, 0, 0, 0, 0x0F, 1, 0, 0, 0, 0, 0, 0] ++ [2, 0, 0, 0, 0x0F, 1, 0, 0, 0, 0, 0, 0] ++
      [3, 0, 0, 0, 0x0F, 1, 0, 0, 0, 0, 0, 0] ++ [3, 0, 0, 0, 0x0F, 1, 0, 0, 0, 0, 0, 0] ++
      [0, 0x5F, 0x66, 0x67, 0]

/-- Of four names two are listed. -/
theorem ask_bounded_of_overlap :
    ∃ file, (ofSource { bytes := overlapSample } false).outcome = .ok file ∧
      ((file.after []).ask .sections).1 = .ok ["T,t"] ∧
      ((file.after [.sections]).ask .symbols).1 = .ok ["fg", "g"] ∧
      ["T,t"].length ≤ mostNames .sections overlapSample.size ∧
      ["fg", "g"].length ≤ mostNames .symbols overlapSample.size := by
  have opens : (ofSource { bytes := overlapSample } false).outcome.toOption.map (fun file =>
      (((file.after []).ask .sections).1, ((file.after [.sections]).ask .symbols).1)) =
        some (.ok ["T,t"], .ok ["fg", "g"]) := by
    decide +kernel
  obtain ⟨file, opened, shown⟩ := exists_opened opens
  obtain ⟨sections, symbols⟩ : _ ∧ _ := by
    simpa only [Prod.mk.injEq] using shown
  exact ⟨file, opened, sections, symbols, ask_bounded opened [] sections,
    ask_bounded opened [.sections] symbols⟩

end LibraryFile

end SharedObject
