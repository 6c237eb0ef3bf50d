import SharedObject.Proofs.Elf.ReservedIndex
import SharedObject.Proofs.LibraryFile.Independence
import SharedObject.Proofs.LibraryFile.Listing

/-!
# Symbols with reserved section indices

The symbols that an ELF file lists for a section are told by the number of its header.  A
file with enough sections has headers whose numbers are reserved section indices.
-/

namespace SharedObject

open Scan

namespace LibraryFile

/-- An ELF file lists for a section name the symbols whose section index is the number of
the first header of this name, whatever it is asked before.  With at most 0xFF00 section
headers, it lists no symbol for its reserved index.  When the number of the first header is
a reserved index, all that is listed is listed for such an index, and only numbers of 16 bits
are section indices. -/
theorem ask_sectionSymbols_reserved (file : LibraryFile) (earlier : List Query)
    {image : Elf.Image} (isElf : file.image = .elf image) {name : String} {part : List String}
    (given : ((file.after earlier).ask (.sectionSymbols name)).1 = .ok part) :
    let IsFirst := image.FirstIn file.source file.cursor name image.headers.toList
    let Exports := image.Exports file.source file.cursor
    (∀ listed, listed ∈ part ↔
      ∃ position, IsFirst position ∧ Exports (·.sectionIndex.toNat = position) listed) ∧
    (image.headers.size ≤ Elf.reservedIndices →
      ∀ listed ∈ part, Exports (¬·.IsReserved) listed) ∧
    ∀ position, IsFirst position → Elf.reservedIndices ≤ position →
      ∀ listed ∈ part, position < 0x10000 ∧ Exports Elf.Symbol.IsReserved listed := by
  intro IsFirst Exports
  rw [ask_after, ask_eq_outcome, isElf] at given
  have selects (listed : String) := Elf.Image.mem_sectionSymbols_iff given listed
  refine ⟨selects, ?_, ?_⟩
  · intro few listed member
    obtain ⟨position, first, defines⟩ := (selects listed).mp member
    have below : position < Elf.reservedIndices := by
      have inside := first.lt
      rw [Array.length_toList] at inside
      exact Nat.lt_of_lt_of_le inside few
    apply defines.exports.mono
    intro symbol sameNumber isReserved
    have above := Nat.le_trans isReserved (Nat.le_of_eq sameNumber)
    exact Nat.not_lt.mpr above below
  · intro position first reserved listed member
    obtain ⟨other, also, defines⟩ := (selects listed).mp member
    obtain rfl := first.unique also
    refine ⟨defines.lt, defines.exports.mono ?_⟩
    intro symbol sameNumber
    exact Nat.le_trans reserved (Nat.le_of_eq sameNumber.symm)

/-! ## A file with many sections -/

/-- The one exported symbol is absolute. -/
def crowdedSymbols : List (Elf.NamedSymbol .bits32) :=
  [{ name := "", record := ⟨⟨0, 0, 0, 0⟩, 0, 0⟩ },
    { name := "f", record := ⟨⟨3, 0x10, 0, 0xFFF1⟩, 0, 0⟩ }]

/-- A string table at an offset, which is the name table as well. -/
def crowdedNames (strings : Nat) : Elf.NamedSection .bits32 where
  name := ""
  record := ⟨0, 3, 0, 0, .ofNat 32 strings, 5, 0, 0, 0, 0⟩

/-- The symbol table behind the string table. -/
def crowdedTable (strings : Nat) : Elf.NamedSection .bits32 where
  name := ""
  record := ⟨0, 2, 0, 0, .ofNat 32 (strings + 5), 32, 1, 1, 0, 16⟩
  symbols := crowdedSymbols

/-- A section `t` after so many empty ones.  The number of the headers is in the first. -/
def crowdedSections (blanks strings : Nat) : List (Elf.NamedSection .bits32) :=
  [{ name := "", record := ⟨0, 0, 0, 0, 0, .ofNat 32 (blanks + 4), 0, 0, 0, 0⟩ },
    crowdedNames strings, crowdedTable strings] ++
    (List.replicate blanks { name := "", record := ⟨0, 0, 0, 0, 0, 0, 0, 0, 0, 0⟩ } ++
      [{ name := "t", record := ⟨1, 1, 0, 0, 0, 0, 0, 0, 0, 0⟩ }])

/-- Where the headers of the sections end. -/
def crowdedStrings (blanks : Nat) : Nat :=
  52 + (blanks + 4) * 40

def crowdedLayout (blanks : Nat) : Elf.Layout .bits32 where
  order := .little
  file :=
    { identityRest := #v[1, 0, 0, 0, 0, 0, 0, 0, 0, 0], kind := 3, machine := 3, version := 1
      entry := 0, programHeaders := 0, tableOffset := 52, flags := 0, headerSize := 52
      programEntrySize := 0, programCount := 0, entrySize := 40, sectionCount := 0
      nameTable := 1 }
  nameTable := 1
  sections := crowdedSections blanks (crowdedStrings blanks)

def crowdedBytes (blanks : Nat) : List UInt8 :=
  let layout := crowdedLayout blanks
  let table := layout.sections.flatMap fun part => part.record.bytes .little
  let symbols := crowdedSymbols.flatMap fun symbol => symbol.record.bytes .little
  layout.file.identity .little ++ (layout.file.fields .little ++
    (table ++ ([0] ++ ([0x74, 0] ++ ([0x66, 0] ++ symbols)))))

def crowdedSource (blanks : Nat) : Source :=
  { bytes := (crowdedBytes blanks).toArray }

section Crowded

variable (blanks : Nat)

theorem length_crowdedSections (strings : Nat) :
    (crowdedSections blanks strings).length = blanks + 4 := by
  simp [crowdedSections]

theorem length_crowdedHeaders : ((crowdedLayout blanks).sections.flatMap fun part =>
    part.record.bytes .little).length = (blanks + 4) * 40 := by
  rw [Source.length_flatMap_of_stride fun part _ => part.record.length_bytes .little]
  exact congrArg (· * 40) (length_crowdedSections blanks _)

theorem length_crowdedSymbols : (crowdedSymbols.flatMap fun symbol =>
    symbol.record.bytes .little).length = 32 := by
  rw [Source.length_flatMap_of_stride fun symbol _ => symbol.record.length_bytes .little]
  rfl

theorem size_crowdedSource : (crowdedSource blanks).size = crowdedStrings blanks + 37 := by
  have identity := (crowdedLayout blanks).file.length_identity .little
  have fields : ((crowdedLayout blanks).file.fields .little).length = 36 :=
    Elf.FileRecord.length_fields _ _
  simp only [Source.size, crowdedSource, crowdedBytes, List.size_toArray, List.length_append,
    identity, fields, length_crowdedHeaders, length_crowdedSymbols, List.length_cons,
    List.length_nil, crowdedStrings]
  omega

/-- Where the parts of the file are. -/
theorem crowdedSource_parts :
    let source := crowdedSource blanks
    source.Holds 0 ((crowdedLayout blanks).file.identity .little) ∧
      source.Holds 16 ((crowdedLayout blanks).file.fields .little) ∧
      source.Holds 52 ((crowdedLayout blanks).sections.flatMap fun part =>
        part.record.bytes .little) ∧
      source.Holds (crowdedStrings blanks) [0] ∧
      source.Holds (crowdedStrings blanks + 1) [0x74, 0] ∧
      source.Holds (crowdedStrings blanks + 3) [0x66, 0] ∧
      source.Holds (crowdedStrings blanks + 5) (crowdedSymbols.flatMap fun symbol =>
        symbol.record.bytes .little) := by
  intro source
  have identity := (crowdedLayout blanks).file.length_identity .little
  have fields : ((crowdedLayout blanks).file.fields .little).length = 36 :=
    Elf.FileRecord.length_fields _ _
  have whole : source.Holds 0 (crowdedBytes blanks) := source.holds_all
  simp only [crowdedBytes, Source.holds_append, identity, fields, length_crowdedHeaders,
    List.length_cons, List.length_nil, Nat.zero_add, Nat.reduceAdd, ← crowdedStrings.eq_1,
    Nat.add_assoc] at whole
  exact whole

theorem crowdedSections_name {strings : Nat} {part : Elf.NamedSection .bits32}
    (member : part ∈ crowdedSections blanks strings) :
    part.name = "" ∧ part.record.name = 0 ∨ part.name = "t" ∧ part.record.name = 1 := by
  simp only [crowdedSections, List.mem_append, List.mem_cons, List.mem_replicate,
    List.not_mem_nil, or_false] at member
  rcases member with (rfl | rfl | rfl) | ⟨-, rfl⟩ | rfl
  · exact .inl ⟨rfl, rfl⟩
  · exact .inl ⟨rfl, rfl⟩
  · exact .inl ⟨rfl, rfl⟩
  · exact .inl ⟨rfl, rfl⟩
  · exact .inr ⟨rfl, rfl⟩

theorem crowdedSections_cases {strings : Nat} {part : Elf.NamedSection .bits32}
    (member : part ∈ crowdedSections blanks strings) :
    part = crowdedTable strings ∨ ¬part.IsTable ∧ part.symbols = [] := by
  simp only [crowdedSections, List.mem_append, List.mem_cons, List.mem_replicate,
    List.not_mem_nil, or_false] at member
  rcases member with (rfl | rfl | rfl) | ⟨-, rfl⟩ | rfl
  · simp [Elf.NamedSection.IsTable]
  · simp [Elf.NamedSection.IsTable, crowdedNames]
  · exact .inl rfl
  · simp [Elf.NamedSection.IsTable]
  · simp [Elf.NamedSection.IsTable]

theorem idxOf?_crowdedSections (strings : Nat) :
    ((crowdedSections blanks strings).map (·.name)).idxOf? "t" = some (blanks + 3) := by
  have names : (crowdedSections blanks strings).map (·.name) =
      List.replicate (blanks + 3) "" ++ ["t"] := by
    simp [crowdedSections, crowdedNames, crowdedTable, List.replicate_succ]
  rw [names]
  generalize blanks + 3 = count
  induction count with
  | zero => rfl
  | succ count ih =>
      rw [List.replicate_succ, List.cons_append, List.idxOf?_cons, ih]
      rfl

theorem filter_crowdedSections (strings : Nat) :
    (crowdedSections blanks strings).filter (·.IsTable) = [crowdedTable strings] := by
  simp [crowdedSections, crowdedNames, crowdedTable, Elf.NamedSection.IsTable]

/-- The absolute symbol is listed for `t` when the number of the section is that which marks
absolute symbols. -/
theorem listing_crowdedLayout (absolute : blanks + 3 = 0xFFF1) :
    (crowdedLayout blanks).listing (.sectionSymbols "t") = ["f"] := by
  have found : ((crowdedLayout blanks).sections.map (·.name)).idxOf? "t" = some 0xFFF1 :=
    absolute ▸ idxOf?_crowdedSections blanks _
  have tables : (crowdedLayout blanks).sections.filter (·.IsTable) =
      [crowdedTable (crowdedStrings blanks)] :=
    filter_crowdedSections blanks _
  rw [Elf.Layout.listing, found]
  dsimp only
  rw [Elf.Layout.listing.exportedNames, tables]
  rfl

variable {blanks} (small : blanks ≤ 2 ^ 20)
include small

theorem toNat_crowdedStrings {distance : Nat} (near : distance ≤ 37) :
    (BitVec.ofNat 32 (crowdedStrings blanks + distance)).toNat =
      crowdedStrings blanks + distance := by
  rw [BitVec.toNat_ofNat, crowdedStrings]
  omega

theorem crowdedNames_offset :
    (crowdedNames (crowdedStrings blanks)).record.offset.toNat = crowdedStrings blanks :=
  toNat_crowdedStrings small (Nat.zero_le 37)

theorem crowdedNames_contentEnd :
    (crowdedNames (crowdedStrings blanks)).contentEnd = crowdedStrings blanks + 5 := by
  rw [Elf.NamedSection.contentEnd, crowdedNames_offset small]
  rfl

theorem crowdedTable_offset :
    (crowdedTable (crowdedStrings blanks)).record.offset.toNat = crowdedStrings blanks + 5 :=
  toNat_crowdedStrings small (by decide)

theorem crowdedLayout_names :
    (crowdedLayout blanks).NamesHeldBy (crowdedSource blanks)
      (crowdedNames (crowdedStrings blanks)) := by
  obtain ⟨-, -, -, empty, text, -⟩ := crowdedSource_parts blanks
  constructor
  · rfl
  · rw [crowdedNames_contentEnd small, size_crowdedSource]
    omega
  · intro part member
    rw [crowdedNames_contentEnd small, crowdedNames_offset small]
    rcases crowdedSections_name blanks member with ⟨name, place⟩ | ⟨name, place⟩
    · rw [name, place]
      have inside : (0 : UInt32).toNat + (utf8Bytes "").length < 5 := by decide
      exact ⟨by decide, empty, by omega⟩
    · rw [name, place]
      have inside : (1 : UInt32).toNat + (utf8Bytes "t").length < 5 := by decide
      exact ⟨by decide, text, by omega⟩

theorem crowdedLayout_symbols :
    (crowdedLayout blanks).SymbolsHeldBy (crowdedSource blanks)
      (crowdedTable (crowdedStrings blanks)) (crowdedNames (crowdedStrings blanks)) := by
  obtain ⟨-, -, -, -, -, symbol, entries⟩ := crowdedSource_parts blanks
  constructor
  · exact .inr (Nat.le_refl 16)
  · rfl
  · rw [Elf.NamedSection.contentEnd, crowdedTable_offset small, size_crowdedSource]
    exact Nat.le_refl _
  · intro index among
    rw [crowdedTable_offset small]
    exact entries.entry (fun symbol _ => symbol.record.length_bytes .little) index among
  · rfl
  · rw [crowdedNames_contentEnd small, size_crowdedSource]
    omega
  · intro named member exported
    rw [crowdedNames_contentEnd small, crowdedNames_offset small]
    simp only [crowdedTable, crowdedSymbols, List.mem_cons, List.not_mem_nil, or_false] at member
    rcases member with rfl | rfl
    · exact absurd exported (by decide)
    · have inside : (3 : UInt32).toNat + (utf8Bytes "f").length < 5 := by decide
      exact ⟨by decide, symbol, by dsimp only; omega⟩

theorem crowdedLayout_held : (crowdedLayout blanks).HeldBy (crowdedSource blanks) := by
  obtain ⟨identity, fields, headers, -⟩ := crowdedSource_parts blanks
  have count : (crowdedLayout blanks).sections.length = blanks + 4 :=
    length_crowdedSections blanks _
  have stored : (BitVec.ofNat 32 (blanks + 4)).toNat = blanks + 4 := by
    rw [BitVec.toNat_ofNat]
    omega
  refine ⟨identity, fields, .inr ⟨{ name := "", record := ⟨0, 0, 0, 0, 0, .ofNat 32 (blanks + 4),
    0, 0, 0, 0⟩ }, ?_⟩⟩
  constructor
  · have present : (52 : BitVec 32) ≠ 0 := by decide
    exact present
  · rfl
  · exact Nat.le_refl 40
  · rw [count, size_crowdedSource]
    exact Nat.le_add_right (crowdedStrings blanks) 37
  · rw [count]
    exact stored.symm
  · rfl
  · exact Nat.one_ne_zero
  · intro index among
    exact headers.entry (fun part _ => part.record.length_bytes .little) index among
  · exact ⟨_, crowdedLayout_names small⟩
  · intro table member isTable
    rcases crowdedSections_cases blanks member with rfl | ⟨isNone, -⟩
    · exact ⟨_, crowdedLayout_symbols small⟩
    · exact absurd isTable isNone

theorem crowdedSource_opened :
    ∃ file, (ofSource (crowdedSource blanks) false).outcome = .ok file ∧
      file.image = .elf (crowdedLayout blanks).image ∧
      ∀ query, (file.ask query).1 = .ok ((crowdedLayout blanks).listing query) := by
  have held := crowdedLayout_held small
  have bounded : (crowdedSource blanks).size < 2 ^ 64 := by
    rw [size_crowdedSource, crowdedStrings]
    omega
  have permitted : (Format.elf .bits32).permit false = pure () := rfl
  obtain ⟨file, opened, image, answers⟩ := ofSource_of_fits rfl (held.fits rfl) permitted
    (fun cursor => (held.yields_parse rfl bounded cursor).map Image.elf)
    (held.yields_answer rfl bounded)
  refine ⟨file, opened, image, fun query => ?_⟩
  have answered := answers [query]
  rw [askAll_cons] at answered
  exact (List.cons.inj answered).1

end Crowded

/-- The section `t` has the number that marks absolute symbols. -/
theorem ask_sectionSymbols_reserved_of_crowd :
    ∃ file image, (ofSource (crowdedSource 65518) false).outcome = .ok file ∧
      file.image = .elf image ∧
      ((file.after []).ask (.sectionSymbols "t")).1 = .ok ["f"] ∧
      ∃ position, image.FirstIn file.source file.cursor "t" image.headers.toList position ∧
        image.Exports file.source file.cursor (·.sectionIndex.toNat = position) "f" := by
  obtain ⟨file, opened, image, answers⟩ := crowdedSource_opened (show 65518 ≤ 2 ^ 20 by decide)
  have given : ((file.after []).ask (.sectionSymbols "t")).1 = .ok ["f"] :=
    (answers _).trans (congrArg _ (listing_crowdedLayout 65518 rfl))
  obtain ⟨selects, -⟩ := file.ask_sectionSymbols_reserved [] image given
  exact ⟨file, _, opened, image, given, (selects "f").mp (by simp)⟩

/-- The only exported symbol is absolute, and it is listed for a section, as the first section
of this name has the number that marks absolute symbols. -/
theorem reserved_listed_of_crowd :
    let layout := crowdedLayout 65518
    layout.HeldBy (crowdedSource 65518) ∧
      (∀ part ∈ layout.sections, ∀ symbol ∈ part.symbols, symbol.record.toSymbol.Exported →
        symbol.record.sectionIndex = 0xFFF1) ∧
      (layout.sections.map (·.name)).idxOf? "t" = some 0xFFF1 ∧
      ∃ file, (ofSource (crowdedSource 65518) false).outcome = .ok file ∧
        (file.ask (.sectionSymbols "t")).1 = .ok ["f"] := by
  intro layout
  obtain ⟨file, opened, _, answers⟩ := crowdedSource_opened (show 65518 ≤ 2 ^ 20 by decide)
  have given := (answers (.sectionSymbols "t")).trans
    (congrArg _ (listing_crowdedLayout 65518 rfl))
  refine ⟨crowdedLayout_held (by decide), ?_, idxOf?_crowdedSections 65518 _, file, opened, given⟩
  intro part member symbol among exported
  rcases crowdedSections_cases 65518 member with rfl | ⟨-, noSymbols⟩
  · simp only [crowdedTable, crowdedSymbols, List.mem_cons, List.not_mem_nil, or_false] at among
    rcases among with rfl | rfl
    · exact absurd exported (by decide)
    · rfl
  · simp [noSymbols] at among

end LibraryFile

end SharedObject
