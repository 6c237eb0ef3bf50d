import SharedObject.Pe.Export
import SharedObject.Proofs.Pe.Layout
import SharedObject.Proofs.Scan.Yielding

/-!
# PE files are listed as they are laid out

Reading the headers of a PE file gives the sections that its layout describes.  As the
spans of sections are disjoint, addresses lead to where the layout has the export tables,
and reading these gives the names of the layout.
-/

namespace SharedObject

namespace Pe

open Scan

variable {width : Width} {source : Source}

theorem directoriesOffset_eq (width : Width) :
    directoriesOffset width = Layout.directoryCountOffset width + 4 := by
  cases width <;> rfl

theorem directoryCountOffset_eq (width : Width) :
    directoryCountOffset width = Layout.directoryCountOffset width := by
  cases width <;> rfl

/-- What the text of digits is read as. -/
theorem readDigits_iff {digits : List Char} {number : Nat} :
    (if !digits.isEmpty && digits.all Char.isDigit then
        some (digits.foldl (fun value digit => value * 10 + (digit.toNat - 48)) 0)
      else none) = some number ↔
      digits ≠ [] ∧ (∀ digit ∈ digits, digit.isDigit = true) ∧
        Nat.ofDigitChars 10 digits 0 = number := by
  have value : digits.foldl (fun value digit => value * 10 + (digit.toNat - 48)) 0 =
      Nat.ofDigitChars 10 digits 0 := by
    rw [Nat.ofDigitChars_eq_foldl]
    simp only [Nat.mul_comm 10]
    rfl
  rw [value, Option.ite_none_right_eq_some, Option.some_inj]
  simp [and_assoc]

/-- A name refers to a number by a slash, perhaps a plus sign, and decimal digits. -/
theorem nameReference?_iff {name : String} {number : Nat} :
    nameReference? name = some number ↔
      ∃ sign digits, (sign = [] ∨ sign = ['+']) ∧ name.toList = '/' :: (sign ++ digits) ∧
        digits ≠ [] ∧ (∀ digit ∈ digits, digit.isDigit = true) ∧
        Nat.ofDigitChars 10 digits 0 = number := by
  unfold nameReference?
  constructor
  · intro refers
    split at refers
    · rename_i rest text
      rw [readDigits_iff] at refers
      by_cases plus : rest.head? = some '+'
      · obtain ⟨others, rfl⟩ := List.head?_eq_some_iff.mp plus
        rw [if_pos plus] at refers
        exact ⟨['+'], others, .inr rfl, text, refers⟩
      · rw [if_neg plus] at refers
        exact ⟨[], rest, .inl rfl, text, refers⟩
    · cases refers
  · rintro ⟨sign, digits, isSign, text, read⟩
    rw [text]
    rcases isSign with rfl | rfl
    · have noPlus : digits.head? ≠ some '+' := by
        intro plus
        have isDigit := read.2.1 '+' (List.mem_of_head? plus)
        exact absurd isDigit (by decide)
      simp only [List.nil_append, if_neg noPlus]
      rwa [readDigits_iff]
    · simp only [List.cons_append, List.nil_append, List.head?_cons, if_true, List.tail_cons]
      rwa [readDigits_iff]

/-- A slash and decimal digits refer to the number that these have. -/
theorem nameReference?_of_digits {digits : List Char} (nonempty : digits ≠ [])
    (decimal : ∀ digit ∈ digits, digit.isDigit) :
    nameReference? (String.ofList ('/' :: digits)) =
      some (Nat.ofDigitChars 10 digits 0) := by
  have text : (String.ofList ('/' :: digits)).toList = '/' :: ([] ++ digits) :=
    String.toList_ofList
  rw [nameReference?_iff]
  exact ⟨[], digits, .inl rfl, text, nonempty, decimal, rfl⟩

theorem nameReference?_of_head {name : String} (noSlash : name.toList.head? ≠ some '/') :
    nameReference? name = none := by
  rw [Option.eq_none_iff_forall_ne_some]
  intro number refers
  rw [nameReference?_iff] at refers
  obtain ⟨sign, digits, -, text, -⟩ := refers
  simp [text] at noSlash

/-- Where the string table is, behind the symbol table; 0 if there is none. -/
def FileRecord.stringTable (file : FileRecord) : Nat :=
  if file.symbolTable = 0 then 0
  else file.symbolTable.toNat + file.symbolCount.toNat * 18

theorem FileRecord.yields_stringTableOffset (file : FileRecord) :
    Yields source .little (stringTableOffset file.symbolTable.toNat file.symbolCount.toNat)
      file.stringTable := by
  have tableSmall := file.symbolTable.toNat_lt
  have countSmall := file.symbolCount.toNat_lt
  unfold stringTableOffset stringTable
  by_cases noTable : file.symbolTable = 0
  · have zero : file.symbolTable.toNat = 0 := by simp [noTable]
    rw [if_pos zero, if_pos noTable]
    exact .pure 0
  · have nonzero : file.symbolTable.toNat ≠ 0 := fun zero => noTable (UInt32.toNat_inj.mp zero)
    rw [if_neg nonzero, if_neg noTable]
    exact Yields.entryOffset (by rw [coffSymbolSize]; omega)

/-- The name of a section is the text in its field unless this refers to another. -/
theorem NamedSection.NameHeldBy.yields_sectionName {file : FileRecord} {part : NamedSection}
    (held : part.NameHeldBy file source) (sound : source.fault = none)
    (bounded : source.size < 2 ^ 64) :
    Yields source .little (sectionName part.record.nameField.toList file.stringTable)
      part.name := by
  apply (yields_paddedName _).bind
  rcases held with ⟨field, noSlash⟩ | ⟨hasTable, digits, nonempty, decimal, field, nameHeld⟩
  · rw [field, decodeLossy_utf8Bytes, nameReference?_of_head noSlash]
    exact .pure _
  · have inside := nameHeld.2.2
    have nonzero : file.symbolTable.toNat ≠ 0 := fun zero => hasTable (UInt32.toNat_inj.mp zero)
    have offset : saturatingSum file.stringTable (Nat.ofDigitChars 10 digits 0) =
        file.symbolTable.toNat + file.symbolCount.toNat * 18 + Nat.ofDigitChars 10 digits 0 := by
      rw [FileRecord.stringTable, if_neg hasTable, saturatingSum, offsetBound_eq]
      omega
    have notNone : file.stringTable ≠ 0 := by
      rw [FileRecord.stringTable, if_neg hasTable]
      omega
    rw [field, decodeLossy_utf8Bytes, nameReference?_of_digits nonempty decimal]
    dsimp only
    rw [if_neg notNone, offset]
    exact yields_nameToEnd sound nameHeld

/-- What is known of a section once its entry of the section table is read. -/
def NamedSection.entry (part : NamedSection) : Section where
  name := part.name
  virtualSize := part.record.virtualSize
  virtualAddress := part.record.virtualAddress
  rawSize := part.record.rawSize
  rawOffset := part.record.rawOffset

theorem NamedSection.yields_readSection {part : NamedSection} (sound : source.fault = none)
    {stringTable offset : Nat} (inside : offset ≤ source.size)
    (held : source.Holds offset part.record.bytes)
    (name : Yields source .little (sectionName part.record.nameField.toList stringTable)
      part.name) : Yields source .little (readSection stringTable offset) part.entry := by
  intro position
  apply YieldsFrom.afterSeek inside
  apply YieldsFrom.afterField (Parses.take sound part.record.nameField.length_toList) held
  intro held
  apply YieldsFrom.afterField (Parses.u32 sound part.record.virtualSize) held
  intro held
  apply YieldsFrom.afterField (Parses.u32 sound part.record.virtualAddress) held
  intro held
  apply YieldsFrom.afterField (Parses.u32 sound part.record.rawSize) held
  intro held
  apply YieldsFrom.afterField (Parses.u32 sound part.record.rawOffset) held
  intro _
  exact name.map _ _

namespace Layout

/-- What is known of a file once its headers are read. -/
def image (layout : Layout width) : Image where
  width
  sections := layout.sections.map (·.entry)
  exportDirectory := (layout.exportTable.map (·.directory)).getD 0

namespace HeldBy

variable {layout : Layout width} (held : layout.HeldBy source) (sound : source.fault = none)
include held

/-- The fields that are read of the COFF header, and the one that the optional header
starts with. -/
theorem headers_parts :
    source.Holds layout.file.headersOffset.toNat [0x50, 0x45, 0, 0] ∧
      source.Holds (layout.file.headersOffset.toNat + 6)
        (ByteOrder.little.bytes 2 layout.sections.length ++
          (ByteOrder.little.bytes 4 layout.file.timestamp.toNat ++
          (ByteOrder.little.bytes 4 layout.file.symbolTable.toNat ++
          (ByteOrder.little.bytes 4 layout.file.symbolCount.toNat ++
          ByteOrder.little.bytes 2 layout.file.optionalSize.toNat)))) ∧
      source.Holds layout.file.optional
        (ByteOrder.little.bytes 2 (optionalMagic width).toNat) := by
  have headers := held.headers
  simp only [FileRecord.headers, Source.holds_append, ByteOrder.length_bytes,
    List.length_cons, List.length_nil, Nat.add_assoc, Nat.reduceAdd] at headers ⊢
  obtain ⟨signature, _, count, timestamp, symbolTable, symbolCount, optionalSize, _, magic⟩ :=
    headers
  refine ⟨signature, ⟨count, timestamp, symbolTable, symbolCount, optionalSize⟩, ?_⟩
  cases width <;> exact magic

include sound

theorem yields_locateOptionalHeader (cursor : Cursor) :
    YieldsFrom source cursor .little locateOptionalHeader
      (layout.file.optional, optionalMagic width) := by
  obtain ⟨signature, _, magic⟩ := held.headers_parts
  have headersSmall := layout.file.headersOffset.toNat_lt
  have pointerInside := held.headersOffset.inside (List.cons_ne_nil _ _)
  have signatureInside := signature.inside (List.cons_ne_nil _ _)
  have magicInside := magic.inside (List.cons_ne_nil _ _)
  have optional : layout.file.headersOffset.toNat + 4 + coffHeaderSize = layout.file.optional :=
    rfl
  apply YieldsFrom.afterSetOrder
  apply Yields.parseThen (Parses.take sound rfl) (Nat.zero_le _) held.dosMagic
  apply (Yields.refuseIf (by decide)).bind
  apply Yields.parseThen (Parses.u32 sound layout.file.headersOffset)
    (Nat.le_of_add_right_le pointerInside) held.headersOffset
  apply Yields.parseThen (Parses.take sound rfl) (Nat.le_of_add_right_le signatureInside) signature
  apply (Yields.refuseIf (by decide)).bind
  have located : Yields source .little
      (optionalHeaderOffset layout.file.headersOffset.toNat) layout.file.optional := by
    rw [← optional]
    exact (Yields.sum (by omega)).bind (Yields.sum (by rw [coffHeaderSize]; omega))
  apply located.bind
  exact Yields.parseThen (Parses.u16 sound (optionalMagic width))
    (Nat.le_of_add_right_le magicInside) magic (.pure _)

theorem yields_readExportDirectory :
    Yields source .little
      (readExportDirectory width layout.file.optional layout.file.optionalSize.toNat)
      layout.image.exportDirectory := by
  have headersSmall := layout.file.headersOffset.toNat_lt
  have enough := held.optionalSize
  have inside := Nat.le_of_add_right_le held.tableInside
  rw [FileRecord.sectionTable] at inside
  have small : layout.file.optional < 2 ^ 33 := by
    rw [FileRecord.optional]
    omega
  have early : Layout.directoryCountOffset width ≤ 108 := by
    cases width <;> decide
  have addressAt {address : UInt32}
      (addressHeld : source.Holds (layout.file.optional + (Layout.directoryCountOffset width + 4))
        (ByteOrder.little.bytes 4 address.toNat)) :
      Yields source .little (do
        seek (← sum layout.file.optional (Layout.directoryCountOffset width + 4))
        u32) address :=
    (Yields.sum (by omega)).bind (.parse (Parses.u32 sound address) (by omega) addressHeld)
  unfold readExportDirectory
  rw [directoryCountOffset_eq, directoriesOffset_eq]
  apply (Yields.sum (by omega)).bind
  apply Yields.parseThen (Parses.u32 sound layout.file.directoryCount) (by omega)
    held.directoryCount
  have exports := held.exports
  cases given : layout.exportTable with
  | none =>
      have directory : layout.image.exportDirectory = 0 := by
        simp [image, given]
      rw [given] at exports
      rw [directory]
      split
      · rename_i declared
        simp only [Bool.and_eq_true, decide_eq_true_eq, UInt32.lt_iff_toNat_lt] at declared
        rcases exports with noDirectory | noRoom | zero
        · simp [noDirectory] at declared
        · omega
        · exact addressAt zero
      · exact .pure 0
  | some table =>
      have directory : layout.image.exportDirectory = table.directory := by
        simp [image, given]
      rw [given] at exports
      have counted : 0 < layout.file.directoryCount :=
        UInt32.pos_iff_ne_zero.mpr exports.declared
      have declared : (decide (0 < layout.file.directoryCount) &&
          decide (Layout.directoryCountOffset width + 4 + 8 ≤
            layout.file.optionalSize.toNat)) = true := by
        simpa [counted] using exports.room
      rw [directory, if_pos declared]
      exact addressAt exports.address

theorem yields_parse (bounded : source.size < 2 ^ 64) (cursor : Cursor) :
    YieldsFrom source cursor .little (parse width) layout.image := by
  obtain ⟨_, fields, _⟩ := held.headers_parts
  have headersSmall := layout.file.headersOffset.toNat_lt
  have optional : layout.file.optional = layout.file.headersOffset.toNat + 24 := rfl
  have enough := held.optionalSize
  have tableInside := held.tableInside
  have table : layout.file.sectionTable =
      layout.file.optional + layout.file.optionalSize.toNat := rfl
  have few := held.sectionCount
  have counted : (UInt16.ofNat layout.sections.length).toNat = layout.sections.length :=
    UInt16.toNat_ofNat_of_lt' few
  unfold parse
  apply (held.yields_locateOptionalHeader sound cursor).bind
  have fieldsAt : layout.file.optional - coffHeaderSize + 2 =
      layout.file.headersOffset.toNat + 6 := by
    rw [optional, coffHeaderSize]
    omega
  dsimp only
  apply (Yields.difference (by rw [optional, coffHeaderSize]; omega)).bind
  apply (Yields.sum (by omega)).bind
  rw [fieldsAt]
  intro position
  apply YieldsFrom.afterSeek (by omega)
  apply YieldsFrom.afterField (Parses.u16OfNat sound few) fields
  intro fields
  apply YieldsFrom.afterField (Parses.u32 sound layout.file.timestamp) fields
  intro fields
  apply YieldsFrom.afterField (Parses.u32 sound layout.file.symbolTable) fields
  intro fields
  apply YieldsFrom.afterField (Parses.u32 sound layout.file.symbolCount) fields
  intro fields
  apply YieldsFrom.after (Parses.u16 sound layout.file.optionalSize _ fields)
  rw [counted]
  apply Yields.yieldsFrom
  apply (Yields.refuseIf (by rw [directoriesOffset_eq]; omega)).bind
  apply (Yields.checkRange (by omega)).bind
  apply (held.yields_readExportDirectory sound).bind
  apply layout.file.yields_stringTableOffset.bind
  apply (Yields.sum (by omega)).bind
  apply (Yields.product (by rw [sectionHeaderSize]; omega)).bind
  apply (Yields.checkRange tableInside).bind
  refine (Yields.mapM_range NamedSection.entry ?_).map _
  intro index among
  have member := List.getElem_mem among
  apply (Yields.entryOffset (by rw [sectionHeaderSize]; omega)).bind
  exact NamedSection.yields_readSection sound (by rw [sectionHeaderSize]; omega)
    (held.sections index among) ((held.names _ member).yields_sectionName sound bounded)

end HeldBy

end Layout

theorem Section.yields_contains {order : ByteOrder} (part : Section) (address : UInt32) :
    Yields source order (part.contains address)
      (part.virtualAddress.toNat ≤ address.toNat &&
        address.toNat < part.virtualAddress.toNat + part.span) := by
  have addressSmall := part.virtualAddress.toNat_lt
  have virtualSmall := part.virtualSize.toNat_lt
  have rawSmall := part.rawSize.toNat_lt
  exact (Yields.sum (by rw [span]; omega)).map _

theorem NamedSection.spans_entry (part : NamedSection) (address : UInt32) :
    (part.entry.virtualAddress.toNat ≤ address.toNat &&
      address.toNat < part.entry.virtualAddress.toNat + part.entry.span : Bool) =
        decide (part.record.Spans address.toNat) := by
  rw [Bool.eq_iff_iff, decide_eq_true_iff, Bool.and_eq_true, decide_eq_true_iff,
    decide_eq_true_iff]
  rfl

/-- Of items that do not pass a test two at a time, the one that passes is found. -/
theorem find?_of_pairwise {α : Type} {items : List α} {test : α → Bool}
    (exclusive : items.Pairwise fun item other => ¬(test item = true ∧ test other = true))
    {item : α} (among : item ∈ items) (passes : test item = true) :
    items.find? test = some item := by
  induction items with
  | nil => cases among
  | cons first others ih =>
      rw [List.pairwise_cons] at exclusive
      rcases List.mem_cons.mp among with rfl | later
      · exact List.find?_cons_of_pos passes
      · have fails : ¬test first = true := fun both => exclusive.1 item later ⟨both, passes⟩
        rw [List.find?_cons_of_neg fails]
        exact ih exclusive.2 later

namespace Layout

variable {layout : Layout width}

/-- An address that the raw data of a section keeps leads to the offset that it is kept
at, as no other section spans the address. -/
theorem HeldBy.yields_fileOffset (held : layout.HeldBy source) {address : UInt32}
    {extent offset : Nat} (keeps : layout.Keeps source address extent offset)
    (nonempty : 0 < extent) : Yields source .little (layout.image.fileOffset address) offset := by
  obtain ⟨⟨part, among, start, fits, rfl⟩, _⟩ := keeps
  have spans : part.record.Spans address.toNat := ⟨start, by omega⟩
  have exclusive : layout.sections.Pairwise fun part other =>
      ¬(decide (part.record.Spans address.toNat) = true ∧
        decide (other.record.Spans address.toNat) = true) := by
    apply held.disjoint.imp
    intro part other apart
    simpa using apart address.toNat
  have found : layout.image.sections.find? (fun part =>
      part.virtualAddress.toNat ≤ address.toNat &&
        address.toNat < part.virtualAddress.toNat + part.span) = some part.entry := by
    have unique := find?_of_pairwise exclusive among (decide_eq_true spans)
    rw [image, List.find?_map]
    simp only [Function.comp_def, NamedSection.spans_entry, unique, Option.map_some]
  have searched : Yields source .little (layout.image.sections.findM? (·.contains address)) _ :=
    .findM? (Section.yields_contains · address) layout.image.sections
  rw [found] at searched
  have rawSmall := part.entry.rawOffset.toNat_lt
  have addressSmall := address.toNat_lt
  have located : part.record.rawOffset.toNat + (address.toNat - part.record.virtualAddress.toNat) =
      address.toNat - part.record.virtualAddress.toNat + part.record.rawOffset.toNat :=
    Nat.add_comm _ _
  unfold Image.fileOffset
  apply searched.bind
  rw [located]
  exact (Yields.difference start).bind (Yields.sum (by omega))

end Layout

/-- What is known of the export directory once it is read. -/
def ExportTable.header (table : ExportTable) : ExportDirectory where
  functionCount := UInt32.ofNat table.functions.length
  nameCount := UInt32.ofNat table.exports.length
  functions := table.functionsAddress
  names := table.namesAddress
  ordinals := table.ordinalsAddress

namespace Layout

variable {layout : Layout width} {table : ExportTable}

theorem ExportsHeldBy.yields_readExportDirectory (exports : layout.ExportsHeldBy source table)
    (held : layout.HeldBy source) (sound : source.fault = none) (bounded : source.size < 2 ^ 64)
    (given : layout.exportTable = some table) :
    Yields source .little layout.image.readExportDirectory table.header := by
  obtain ⟨offset, keeps, fields⟩ := exports.directory
  have inside := keeps.2
  have address : layout.image.exportDirectory = table.directory := by
    simp [image, given]
  unfold Image.readExportDirectory
  rw [address]
  apply (held.yields_fileOffset keeps (by decide)).bind
  apply (Yields.checkRange inside).bind
  apply (Yields.sum (by omega)).bind
  apply Yields.parse _ (by omega) fields
  apply (Parses.u32OfNat sound exports.functionCount).bind
  apply (Parses.u32OfNat sound exports.exportCount).bind
  apply (Parses.u32 sound table.functionsAddress).bind
  apply (Parses.u32 sound table.namesAddress).bind
  exact (Parses.u32 sound table.ordinalsAddress).map _

namespace TablesHeldBy

variable {namesOffset ordinalsOffset functionsOffset : Nat}
  (tables : layout.TablesHeldBy source table namesOffset ordinalsOffset functionsOffset)
  (held : layout.HeldBy source) (sound : source.fault = none) (bounded : source.size < 2 ^ 64)
include tables sound bounded

/-- The function of an export, through its ordinal. -/
theorem yields_functionAddress (index : Nat) (among : index < table.exports.length) :
    ∃ function, table.functions[table.exports[index].ordinal.toNat]? = some function ∧
      Yields source .little
        (Image.functionAddress table.functions.length functionsOffset ordinalsOffset index)
        function := by
  have ordinalsInside := tables.ordinals.2
  have functionsInside := tables.functions.2
  have ordinalInside := tables.ordinalsInside _ (List.getElem_mem among)
  have ordinalHeld := tables.ordinalEntries index among
  generalize table.exports[index].ordinal = ordinal at ordinalInside ordinalHeld
  refine ⟨_, List.getElem?_eq_getElem ordinalInside, ?_⟩
  unfold Image.functionAddress
  apply (Yields.entryOffset (by omega)).bind
  apply Yields.parseThen (Parses.u16 sound ordinal) (by omega) ordinalHeld
  apply (Yields.refuseIf (Nat.not_le.mpr ordinalInside)).bind
  apply (Yields.entryOffset (by omega)).bind
  exact .parse (Parses.u32 sound _) (by omega) (tables.functionEntries _ ordinalInside)

include held

theorem yields_exportName (index : Nat) (among : index < table.exports.length) :
    Yields source .little (layout.image.exportName namesOffset index)
      table.exports[index].name := by
  have namesInside := tables.names.2
  obtain ⟨offset, keeps, nameHeld⟩ := tables.nameTexts _ (List.getElem_mem among)
  have addressHeld := tables.nameEntries index among
  unfold Image.exportName
  apply (Yields.entryOffset (by omega)).bind
  apply Yields.parseThen (Parses.u32 sound _) (by omega) addressHeld
  apply (held.yields_fileOffset keeps (Nat.succ_pos _)).bind
  exact yields_nameToEnd sound nameHeld

/-- The name of an export is given if the section spans the address of its function. -/
theorem yields_selectedName (part : NamedSection) (index : Nat)
    (among : index < table.exports.length) :
    Yields source .little (do
      let address ←
        Image.functionAddress table.functions.length functionsOffset ordinalsOffset index
      if ← part.entry.contains address then
        return some (← layout.image.exportName namesOffset index)
      else
        return none)
      (if decide (part.record.Defines table table.exports[index])
        then some table.exports[index].name else none) := by
  obtain ⟨function, found, read⟩ := tables.yields_functionAddress sound bounded index among
  have contains : Yields source .little (part.entry.contains function) _ :=
    Section.yields_contains part.entry function
  rw [part.spans_entry] at contains
  apply read.bind
  apply contains.bind
  have defines : part.record.Defines table table.exports[index] ↔
      part.record.Spans function.toNat := by
    simp [SectionRecord.Defines, found]
  by_cases spans : part.record.Spans function.toNat
  · have name := tables.yields_exportName held sound bounded index among
    simpa [defines, spans] using name.map some
  · simpa [defines, spans] using Yields.pure none

end TablesHeldBy

namespace HeldBy

variable (held : layout.HeldBy source) (sound : source.fault = none)
  (bounded : source.size < 2 ^ 64)
include held sound bounded

/-- The exports that the address of the function selects, if a section is given. -/
theorem yields_exportedNames (part : Option NamedSection) :
    Yields source .little (layout.image.exportedNames (part.map (·.entry)))
      (listing.exportedNames layout fun table exported =>
        ∀ chosen ∈ part, chosen.record.Defines table exported) := by
  unfold Image.exportedNames listing.exportedNames
  cases given : layout.exportTable with
  | none =>
      have absent : layout.image.exportDirectory = 0 := by
        simp [image, given]
      rw [if_pos absent]
      exact .pure []
  | some table =>
      have exports : layout.ExportsHeldBy source table := by
        simpa [given] using held.exports
      have present : layout.image.exportDirectory ≠ 0 := by
        simpa [image, given] using exports.present
      have nameCount : table.header.nameCount.toNat = table.exports.length :=
        UInt32.toNat_ofNat_of_lt' exports.exportCount
      have functionCount : table.header.functionCount.toNat = table.functions.length :=
        UInt32.toNat_ofNat_of_lt' exports.functionCount
      rw [if_neg present]
      apply (exports.yields_readExportDirectory held sound bounded given).bind
      dsimp only
      rw [nameCount, functionCount]
      by_cases empty : table.exports = []
      · rw [empty, List.length_nil, if_pos rfl]
        exact .pure []
      · obtain ⟨namesOffset, ordinalsOffset, functionsOffset, tables⟩ := exports.tables empty
        have positive := List.length_pos_iff.mpr empty
        have namesInside := tables.names.2
        have ordinalsInside := tables.ordinals.2
        have functionsInside := tables.functions.2
        rw [if_neg (Nat.ne_of_gt positive)]
        apply (held.yields_fileOffset tables.names (by omega)).bind
        apply (held.yields_fileOffset tables.ordinals (by omega)).bind
        apply (Yields.product (by omega)).bind
        apply (Yields.checkRange namesInside).bind
        apply (Yields.product (by omega)).bind
        apply (Yields.checkRange ordinalsInside).bind
        cases part with
        | none =>
            have names := Yields.mapM_range NamedExport.name
              (tables.yields_exportName held sound bounded)
            simpa using names.map List.eraseDups
        | some part =>
            have nonempty : 0 < table.functions.length := by
              obtain ⟨exported, among⟩ := List.exists_mem_of_ne_nil _ empty
              exact Nat.zero_lt_of_lt (tables.ordinalsInside exported among)
            have names := Yields.filterMapM_range
              (fun exported => decide (part.record.Defines table exported)) NamedExport.name
              (tables.yields_selectedName held sound bounded part)
            apply (held.yields_fileOffset tables.functions (by omega)).bind
            apply (Yields.product (by omega)).bind
            apply (Yields.checkRange functionsInside).bind
            simpa using names.map List.eraseDups

theorem yields_answer (query : Query) :
    Yields source .little ((SharedObject.Image.pe layout.image).answer query)
      (layout.listing query) := by
  cases query with
  | sections =>
      have names : layout.image.sections.map (·.name) = layout.listing .sections := by
        simp [image, listing, NamedSection.entry]
      rw [← names]
      exact .pure _
  | symbols =>
      have names := held.yields_exportedNames sound bounded none
      simpa [SharedObject.Image.answer, Image.symbols, listing] using names
  | sectionSymbols name =>
      have found : layout.image.sections.find? (·.name == name) =
          (layout.sections.find? (·.name = name)).map (·.entry) := by
        rw [image, List.find?_map]
        rfl
      simp only [SharedObject.Image.answer, Image.sectionSymbols, found, listing]
      cases layout.sections.find? (·.name = name) with
      | none => exact .pure []
      | some part =>
          have names := held.yields_exportedNames sound bounded (some part)
          simpa using names

end HeldBy

end Layout

end Pe

end SharedObject
