import SharedObject.Proofs.Elf.Layout
import SharedObject.Proofs.Scan.Yielding

/-!
# ELF files are listed as they are laid out

Reading the headers of an ELF file gives the headers that its layout describes, and
reading its sections and symbols gives the names that the layout gives them.
-/

namespace SharedObject

namespace Elf

open Scan

variable {width : Width} {source : Source} {order : ByteOrder}

theorem parses_readSectionHeader (sound : source.fault = none) (record : SectionRecord width) :
    Parses source order (readSectionHeader width) (record.bytes order) record.header := by
  apply (Parses.u32 sound record.name).bind
  apply (Parses.u32 sound record.kind).bind
  apply (Parses.word sound record.flags).bind
  apply (Parses.word sound record.address).bind
  apply (Parses.word sound record.offset).bind
  apply (Parses.word sound record.size).bind
  apply (Parses.u32 sound record.link).bind
  apply (Parses.u32 sound record.info).bind
  apply (Parses.word sound record.alignment).bind
  exact (Parses.word sound record.entrySize).map _

/-- The entry of a symbol table at an offset; of a 64-bit entry, only the first fields
are read. -/
theorem yields_readSymbol (sound : source.fault = none) (record : SymbolRecord width)
    {offset : Nat} (inside : offset ≤ source.size)
    (held : source.Holds offset (record.bytes order)) :
    Yields source order (seek offset >>= fun _ => readSymbol width) record.toSymbol := by
  cases width with
  | bits32 =>
      apply Yields.parse _ inside held
      apply (Parses.u32 sound record.name).bind
      apply (Parses.u32OfWord sound record.value).bind
      apply (Parses.u32OfWord sound record.size).bind
      apply (Parses.u8 sound record.info).bind
      apply (Parses.u8 sound record.other).bind
      exact (Parses.u16 sound record.sectionIndex).map _
  | bits64 =>
      apply Yields.parse _ inside (Source.holds_append.mp held).1
      apply (Parses.u32 sound record.name).bind
      apply (Parses.u8 sound record.info).bind
      apply (Parses.u8 sound record.other).bind
      exact (Parses.u16 sound record.sectionIndex).map _

/-- The fields of the file header that lead to the section headers. -/
def FileRecord.header (record : FileRecord width) : FileHeader where
  tableOffset := record.tableOffset.toUInt64
  entrySize := record.entrySize
  sectionCount := record.sectionCount
  nameTable := record.nameTable

theorem run_readIdentity (sound : source.fault = none) {record : FileRecord width}
    (held : source.Holds 0 (record.identity order)) (cursor : Cursor) :
    readIdentity source cursor = .ok () { position := 16, order } := by
  have length : (record.identity order).length = 16 := by
    simp [FileRecord.identity]
  have taken : Parses source cursor.order (take 16) _ _ := .take sound length
  have chosen : chooseOrder (record.identity order) = setOrder order := by
    cases order <;> rfl
  rw [readIdentity, run_bind, seek_of_inside (Nat.zero_le _)]
  dsimp only
  rw [run_bind, taken 0 held, length]
  dsimp only
  rw [chosen]
  rfl

theorem yields_readFileHeader (sound : source.fault = none) {record : FileRecord width}
    (identity : source.Holds 0 (record.identity order))
    (fields : source.Holds 16 (record.fields order)) (cursor : Cursor) :
    YieldsFrom source cursor order (readFileHeader width) record.header := by
  apply YieldsFrom.after (run_readIdentity sound identity cursor)
  apply YieldsFrom.parse fields
  apply (Parses.u16 sound record.kind).bind
  apply (Parses.u16 sound record.machine).bind
  apply (Parses.u32 sound record.version).bind
  apply (Parses.word sound record.entry).bind
  apply (Parses.word sound record.programHeaders).bind
  apply (Parses.word sound record.tableOffset).bind
  apply (Parses.u32 sound record.flags).bind
  apply (Parses.u16 sound record.headerSize).bind
  apply (Parses.u16 sound record.programEntrySize).bind
  apply (Parses.u16 sound record.programCount).bind
  apply (Parses.u16 sound record.entrySize).bind
  apply (Parses.u16 sound record.sectionCount).bind
  exact (Parses.u16 sound record.nameTable).map _

theorem headerSize_eq (width : Width) : headerSize width = 16 + 6 * Word.size width := by
  cases width <;> rfl

theorem symbolSize_eq (width : Width) : symbolSize width = 8 + 2 * Word.size width := by
  cases width <;> rfl

@[simp]
theorem SectionRecord.toNat_offset_header (record : SectionRecord width) :
    record.header.offset.toNat = record.offset.toNat :=
  Word.toNat_toUInt64 _

@[simp]
theorem SectionRecord.toNat_size_header (record : SectionRecord width) :
    record.header.size.toNat = record.size.toNat :=
  Word.toNat_toUInt64 _

namespace Layout

variable (layout : Layout width)

/-- What is known of a file once its headers are read. -/
def image : Image where
  width
  tableOffset := layout.file.tableOffset.toUInt64
  headers := (layout.sections.map (·.record.header)).toArray
  nameTable := if layout.sections.isEmpty then 0 else layout.nameTable

variable {layout}

/-- Each header of the table is inside the file. -/
theorem TableHeldBy.entry_le {first : NamedSection width} (held : layout.TableHeldBy source first)
    {index : Nat} (among : index < layout.sections.length) :
    layout.file.tableOffset.toNat + index * layout.file.entrySize.toNat +
      layout.file.entrySize.toNat ≤ source.size := by
  have inside := held.inside
  have next : (index + 1) * layout.file.entrySize.toNat ≤
      layout.sections.length * layout.file.entrySize.toNat :=
    Nat.mul_le_mul_right _ among
  rw [Nat.succ_mul] at next
  omega

theorem yields_readFurtherHeaders {first : NamedSection width} {others : List (NamedSection width)}
    (sections : layout.sections = first :: others) (held : layout.TableHeldBy source first)
    (sound : source.fault = none) (bounded : source.size < 2 ^ 64) :
    Yields source layout.order
      (readFurtherHeaders width layout.file.tableOffset.toNat layout.file.entrySize.toNat
        layout.sections.length)
      (others.map (·.record.header)) := by
  apply Yields.mapM
  have counted : layout.sections.length - 1 = (others.map (·.record.header)).length := by
    simp [sections]
  rw [counted]
  apply forall₂_range'
  intro index inside
  have among : 1 + index < layout.sections.length := by
    simp [sections] at inside ⊢
    omega
  have within := held.entry_le among
  have record := held.headers (1 + index) among
  have same : layout.sections[1 + index].record.header = (others.map (·.record.header))[index] := by
    simp [sections, Nat.add_comm 1]
  apply (Yields.entryOffset (by omega)).bind
  rw [← same]
  exact Yields.parse (parses_readSectionHeader sound _) (by omega) record

theorem NamesHeldBy.index_lt {names : NamedSection width} (held : layout.NamesHeldBy source names) :
    layout.nameTable < layout.sections.length :=
  (List.getElem?_eq_some_iff.mp held.table).1

theorem NamesHeldBy.yields_checkNameTable {names : NamedSection width}
    (held : layout.NamesHeldBy source names) :
    Yields source order
      (checkNameTable (layout.sections.map (·.record.header)).toArray layout.nameTable) () := by
  have found : (layout.sections.map (·.record.header)).toArray[layout.nameTable]? =
      some names.record.header := by
    simp [held.table]
  unfold checkNameTable
  rw [found]
  apply Yields.checkRange
  rw [SectionRecord.toNat_offset_header, SectionRecord.toNat_size_header]
  exact held.inside

theorem count_eq {first : NamedSection width} (held : layout.TableHeldBy source first) :
    layout.file.header.count first.record.header = layout.sections.length := by
  rw [held.count, FileHeader.count]
  simp [FileRecord.header, SectionRecord.header]

theorem nameTableIndex_eq {first : NamedSection width} (held : layout.TableHeldBy source first) :
    layout.file.header.nameTableIndex first.record.header = layout.nameTable := by
  rw [held.nameTable, FileHeader.nameTableIndex]
  rfl

theorem HeldBy.yields_parse (held : layout.HeldBy source) (sound : source.fault = none)
    (bounded : source.size < 2 ^ 64) (cursor : Cursor) :
    YieldsFrom source cursor layout.order (parse width) layout.image := by
  unfold parse
  apply (yields_readFileHeader sound held.identity held.fields cursor).bind
  have offset : layout.file.header.tableOffset.toNat = layout.file.tableOffset.toNat :=
    Word.toNat_toUInt64 _
  have entrySize : layout.file.header.entrySize = layout.file.entrySize := rfl
  simp only [offset, entrySize]
  rcases held.table with ⟨absent, empty⟩ | ⟨first, table⟩
  · have zero : layout.file.tableOffset.toNat = 0 := by simp [absent]
    rw [if_pos zero]
    have bare : layout.image = ⟨width, layout.file.tableOffset.toUInt64, #[], 0⟩ := by
      simp [image, empty]
    rw [bare]
    exact .pure _
  · have present : layout.file.tableOffset.toNat ≠ 0 := by
      intro zero
      exact table.present (BitVec.eq_of_toNat_eq zero)
    obtain ⟨others, sections⟩ := List.head?_eq_some_iff.mp table.starts
    have nonempty : 0 < layout.sections.length := by simp [sections]
    have enough := table.entrySize
    have within := table.entry_le nonempty
    have inside := table.inside
    have firstHeld := table.headers 0 nonempty
    obtain ⟨names, named⟩ := table.names
    rw [if_neg present]
    have roomy : ¬layout.file.entrySize.toNat < headerSize width := by
      rw [headerSize_eq]
      omega
    have small : ¬offsetBound ≤ layout.sections.length * layout.file.entrySize.toNat := by
      rw [offsetBound_eq]
      omega
    apply (Yields.refuseIf roomy).bind
    apply (Yields.checkRange (by omega)).bind
    apply Yields.parseThen (parses_readSectionHeader sound first.record) (by omega)
      (by simpa [sections] using firstHeld)
    rw [count_eq table, nameTableIndex_eq table, if_neg (Nat.ne_of_gt nonempty)]
    apply (Yields.refuseIf small).bind
    apply (Yields.checkRange inside).bind
    apply (Yields.refuseIf (Nat.not_le.mpr named.index_lt)).bind
    apply (yields_readFurtherHeaders sections table sound bounded).bind
    have headers : (first.record.header :: others.map (·.record.header)).toArray =
        (layout.sections.map (·.record.header)).toArray := by
      rw [sections, List.map_cons]
    rw [headers]
    apply (named.yields_checkNameTable).bind
    have image : layout.image = ⟨width, layout.file.tableOffset.toUInt64,
        (layout.sections.map (·.record.header)).toArray, layout.nameTable⟩ := by
      simp [Layout.image, sections]
    rw [image]
    exact .pure _

end Layout

theorem Symbol.isExported_iff (symbol : Symbol) : symbol.isExported = true ↔ symbol.Exported := by
  have binding : symbol.binding.toNat = symbol.info.toNat / 16 := by
    simp [Symbol.binding, Nat.shiftRight_eq_div_pow]
  have visibility : symbol.visibility.toNat = symbol.other.toNat % 4 := by
    simp [Symbol.visibility, Nat.and_two_pow_sub_one_eq_mod _ 2]
  unfold Symbol.isExported Symbol.Exported
  rw [← binding, ← visibility]
  simp [← UInt8.toNat_inj, undefinedIndex, and_assoc]

/-- The name at an index into a string table that is inside the file. -/
theorem yields_nameIn (sound : source.fault = none) (bounded : source.size < 2 ^ 64)
    {strings : NamedSection width} (inside : strings.contentEnd ≤ source.size) {index : UInt32}
    {name : String}
    (held : source.HoldsName (strings.record.offset.toNat + index.toNat) strings.contentEnd name) :
    Yields source order (nameIn strings.record.header index) name := by
  have inTable := held.2.2
  have nameOffset : saturatingSum strings.record.header.offset.toNat index.toNat =
      strings.record.offset.toNat + index.toNat := by
    rw [SectionRecord.toNat_offset_header, saturatingSum, offsetBound_eq]
    omega
  have tableEnd : strings.record.header.contentEnd = strings.contentEnd := by
    rw [SectionHeader.contentEnd, SectionRecord.toNat_offset_header,
      SectionRecord.toNat_size_header, saturatingSum, offsetBound_eq, NamedSection.contentEnd]
    rw [NamedSection.contentEnd] at inside
    omega
  rw [nameIn, nameOffset, tableEnd]
  exact yields_nameAt sound held

namespace Layout

variable {layout : Layout width}

theorem SymbolsHeldBy.yields_entrySize {table strings : NamedSection width}
    (held : layout.SymbolsHeldBy source table strings) :
    Yields source order (layout.image.entrySize table.record.header) table.stride := by
  have declared : table.record.header.entrySize.toNat = table.record.entrySize.toNat :=
    Word.toNat_toUInt64 _
  have least : symbolSize layout.image.width = 8 + 2 * Word.size width := symbolSize_eq width
  simp only [Image.entrySize, declared, least]
  unfold NamedSection.stride
  by_cases unstated : table.record.entrySize = 0
  · have zero : table.record.entrySize.toNat = 0 := by simp [unstated]
    rw [if_pos zero, if_pos unstated]
    exact .pure _
  · have nonzero : table.record.entrySize.toNat ≠ 0 := by
      intro zero
      exact unstated (BitVec.eq_of_toNat_eq zero)
    have enough := held.stride.resolve_left unstated
    rw [if_neg nonzero, if_neg (Nat.not_lt.mpr enough), if_neg unstated]
    exact .pure _

theorem SymbolsHeldBy.stride_pos {table strings : NamedSection width}
    (held : layout.SymbolsHeldBy source table strings) : 0 < table.stride := by
  have enough := held.stride
  unfold NamedSection.stride
  split
  · omega
  · rename_i stated
    have least := enough.resolve_left stated
    omega

/-- The entries of a symbol table are those that the file holds there. -/
theorem SymbolsHeldBy.yields_readSymbols {table strings : NamedSection width}
    (held : layout.SymbolsHeldBy source table strings) (sound : source.fault = none)
    (bounded : source.size < 2 ^ 64) :
    Yields source layout.order (layout.image.readSymbols table.record.header)
      (table.symbols.map (·.record.toSymbol)) := by
  have positive := held.stride_pos
  have size := held.size
  have inside := held.inside
  rw [NamedSection.contentEnd] at inside
  apply held.yields_entrySize.bind
  rw [SectionRecord.toNat_offset_header, SectionRecord.toNat_size_header]
  apply (Yields.checkRange inside).bind
  apply (Yields.divide _ positive).bind
  dsimp only
  rw [size, Nat.mul_div_cancel _ positive, Nat.mul_mod_left]
  apply (Yields.refuseIf (by simp)).bind
  apply Yields.mapM_range fun symbol : NamedSymbol width => symbol.record.toSymbol
  intro index among
  have before : index * table.stride ≤ table.symbols.length * table.stride :=
    Nat.mul_le_mul_right _ (Nat.le_of_lt among)
  apply (Yields.entryOffset (by omega)).bind
  exact yields_readSymbol sound _ (by omega) (held.entries index among)

theorem SymbolsHeldBy.yields_namesOfTable {table strings : NamedSection width}
    (held : layout.SymbolsHeldBy source table strings) (sound : source.fault = none)
    (bounded : source.size < 2 ^ 64) (keep : Symbol → Bool) :
    Yields source layout.order (layout.image.namesOfTable keep table.record.header)
      (table.exportedNames (keep · = true)) := by
  have linked : layout.image.headers[table.record.header.link.toNat]? =
      some strings.record.header := by
    simp [Layout.image, SectionRecord.header, held.linked]
  let selected := table.symbols.filter fun symbol =>
    symbol.record.toSymbol.isExported && keep symbol.record.toSymbol
  have names : Yields source layout.order
      ((selected.map (·.record.toSymbol)).mapM fun symbol =>
        nameIn strings.record.header symbol.name)
      (selected.map (·.name)) := by
    apply Yields.mapM
    rw [List.forall₂_map_left_iff, List.forall₂_map_right_iff]
    apply List.forall₂_same.mpr
    intro symbol member
    obtain ⟨among, kept⟩ := List.mem_filter.mp member
    have exported := (Symbol.isExported_iff _).mp (Bool.and_eq_true_iff.mp kept).1
    exact yields_nameIn sound bounded held.stringsInside (held.names symbol among exported)
  have listed : (selected.map (·.name)).filter (!·.isEmpty) =
      table.exportedNames (keep · = true) := by
    rw [List.filter_map, List.filter_filter, NamedSection.exportedNames]
    congr 1
    apply List.filter_congr
    intro symbol _
    rw [Bool.eq_iff_iff]
    simp only [Function.comp_apply, Bool.and_eq_true, Bool.not_eq_true', decide_eq_true_eq,
      ← Symbol.isExported_iff, ne_eq, ← String.isEmpty_iff, Bool.not_eq_true]
    tauto
  unfold Image.namesOfTable
  rw [linked]
  dsimp only
  have inside : strings.record.header.offset.toNat + strings.record.header.size.toNat ≤
      source.size := by
    rw [SectionRecord.toNat_offset_header, SectionRecord.toNat_size_header]
    exact held.stringsInside
  apply (Yields.checkRange inside).bind
  apply (held.yields_readSymbols sound bounded).bind
  rw [List.filter_map, ← listed]
  exact names.map _

theorem toList_headers_image (layout : Layout width) :
    layout.image.headers.toList = layout.sections.map (·.record.header) :=
  rfl

theorem HeldBy.symbolsHeld (held : layout.HeldBy source) {table : NamedSection width}
    (among : table ∈ layout.sections) (isTable : table.IsTable) :
    ∃ strings, layout.SymbolsHeldBy source table strings := by
  rcases held.table with ⟨_, empty⟩ | ⟨first, headers⟩
  · rw [empty] at among
    cases among
  · exact headers.symbols table among isTable

namespace HeldBy

variable (held : layout.HeldBy source) (sound : source.fault = none)
  (bounded : source.size < 2 ^ 64)
include held sound bounded

theorem yields_sectionName {part : NamedSection width} (among : part ∈ layout.sections) :
    Yields source layout.order (layout.image.sectionName part.record.header) part.name := by
  rcases held.table with ⟨_, empty⟩ | ⟨first, table⟩
  · rw [empty] at among
    cases among
  · obtain ⟨names, named⟩ := table.names
    have nonempty : layout.sections.isEmpty = false := by
      cases found : layout.sections with
      | nil => simp [found] at among
      | cons first others => rfl
    have nameTable : layout.image.nameTable = layout.nameTable := by
      simp [image, nonempty]
    have found : layout.image.headers[layout.nameTable]? = some names.record.header := by
      simp [image, named.table]
    rw [Image.sectionName, nameTable, if_neg table.named]
    apply (Yields.item found).bind
    exact yields_nameIn sound bounded named.inside (named.held part among)

theorem yields_sections :
    Yields source layout.order layout.image.sections (layout.sections.map (·.name)) := by
  rw [Image.sections, toList_headers_image]
  apply Yields.mapM
  rw [List.forall₂_map_left_iff, List.forall₂_map_right_iff]
  exact List.forall₂_same.mpr fun part among => held.yields_sectionName sound bounded among

theorem yields_indexOfSection (name : String) (index : Nat) {parts : List (NamedSection width)}
    (among : parts ⊆ layout.sections) :
    Yields source layout.order
      (layout.image.indexOfSection name index (parts.map (·.record.header)))
      (((parts.map (·.name)).idxOf? name).map (index + ·)) := by
  induction parts generalizing index with
  | nil => exact .pure none
  | cons part parts ih =>
      obtain ⟨member, others⟩ := List.cons_subset.mp among
      rw [List.map_cons, List.map_cons, Image.indexOfSection, List.idxOf?_cons]
      apply (held.yields_sectionName sound bounded member).bind
      by_cases same : part.name = name
      · simpa [same] using Yields.pure (some index)
      · have later := ih (index + 1) others
        simpa [same, Function.comp_def, Nat.add_assoc, Nat.add_comm 1] using later

theorem yields_exportedNames (keep : Symbol → Bool) :
    Yields source layout.order (layout.image.exportedNames keep)
      (Layout.listing.exportedNames layout (keep · = true)) := by
  have tables : layout.image.headers.toList.filter (·.isSymbolTable) =
      (layout.sections.filter (·.IsTable)).map (·.record.header) := by
    rw [toList_headers_image, List.filter_map]
    congr 1
    apply List.filter_congr
    intro part _
    rw [Bool.eq_iff_iff]
    rw [Function.comp_apply, decide_eq_true_iff]
    simp [SectionHeader.isSymbolTable, SectionRecord.header, NamedSection.IsTable,
      symbolTableKind, dynamicSymbolKind]
  have names : Yields source layout.order
      (((layout.sections.filter (·.IsTable)).map (·.record.header)).mapM
        (layout.image.namesOfTable keep))
      ((layout.sections.filter (·.IsTable)).map (·.exportedNames (keep · = true))) := by
    apply Yields.mapM
    rw [List.forall₂_map_left_iff, List.forall₂_map_right_iff]
    apply List.forall₂_same.mpr
    intro table member
    obtain ⟨among, isTable⟩ := List.mem_filter.mp member
    obtain ⟨strings, symbols⟩ := held.symbolsHeld among (of_decide_eq_true isTable)
    exact symbols.yields_namesOfTable sound bounded keep
  rw [Image.exportedNames, tables]
  exact names.map fun names => names.flatten.eraseDups

theorem yields_answer (query : Query) :
    Yields source layout.order ((SharedObject.Image.elf layout.image).answer query)
      (layout.listing query) := by
  cases query with
  | sections => exact held.yields_sections sound bounded
  | symbols =>
      have names := held.yields_exportedNames sound bounded fun _ => true
      simpa [SharedObject.Image.answer, Image.symbols, listing] using names
  | sectionSymbols name =>
      have found := held.yields_indexOfSection sound bounded name 0 (List.Subset.refl _)
      apply found.bind
      rw [listing]
      cases (layout.sections.map (·.name)).idxOf? name with
      | none => exact .pure []
      | some index =>
          have names := held.yields_exportedNames sound bounded (·.sectionIndex.toNat == index)
          simpa using names

end HeldBy

end Layout

end Elf

end SharedObject
