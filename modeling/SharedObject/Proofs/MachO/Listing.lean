import SharedObject.MachO.Symbol
import SharedObject.Proofs.MachO.Layout
import SharedObject.Proofs.Scan.Yielding

/-!
# Mach-O files are listed as they are laid out

Walking the load commands gives the sections and the symbol table that the layout
describes, and reading the symbols gives the names that the layout gives them.
-/

namespace SharedObject

namespace MachO

open Scan

variable {width : Width} {source : Source} {order : ByteOrder}

/-- The magic number of a file of a byte order as it reads in little-endian order. -/
def magicIn (width : Width) (order : ByteOrder) : UInt32 :=
  match order with
  | .little => magic width
  | .big => swappedMagic width

theorem orderOf_magicIn (width : Width) (order : ByteOrder) :
    orderOf (magicIn width order) = order := by
  cases width <;> cases order <;> decide

theorem run_readMagic (sound : source.fault = none) {record : FileRecord} {commandCount : Nat}
    (held : source.Holds 0 (record.bytes width order commandCount)) (cursor : Cursor) :
    readMagic source cursor = .ok (magicIn width order) { position := 4, order := .little } := by
  have start : source.Holds 0 (ByteOrder.little.bytes 4 (magicIn width order).toNat) := by
    have magicHeld := (Source.holds_append.mp held).1
    cases width <;> cases order <;> exact magicHeld
  have read := Parses.u32 sound (magicIn width order) 0 start
  exact bind_ok.mpr ⟨(), _, rfl, bind_ok.mpr ⟨(), _, seek_of_inside (Nat.zero_le _) _, read⟩⟩

theorem yields_readSectionName (sound : source.fault = none) (record : SectionRecord)
    {offset : Nat} (inside : offset ≤ source.size)
    (held : source.Holds offset (record.sectionField.toList ++ record.segmentField.toList)) :
    Yields source order (seek offset >>= fun _ => readSectionName) record.name := by
  obtain ⟨sectionHeld, segmentHeld⟩ := Source.holds_append.mp held
  have sectionRead : Parses source order (take 16) _ _ :=
    .take sound record.sectionField.length_toList
  have segmentRead : Parses source order (take 16) _ _ :=
    .take sound record.segmentField.length_toList
  have names : Yields source order (do
      return (← paddedName record.segmentField.toList) ++ "," ++
        (← paddedName record.sectionField.toList)) record.name :=
    (yields_paddedName _).bind ((yields_paddedName _).map _)
  intro position
  apply YieldsFrom.afterSeek inside
  apply YieldsFrom.after (sectionRead offset sectionHeld)
  apply YieldsFrom.after (segmentRead _ segmentHeld)
  exact names _

theorem Command.length_le_extent (width : Width) (sections : List SectionRecord) :
    sections.length ≤ sections.length * sectionStride width := by
  apply Nat.le_mul_of_pos_right
  cases width <;> decide

/-- The names of the sections of a segment command. -/
theorem yields_readSegment (sound : source.fault = none) {offset : Nat} {size : UInt32}
    {sections : List SectionRecord}
    (held : (Command.segment size sections).ContentHeldBy width order source offset)
    (inside : offset + size.toNat ≤ source.size) (small : offset + size.toNat < 2 ^ 64) :
    Yields source order (readSegment width offset size.toNat) (sections.map (·.name)) := by
  obtain ⟨fits, countHeld, headersHeld⟩ := held
  have first : firstSectionOffset width = 32 + 4 * Word.size width + 8 := by
    cases width <;> rfl
  have countOffset : sectionCountOffset width = 32 + 4 * Word.size width := by
    cases width <;> rfl
  have stride : sectionHeaderSize width = Command.sectionStride width := by
    cases width <;> rfl
  have few := Command.length_le_extent width sections
  have sizeLt := size.toNat_lt
  have small32 : sections.length < 2 ^ 32 := by omega
  have count : (UInt32.ofNat sections.length).toNat = sections.length :=
    UInt32.toNat_ofNat_of_lt' small32
  unfold readSegment
  rw [first, countOffset, stride]
  apply (Yields.refuseIf (by omega)).bind
  apply (Yields.sum (by omega)).bind
  apply Yields.parseThen (Parses.u32OfNat sound small32) (by omega) countHeld
  rw [count]
  apply (Yields.product (by omega)).bind
  apply (Yields.sum (by omega)).bind
  apply (Yields.refuseIf (by omega)).bind
  apply (Yields.sum (by omega)).bind
  apply (Yields.checkRange (by omega)).bind
  apply Yields.mapM_range SectionRecord.name
  intro index among
  have before : index * Command.sectionStride width ≤
      sections.length * Command.sectionStride width :=
    Nat.mul_le_mul_right _ (Nat.le_of_lt among)
  apply (Yields.entryOffset (by omega)).bind
  exact yields_readSectionName sound _ (by omega) (headersHeld index among)

theorem parses_readSymbolTable (sound : source.fault = none) (table : SymbolTable) :
    Parses source order readSymbolTable (table.bytes order) table := by
  apply (Parses.u32 sound table.symbols).bind
  apply (Parses.u32 sound table.count).bind
  apply (Parses.u32 sound table.strings).bind
  exact (Parses.u32 sound table.stringsSize).map _

/-- What is known once one more load command is read. -/
def Contents.add (found : Contents) (command : Command) : Contents where
  sections := found.sections ++ command.sectionNames
  symbolTable := command.table?.or found.symbolTable

namespace Command

variable {command : Command} {offset : Nat}

theorem segment_ne_symbolTable (width : Width) : symbolTableCommand ≠ segmentCommand width := by
  cases width <;> decide

theorem ContentHeldBy.size_le (held : command.ContentHeldBy width order source offset) :
    8 ≤ command.size.toNat := by
  cases command with
  | segment size sections => exact Nat.le_trans (by omega) held.1
  | symbolTable size table => exact Nat.le_trans (by decide) held.1
  | other kind size => exact held.2.2

theorem ContentHeldBy.length_sections_le
    (held : command.ContentHeldBy width order source offset) :
    command.sectionNames.length ≤ command.size.toNat := by
  cases command with
  | segment size sections =>
      have few := length_le_extent width sections
      obtain ⟨fits, _⟩ := held
      rw [sectionNames, List.length_map]
      exact Nat.le_trans (by omega) fits
  | symbolTable size table => exact Nat.zero_le _
  | other kind size => exact Nat.zero_le _

/-- Reading a load command whose kind and size are read gives what it adds. -/
theorem ContentHeldBy.yields_readCommand
    (held : command.ContentHeldBy width order source offset) (sound : source.fault = none)
    (inside : offset + command.size.toNat ≤ source.size)
    (small : offset + command.size.toNat < 2 ^ 64) (found : Contents) :
    YieldsFrom source { position := offset + 8, order } order
      (readCommand width (command.kind width) offset command.size.toNat found)
      (found.add command) := by
  cases command with
  | segment size sections =>
      have isSegment : (segment size sections).kind width = segmentCommand width := by
        cases width <;> rfl
      rw [readCommand, if_pos isSegment]
      exact (yields_readSegment sound held inside small).map (fun names =>
        { found with sections := found.sections ++ names }) _
  | symbolTable size table =>
      have isTable : (symbolTable size table).kind width = symbolTableCommand := rfl
      rw [readCommand, isTable, if_neg (segment_ne_symbolTable width), if_pos rfl]
      have read := parses_readSymbolTable sound table (offset + 8) held.2
      have unchanged : found.add (symbolTable size table) =
          { found with symbolTable := some table } := by
        simp [Contents.add, sectionNames, table?]
      rw [unchanged]
      exact YieldsFrom.after read ⟨_, rfl⟩
  | other kind size =>
      have notSegment : kind ≠ segmentCommand width := by
        obtain ⟨notSegment, _⟩ := held
        cases width <;> exact notSegment
      have notTable : kind ≠ symbolTableCommand := held.2.1
      have unchanged : found.add (other kind size) = found := by
        simp [Contents.add, sectionNames, table?]
      have isOther : (other kind size).kind width = kind := rfl
      rw [readCommand, isOther, if_neg notSegment, if_neg notTable, unchanged]
      exact ⟨_, rfl⟩

end Command

/-- Each command is at least as large as the two fields that it starts with. -/
theorem CommandsHeldBy.length_le {commands : List Command} {areaEnd offset : Nat}
    (held : CommandsHeldBy width order source areaEnd offset commands) :
    offset + 8 * commands.length ≤ areaEnd := by
  induction commands generalizing offset with
  | nil => exact held
  | cons command commands ih =>
      have least := held.1.2.size_le
      have others := ih held.2
      rw [List.length_cons]
      omega

/-- Each section takes up room in the command that lists it. -/
theorem CommandsHeldBy.length_sections_le {commands : List Command} {areaEnd offset : Nat}
    (held : CommandsHeldBy width order source areaEnd offset commands) :
    offset + (commands.flatMap (·.sectionNames)).length ≤ areaEnd := by
  induction commands generalizing offset with
  | nil => exact held
  | cons command commands ih =>
      have here := held.1.2.length_sections_le
      have others := ih held.2
      rw [List.flatMap_cons, List.length_append]
      omega

/-- Walking the load commands from an offset on gives what all of them add. -/
theorem CommandsHeldBy.yields_readCommands {commands : List Command} {areaEnd offset : Nat}
    (held : CommandsHeldBy width order source areaEnd offset commands)
    (sound : source.fault = none) (inside : areaEnd ≤ source.size) (small : areaEnd < 2 ^ 64)
    (found : Contents) :
    Yields source order (readCommands width areaEnd commands.length offset found)
      (commands.foldl .add found) := by
  induction commands generalizing offset found with
  | nil => exact .pure found
  | cons command commands ih =>
      obtain ⟨⟨headHeld, contentHeld⟩, others⟩ := held
      obtain ⟨kindHeld, sizeHeld⟩ := Source.holds_append.mp headHeld
      have least := contentHeld.size_le
      have within := others.length_le
      have startSmall : offset + 8 < 2 ^ 64 := by omega
      have endSmall : offset + command.size.toNat < 2 ^ 64 := by omega
      have endInside : offset + command.size.toNat ≤ source.size := by omega
      rw [List.length_cons, readCommands]
      apply (Yields.sum startSmall).bind
      apply (Yields.refuseIf (by omega)).bind
      intro position
      apply YieldsFrom.afterSeek (by omega)
      apply YieldsFrom.after (Parses.u32 sound (command.kind width) offset kindHeld)
      apply YieldsFrom.after (Parses.u32 sound command.size _ sizeHeld)
      apply YieldsFrom.after (run_sum endSmall)
      apply YieldsFrom.afterRefuseIf (by omega)
      rw [ByteOrder.length_bytes, ByteOrder.length_bytes, Nat.add_assoc]
      apply (contentHeld.yields_readCommand sound endInside endSmall found).bind
      exact ih others _

theorem foldl_add (commands : List Command) (found : Contents) :
    commands.foldl .add found =
      { sections := found.sections ++ commands.flatMap (·.sectionNames)
        symbolTable := (commands.filterMap (·.table?)).getLast?.or found.symbolTable } := by
  induction commands generalizing found with
  | nil => simp
  | cons command commands ih =>
      rw [List.foldl_cons, ih, List.flatMap_cons, List.filterMap_cons]
      cases given : command.table? with
      | none => simp [Contents.add, given]
      | some table =>
          simp [Contents.add, given, List.getLast?_cons]

theorem parses_readSymbol (sound : source.fault = none) (symbol : Symbol) :
    Parses source order readSymbol
      (order.bytes 4 symbol.name.toNat ++ ([symbol.kind] ++ [symbol.sectionNumber])) symbol := by
  apply (Parses.u32 sound symbol.name).bind
  apply (Parses.u8 sound symbol.kind).bind
  exact (Parses.u8 sound symbol.sectionNumber).map _

theorem Symbol.isExported_iff (symbol : Symbol) : symbol.isExported = true ↔ symbol.Exported := by
  have masked : ∀ kind < 256, kind &&& 0xE0 = 0 ↔ kind / 32 = 0 := by
    decide +kernel
  have debugging := masked symbol.kind.toNat symbol.kind.toNat_lt
  unfold Symbol.isExported Symbol.isDebugging Symbol.isExternal Symbol.Exported
  simp [← UInt8.toNat_inj, debugging, and_assoc]

theorem withoutUnderscore_name (symbol : NamedSymbol width) :
    withoutUnderscore symbol.name = symbol.sourceName := by
  unfold withoutUnderscore NamedSymbol.sourceName
  cases given : symbol.name.toList with
  | nil => simp
  | cons first rest =>
      by_cases underscore : first = '_'
      · simp [underscore]
      · simp [underscore]

namespace Layout

variable (layout : Layout width)

/-- What is known of a file once its load commands are read. -/
def image : Image where
  width
  commandCount := UInt32.ofNat layout.commands.length
  contents := { sections := layout.sectionNames, symbolTable := layout.symbolTable }

theorem areaEnd_lt : layout.areaEnd < 2 ^ 33 := by
  have sizeSmall := layout.file.commandsSize.toNat_lt
  have early : areaOffset width ≤ 32 := by
    cases width <;> decide
  rw [areaEnd]
  omega

variable {layout}

namespace HeldBy

variable (held : layout.HeldBy source) (sound : source.fault = none)
include held sound

theorem yields_parse (cursor : Cursor) :
    YieldsFrom source cursor layout.order (parse width) layout.image := by
  obtain ⟨_, fields⟩ := Source.holds_append.mp held.file
  rw [ByteOrder.length_bytes, Nat.zero_add] at fields
  have within := held.commands.length_le
  have areaEnd : areaOffset width + layout.file.commandsSize.toNat = layout.areaEnd := rfl
  have areaSmall := layout.areaEnd_lt
  have areaInside := held.areaInside
  have sizeSmall := layout.file.commandsSize.toNat_lt
  have few : layout.commands.length < 2 ^ 32 := by omega
  have counted : (UInt32.ofNat layout.commands.length).toNat = layout.commands.length :=
    UInt32.toNat_ofNat_of_lt' few
  have headerEnd : headerSize width = areaOffset width := by
    cases width <;> rfl
  have contents : layout.commands.foldl Contents.add {} =
      { sections := layout.sectionNames, symbolTable := layout.symbolTable } := by
    simp [foldl_add, sectionNames, symbolTable]
  unfold parse
  apply YieldsFrom.after (run_readMagic sound held.file cursor)
  rw [orderOf_magicIn]
  apply YieldsFrom.afterSetOrder
  apply YieldsFrom.afterField (Parses.u32 sound layout.file.processor) fields
  intro fields
  apply YieldsFrom.afterField (Parses.u32 sound layout.file.subtype) fields
  intro fields
  apply YieldsFrom.afterField (Parses.u32 sound layout.file.kind) fields
  intro fields
  apply YieldsFrom.afterField (Parses.u32OfNat sound few) fields
  intro fields
  apply YieldsFrom.afterField (Parses.u32 sound layout.file.commandsSize) fields
  intro flags
  apply YieldsFrom.after (Parses.u32 sound layout.file.flags _ flags)
  rw [headerEnd, counted]
  have walked := held.commands.yields_readCommands sound areaInside (by omega) {}
  rw [contents] at walked
  apply Yields.yieldsFrom
  apply (Yields.checkRange areaInside).bind
  apply (Yields.sum (by omega)).bind
  exact walked.map _

end HeldBy

theorem symbolSize_eq (width : Width) : symbolSize width = 8 + Word.size width := by
  cases width <;> rfl

/-- The entry of a symbol that is exported and selected is listed by its name. -/
theorem SymbolsHeldBy.yields_listedName {table : SymbolTable}
    (held : layout.SymbolsHeldBy source table) (sound : source.fault = none)
    (keep : Symbol → Bool) (index : Nat) (among : index < layout.symbols.length) :
    Yields source layout.order
      (Image.listedName width table (table.strings.toNat + table.stringsSize.toNat) keep index)
      (if layout.symbols[index].record.isExported && keep layout.symbols[index].record.toSymbol
        then some layout.symbols[index].sourceName else none) := by
  have inside := held.inside
  have few := table.count.toNat_lt
  rw [held.count] at few
  have startSmall := table.symbols.toNat_lt
  have before : index * (8 + Word.size width) ≤ layout.symbols.length * (8 + Word.size width) :=
    Nat.mul_le_mul_right _ (Nat.le_of_lt among)
  have small : index * (8 + Word.size width) < 2 ^ 36 := by
    cases width <;> simp only [Word.size] <;> omega
  obtain ⟨entryHeld, _⟩ := Source.holds_append.mp (held.entries index among)
  have exportedHeld := held.names _ (List.getElem_mem among)
  generalize layout.symbols[index] = symbol at entryHeld exportedHeld ⊢
  unfold Image.listedName
  rw [symbolSize_eq]
  apply (Yields.entryOffset (by omega)).bind
  apply Yields.parseThen (parses_readSymbol sound symbol.record.toSymbol) (by omega) entryHeld
  by_cases listed : (symbol.record.isExported && keep symbol.record.toSymbol) = true
  · have exported := (Symbol.isExported_iff _).mp (Bool.and_eq_true_iff.mp listed).1
    have stringsSmall := table.strings.toNat_lt
    have nameSmall := symbol.record.name.toNat_lt
    rw [if_pos listed, if_pos listed, Image.symbolName, ← withoutUnderscore_name]
    have name : Yields source layout.order (do
        return withoutUnderscore (← nameAt (← sum table.strings.toNat symbol.record.name.toNat)
          (table.strings.toNat + table.stringsSize.toNat))) (withoutUnderscore symbol.name) :=
      (Yields.sum (by omega)).bind ((yields_nameAt sound (exportedHeld exported)).map _)
    exact name.map _
  · rw [if_neg listed, if_neg listed]
    exact .pure none

namespace HeldBy

variable (held : layout.HeldBy source) (sound : source.fault = none)
include held sound

theorem yields_exportedNames (keep : Symbol → Bool) :
    Yields source layout.order (layout.image.exportedNames keep)
      (listing.exportedNames layout (keep · = true)) := by
  have selected : layout.symbols.filter (fun symbol =>
      symbol.record.isExported && keep symbol.record.toSymbol) =
        layout.symbols.filter fun symbol =>
          symbol.record.toSymbol.Exported ∧ keep symbol.record.toSymbol = true := by
    apply List.filter_congr
    intro symbol _
    rw [Bool.eq_iff_iff, decide_eq_true_iff, Bool.and_eq_true, Symbol.isExported_iff]
  have located : layout.image.contents.symbolTable = layout.symbolTable := rfl
  unfold Image.exportedNames listing.exportedNames
  rw [located, ← selected]
  cases found : layout.symbolTable with
  | none =>
      rw [held.noSymbols found]
      exact .pure []
  | some table =>
      have symbols := held.symbols table found
      have inside := symbols.inside
      have few := table.count.toNat_lt
      have startSmall := table.strings.toNat_lt
      have sizeSmall := table.stringsSize.toNat_lt
      have size : layout.symbols.length * (8 + Word.size width) < 2 ^ 36 := by
        rw [symbols.count] at few
        cases width <;> simp only [Word.size] <;> omega
      have narrow : symbolSize layout.image.width = 8 + Word.size width := symbolSize_eq width
      dsimp only
      rw [narrow, symbols.count]
      apply (Yields.product (by omega)).bind
      apply (Yields.checkRange inside).bind
      apply (Yields.checkRange symbols.stringsInside).bind
      apply (Yields.sum (by omega)).bind
      have names := Yields.filterMapM_range
        (fun symbol => symbol.record.isExported && keep symbol.record.toSymbol)
        NamedSymbol.sourceName (symbols.yields_listedName sound keep)
      have nonempty : ∀ name : String, (!name.isEmpty) = decide (name ≠ "") := by
        intro name
        rw [Bool.eq_iff_iff]
        simp
      simp only [← nonempty]
      exact names.map fun names => (names.filter (!·.isEmpty)).eraseDups

theorem yields_answer (query : Query) :
    Yields source layout.order ((SharedObject.Image.machO layout.image).answer query)
      (layout.listing query) := by
  cases query with
  | sections => exact .pure _
  | symbols =>
      have names := held.yields_exportedNames sound fun _ => true
      simpa [SharedObject.Image.answer, Image.symbols, listing] using names
  | sectionSymbols name =>
      have sections : layout.image.contents.sections = layout.sectionNames := rfl
      simp only [SharedObject.Image.answer, Image.sectionSymbols, sections, listing]
      cases found : layout.sectionNames.idxOf? name with
      | none => exact .pure []
      | some index =>
          have names := held.yields_exportedNames sound (·.sectionNumber.toNat == index + 1)
          obtain ⟨among, _⟩ := List.idxOf?_eq_some_iff.mp found
          have few := held.commands.length_sections_le
          have areaSmall := layout.areaEnd_lt
          have small : index + 1 < 2 ^ 64 := by
            rw [sectionNames] at among
            omega
          apply (Yields.sum small).bind
          simpa using names

end HeldBy

end Layout

end MachO

end SharedObject
