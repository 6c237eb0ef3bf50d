import SharedObject.LibraryFile
import SharedObject.Proofs.Scan.Holding

/-!
# The layout of an ELF file

An ELF file is described by all the fields of its headers and symbols, by the names
that its sections and symbols have, and by the places where it keeps them.  The
description says which bytes the file has, and what each query about it lists.
-/

namespace SharedObject

namespace Elf

variable {width : Width}

/-- The header of a file behind its magic number, class and byte order. -/
structure FileRecord (width : Width) where
  identityRest : Vector UInt8 10
  kind : UInt16
  machine : UInt16
  version : UInt32
  entry : Word width
  programHeaders : Word width
  tableOffset : Word width
  flags : UInt32
  headerSize : UInt16
  programEntrySize : UInt16
  programCount : UInt16
  entrySize : UInt16
  sectionCount : UInt16
  nameTable : UInt16

/-- The first sixteen bytes of a file. -/
def FileRecord.identity (order : ByteOrder) (record : FileRecord width) : List UInt8 :=
  let classCode : UInt8 := match width with
    | .bits32 => 1
    | .bits64 => 2
  let orderCode : UInt8 := match order with
    | .little => 1
    | .big => 2
  [0x7F, 0x45, 0x4C, 0x46, classCode, orderCode] ++ record.identityRest.toList

/-- The fields after the identity, as a file stores them. -/
def FileRecord.fields (order : ByteOrder) (record : FileRecord width) : List UInt8 :=
  order.bytes 2 record.kind.toNat ++ (order.bytes 2 record.machine.toNat ++
    (order.bytes 4 record.version.toNat ++ (record.entry.bytes order ++
    (record.programHeaders.bytes order ++ (record.tableOffset.bytes order ++
    (order.bytes 4 record.flags.toNat ++ (order.bytes 2 record.headerSize.toNat ++
    (order.bytes 2 record.programEntrySize.toNat ++ (order.bytes 2 record.programCount.toNat ++
    (order.bytes 2 record.entrySize.toNat ++ (order.bytes 2 record.sectionCount.toNat ++
    order.bytes 2 record.nameTable.toNat)))))))))))

theorem FileRecord.length_identity (order : ByteOrder) (record : FileRecord width) :
    (record.identity order).length = 16 := by
  simp [identity]

theorem FileRecord.length_fields (order : ByteOrder) (record : FileRecord width) :
    (record.fields order).length = 24 + 3 * Word.size width := by
  simp only [fields, Word.bytes, List.length_append, ByteOrder.length_bytes]
  omega

/-- A section header with all its fields. -/
structure SectionRecord (width : Width) where
  name : UInt32
  kind : UInt32
  flags : Word width
  address : Word width
  offset : Word width
  size : Word width
  link : UInt32
  info : UInt32
  alignment : Word width
  entrySize : Word width

namespace SectionRecord

/-- A section header as a file stores it. -/
def bytes (order : ByteOrder) (record : SectionRecord width) : List UInt8 :=
  order.bytes 4 record.name.toNat ++ (order.bytes 4 record.kind.toNat ++
    (record.flags.bytes order ++ (record.address.bytes order ++ (record.offset.bytes order ++
    (record.size.bytes order ++ (order.bytes 4 record.link.toNat ++
    (order.bytes 4 record.info.toNat ++ (record.alignment.bytes order ++
    record.entrySize.bytes order))))))))

theorem length_bytes (order : ByteOrder) (record : SectionRecord width) :
    (record.bytes order).length = 16 + 6 * Word.size width := by
  simp only [bytes, Word.bytes, List.length_append, ByteOrder.length_bytes]
  omega

/-- The fields that the listings need. -/
def header (record : SectionRecord width) : SectionHeader where
  name := record.name
  kind := record.kind
  offset := record.offset.toUInt64
  size := record.size.toUInt64
  link := record.link
  entrySize := record.entrySize.toUInt64

end SectionRecord

/-- A symbol table entry with all its fields. -/
structure SymbolRecord (width : Width) extends Symbol where
  value : Word width
  size : Word width

/-- A symbol table entry as a file stores it: in a 32-bit file, the value and the size
come before the other fields. -/
def SymbolRecord.bytes (order : ByteOrder) (record : SymbolRecord width) : List UInt8 :=
  match width with
  | .bits32 =>
      order.bytes 4 record.name.toNat ++ (record.value.bytes order ++ (record.size.bytes order ++
        ([record.info] ++ ([record.other] ++ order.bytes 2 record.sectionIndex.toNat))))
  | .bits64 =>
      (order.bytes 4 record.name.toNat ++ ([record.info] ++ ([record.other] ++
        order.bytes 2 record.sectionIndex.toNat))) ++
        (record.value.bytes order ++ record.size.bytes order)

theorem SymbolRecord.length_bytes (order : ByteOrder) (record : SymbolRecord width) :
    (record.bytes order).length = 8 + 2 * Word.size width := by
  cases width <;> simp [bytes, Word.bytes, Word.size]

/-- A symbol of global, weak or unique binding and of default or protected visibility
that the file defines. -/
def Symbol.Exported (symbol : Symbol) : Prop :=
  symbol.info.toNat / 16 ∈ [1, 2, 10] ∧ symbol.other.toNat % 4 ∈ [0, 3] ∧
    symbol.sectionIndex ≠ 0

instance (symbol : Symbol) : Decidable symbol.Exported :=
  inferInstanceAs (Decidable (_ ∧ _ ∧ _))

/-- A symbol and its name. -/
structure NamedSymbol (width : Width) where
  name : String
  record : SymbolRecord width

/-- A section, its name, and the symbols it holds if it is a symbol table. -/
structure NamedSection (width : Width) where
  name : String
  record : SectionRecord width
  symbols : List (NamedSymbol width) := []

namespace NamedSection

/-- A symbol table, for linking or for dynamic linking. -/
def IsTable (part : NamedSection width) : Prop :=
  part.record.kind = 2 ∨ part.record.kind = 11

instance (part : NamedSection width) : Decidable part.IsTable :=
  inferInstanceAs (Decidable (_ ∨ _))

/-- The distance of the entries of a symbol table. -/
def stride (part : NamedSection width) : Nat :=
  if part.record.entrySize = 0 then 8 + 2 * Word.size width else part.record.entrySize.toNat

/-- Where the content of a section ends. -/
def contentEnd (part : NamedSection width) : Nat :=
  part.record.offset.toNat + part.record.size.toNat

/-- The names of the exported symbols of a section that `keep` selects. -/
def exportedNames (part : NamedSection width) (keep : Symbol → Prop) [DecidablePred keep] :
    List String :=
  (part.symbols.filter fun symbol =>
    symbol.record.toSymbol.Exported ∧ keep symbol.record.toSymbol ∧ symbol.name ≠ "").map (·.name)

end NamedSection

/-- An ELF file of one width. -/
structure Layout (width : Width) where
  order : ByteOrder
  file : FileRecord width
  nameTable : Nat
  sections : List (NamedSection width)

namespace Layout

variable (layout : Layout width)

/-- What each query about the file lists. -/
def listing : Query → List String
  | .sections => layout.sections.map (·.name)
  | .symbols => exportedNames fun _ => True
  | .sectionSymbols name =>
      match (layout.sections.map (·.name)).idxOf? name with
      | none => []
      | some index => exportedNames fun symbol => symbol.sectionIndex.toNat = index
where
  /-- The names of exported symbols in the order of the tables and their entries, each
  once. -/
  exportedNames (keep : Symbol → Prop) [DecidablePred keep] : List String :=
    ((layout.sections.filter (·.IsTable)).flatMap (·.exportedNames keep)).eraseDups

/-- The file has the name of each section in the section that is the name table. -/
structure NamesHeldBy (source : Source) (names : NamedSection width) : Prop where
  table : layout.sections[layout.nameTable]? = some names
  inside : names.contentEnd ≤ source.size
  held : ∀ part ∈ layout.sections,
    source.HoldsName (names.record.offset.toNat + part.record.name.toNat) names.contentEnd
      part.name

/-- The file has the entries of a symbol table, and the names of the exported ones in
the section that the table is linked to. -/
structure SymbolsHeldBy (source : Source) (table strings : NamedSection width) : Prop where
  stride : table.record.entrySize = 0 ∨ 8 + 2 * Word.size width ≤ table.record.entrySize.toNat
  size : table.record.size.toNat = table.symbols.length * table.stride
  inside : table.contentEnd ≤ source.size
  entries : ∀ index, (among : index < table.symbols.length) →
    source.Holds (table.record.offset.toNat + index * table.stride)
      (table.symbols[index].record.bytes layout.order)
  linked : layout.sections[table.record.link.toNat]? = some strings
  stringsInside : strings.contentEnd ≤ source.size
  names : ∀ symbol ∈ table.symbols, symbol.record.toSymbol.Exported →
    source.HoldsName (strings.record.offset.toNat + symbol.record.name.toNat) strings.contentEnd
      symbol.name

/-- The file has a section header table.  Its first header has the number of headers and
the index of the name table when the file header leaves them to it. -/
structure TableHeldBy (source : Source) (first : NamedSection width) : Prop where
  present : layout.file.tableOffset ≠ 0
  starts : layout.sections.head? = some first
  entrySize : 16 + 6 * Word.size width ≤ layout.file.entrySize.toNat
  inside : layout.file.tableOffset.toNat +
    layout.sections.length * layout.file.entrySize.toNat ≤ source.size
  count : layout.sections.length =
    if layout.file.sectionCount = 0 then first.record.size.toNat
    else layout.file.sectionCount.toNat
  nameTable : layout.nameTable =
    if layout.file.nameTable = 0xFFFF then first.record.link.toNat
    else layout.file.nameTable.toNat
  named : layout.nameTable ≠ 0
  headers : ∀ index, (among : index < layout.sections.length) →
    source.Holds (layout.file.tableOffset.toNat + index * layout.file.entrySize.toNat)
      (layout.sections[index].record.bytes layout.order)
  names : ∃ names, layout.NamesHeldBy source names
  symbols : ∀ table ∈ layout.sections, table.IsTable →
    ∃ strings, layout.SymbolsHeldBy source table strings

/-- The file has the bytes that are described; one without sections need not have a
section header table. -/
structure HeldBy (source : Source) : Prop where
  identity : source.Holds 0 (layout.file.identity layout.order)
  fields : source.Holds 16 (layout.file.fields layout.order)
  table : layout.file.tableOffset = 0 ∧ layout.sections = [] ∨
    ∃ first, layout.TableHeldBy source first

end Layout

end Elf

end SharedObject
