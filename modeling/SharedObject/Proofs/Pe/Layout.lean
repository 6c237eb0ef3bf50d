import SharedObject.LibraryFile
import SharedObject.Proofs.Scan.Holding

/-!
# The layout of a PE file

A PE file is described by the fields of its headers, by its sections with their names,
and by its exports.  The exports are a directory, which is found by its address, and the
tables and names that this leads to, each of them somewhere in the raw data of a section.
-/

namespace SharedObject

namespace Pe

variable {width : Width}

/-- The fields of the headers. -/
structure FileRecord where
  headersOffset : UInt32
  machine : UInt16
  timestamp : UInt32
  symbolTable : UInt32
  symbolCount : UInt32
  optionalSize : UInt16
  characteristics : UInt16
  directoryCount : UInt32

namespace FileRecord

/-- The signature, the COFF header of a file of some number of sections, and the field
that the optional header starts with, which tells the width. -/
def headers (width : Width) (sectionCount : Nat) (record : FileRecord) : List UInt8 :=
  let order := ByteOrder.little
  let optionalMagic := match width with
    | .bits32 => 0x10B
    | .bits64 => 0x20B
  [0x50, 0x45, 0, 0] ++ (order.bytes 2 record.machine.toNat ++
    (order.bytes 2 sectionCount ++ (order.bytes 4 record.timestamp.toNat ++
    (order.bytes 4 record.symbolTable.toNat ++ (order.bytes 4 record.symbolCount.toNat ++
    (order.bytes 2 record.optionalSize.toNat ++ (order.bytes 2 record.characteristics.toNat ++
    order.bytes 2 optionalMagic)))))))

/-- Where the optional header starts. -/
def optional (record : FileRecord) : Nat :=
  record.headersOffset.toNat + 24

/-- Where the section table starts. -/
def sectionTable (record : FileRecord) : Nat :=
  record.optional + record.optionalSize.toNat

end FileRecord

/-- An entry of the section table with all its fields. -/
structure SectionRecord where
  nameField : Vector UInt8 8
  virtualSize : UInt32
  virtualAddress : UInt32
  rawSize : UInt32
  rawOffset : UInt32
  others : Vector UInt8 16

namespace SectionRecord

/-- An entry of the section table as a file stores it. -/
def bytes (record : SectionRecord) : List UInt8 :=
  let order := ByteOrder.little
  record.nameField.toList ++ (order.bytes 4 record.virtualSize.toNat ++
    (order.bytes 4 record.virtualAddress.toNat ++ (order.bytes 4 record.rawSize.toNat ++
    (order.bytes 4 record.rawOffset.toNat ++ record.others.toList))))

/-- The section spans an address: it goes up to the larger of its two sizes. -/
def Spans (record : SectionRecord) (address : Nat) : Prop :=
  record.virtualAddress.toNat ≤ address ∧
    address < record.virtualAddress.toNat + max record.virtualSize.toNat record.rawSize.toNat

instance (record : SectionRecord) (address : Nat) : Decidable (record.Spans address) :=
  inferInstanceAs (Decidable (_ ∧ _))

/-- The raw data of the section has `extent` bytes from an address on, and these are at
an offset in the file. -/
def Keeps (record : SectionRecord) (address extent offset : Nat) : Prop :=
  record.virtualAddress.toNat ≤ address ∧
    address + extent ≤ record.virtualAddress.toNat + record.rawSize.toNat ∧
    offset = record.rawOffset.toNat + (address - record.virtualAddress.toNat)

instance (record : SectionRecord) (address extent offset : Nat) :
    Decidable (record.Keeps address extent offset) :=
  inferInstanceAs (Decidable (_ ∧ _ ∧ _))

end SectionRecord

/-- A section and its name. -/
structure NamedSection where
  name : String
  record : SectionRecord

/-- The file has the name of a section: in the field of eight bytes, or in the string
table, at an offset that the field has in decimal digits after a slash. -/
def NamedSection.NameHeldBy (file : FileRecord) (source : Source) (part : NamedSection) : Prop :=
  let field := part.record.nameField.toList.takeWhile (· ≠ 0)
  (field = utf8Bytes part.name ∧ part.name.toList.head? ≠ some '/') ∨
    file.symbolTable ≠ 0 ∧ ∃ digits : List Char, digits ≠ [] ∧ (∀ digit ∈ digits, digit.isDigit) ∧
      field = utf8Bytes (String.ofList ('/' :: digits)) ∧
      source.HoldsName
        (file.symbolTable.toNat + file.symbolCount.toNat * 18 + Nat.ofDigitChars 10 digits 0)
        source.size part.name

/-- An exported name, its address, and the ordinal of the function that it stands for. -/
structure NamedExport where
  name : String
  address : UInt32
  ordinal : UInt16

/-- The export directory with its address and the addresses of its tables, the address
table itself, and the exports in the order of the name table. -/
structure ExportTable where
  directory : UInt32
  functionsAddress : UInt32
  namesAddress : UInt32
  ordinalsAddress : UInt32
  functions : List UInt32
  exports : List NamedExport

/-- The section spans the address that the address table has at the ordinal of the
export. -/
def SectionRecord.Defines (record : SectionRecord) (table : ExportTable)
    (exported : NamedExport) : Prop :=
  ∃ function ∈ table.functions[exported.ordinal.toNat]?, record.Spans function.toNat

instance (record : SectionRecord) (table : ExportTable) (exported : NamedExport) :
    Decidable (record.Defines table exported) :=
  inferInstanceAs (Decidable (∃ _ ∈ _, _))

/-- The end of the export directory as a file stores it; its first twenty bytes do not
matter. -/
def ExportTable.bytes (table : ExportTable) : List UInt8 :=
  let order := ByteOrder.little
  order.bytes 4 table.functions.length ++ (order.bytes 4 table.exports.length ++
    (order.bytes 4 table.functionsAddress.toNat ++ (order.bytes 4 table.namesAddress.toNat ++
    order.bytes 4 table.ordinalsAddress.toNat)))

/-- A PE file of one width. -/
structure Layout (width : Width) where
  file : FileRecord
  sections : List NamedSection
  exportTable : Option ExportTable

namespace Layout

variable (layout : Layout width)

/-- What each query about the file lists. -/
def listing : Query → List String
  | .sections => layout.sections.map (·.name)
  | .symbols => exportedNames fun _ _ => True
  | .sectionSymbols name =>
      match layout.sections.find? (·.name = name) with
      | none => []
      | some part => exportedNames part.record.Defines
where
  /-- The names of some exports in the order of the name table, each once. -/
  exportedNames (keep : ExportTable → NamedExport → Prop)
      [∀ table, DecidablePred (keep table)] : List String :=
    match layout.exportTable with
    | none => []
    | some table => ((table.exports.filter (keep table ·)).map (·.name)).eraseDups

/-- Where the number of data directories is in the optional header; the directories
follow, the export directory first. -/
def directoryCountOffset : Width → Nat
  | .bits32 => 92
  | .bits64 => 108

/-- The file has `extent` bytes from an address on at an offset, all in the raw data of
one section. -/
def Keeps (source : Source) (address : UInt32) (extent offset : Nat) : Prop :=
  (∃ part ∈ layout.sections, part.record.Keeps address.toNat extent offset) ∧
    offset + extent ≤ source.size

/-- The file has the three tables of the exports at some offsets, and the names. -/
structure TablesHeldBy (source : Source) (table : ExportTable)
    (namesOffset ordinalsOffset functionsOffset : Nat) : Prop where
  names : layout.Keeps source table.namesAddress (table.exports.length * 4) namesOffset
  nameEntries : ∀ index, (among : index < table.exports.length) →
    source.Holds (namesOffset + index * 4)
      (ByteOrder.little.bytes 4 table.exports[index].address.toNat)
  ordinals : layout.Keeps source table.ordinalsAddress (table.exports.length * 2) ordinalsOffset
  ordinalEntries : ∀ index, (among : index < table.exports.length) →
    source.Holds (ordinalsOffset + index * 2)
      (ByteOrder.little.bytes 2 table.exports[index].ordinal.toNat)
  functions : layout.Keeps source table.functionsAddress (table.functions.length * 4)
    functionsOffset
  functionEntries : ∀ index, (among : index < table.functions.length) →
    source.Holds (functionsOffset + index * 4)
      (ByteOrder.little.bytes 4 table.functions[index].toNat)
  ordinalsInside : ∀ exported ∈ table.exports, exported.ordinal.toNat < table.functions.length
  nameTexts : ∀ exported ∈ table.exports, ∃ offset,
    layout.Keeps source exported.address ((utf8Bytes exported.name).length + 1) offset ∧
      source.HoldsName offset source.size exported.name

/-- The file has an export directory, and what this leads to if there are exports. -/
structure ExportsHeldBy (source : Source) (table : ExportTable) : Prop where
  declared : layout.file.directoryCount ≠ 0
  room : directoryCountOffset width + 12 ≤ layout.file.optionalSize.toNat
  address : source.Holds (layout.file.optional + (directoryCountOffset width + 4))
    (ByteOrder.little.bytes 4 table.directory.toNat)
  present : table.directory ≠ 0
  functionCount : table.functions.length < 2 ^ 32
  exportCount : table.exports.length < 2 ^ 32
  directory : ∃ offset, layout.Keeps source table.directory 40 offset ∧
    source.Holds (offset + 20) table.bytes
  tables : table.exports ≠ [] → ∃ namesOffset ordinalsOffset functionsOffset,
    layout.TablesHeldBy source table namesOffset ordinalsOffset functionsOffset

/-- The file has no data directories, or no room for the first, or has 0 for the address
of the export directory. -/
def NoExportsIn (source : Source) : Prop :=
  layout.file.directoryCount = 0 ∨
    layout.file.optionalSize.toNat < directoryCountOffset width + 12 ∨
    source.Holds (layout.file.optional + (directoryCountOffset width + 4)) [0, 0, 0, 0]

/-- The file has the bytes that are described. -/
structure HeldBy (source : Source) : Prop where
  dosMagic : source.Holds 0 [0x4D, 0x5A]
  headersOffset : source.Holds 0x3C (ByteOrder.little.bytes 4 layout.file.headersOffset.toNat)
  headers : source.Holds layout.file.headersOffset.toNat
    (layout.file.headers width layout.sections.length)
  optionalSize : directoryCountOffset width + 4 ≤ layout.file.optionalSize.toNat
  directoryCount : source.Holds (layout.file.optional + directoryCountOffset width)
    (ByteOrder.little.bytes 4 layout.file.directoryCount.toNat)
  sectionCount : layout.sections.length < 2 ^ 16
  tableInside : layout.file.sectionTable + layout.sections.length * 40 ≤ source.size
  sections : ∀ index, (among : index < layout.sections.length) →
    source.Holds (layout.file.sectionTable + index * 40) layout.sections[index].record.bytes
  names : ∀ part ∈ layout.sections, part.NameHeldBy layout.file source
  disjoint : layout.sections.Pairwise fun part other =>
    ∀ address, ¬(part.record.Spans address ∧ other.record.Spans address)
  exports : match layout.exportTable with
    | none => layout.NoExportsIn source
    | some table => layout.ExportsHeldBy source table

end Layout

end Pe

end SharedObject
