import SharedObject.Elf.Header
import SharedObject.Scan.Name

/-!
# Sections and symbols of an ELF file

The listings read names on demand: section names from the name table, symbol
names from the string table that each symbol table is linked to.  Only exported
symbols are listed, those of binding global, weak or unique, of default or
protected visibility, that are defined in the file.
-/

namespace SharedObject

namespace Elf

open Scan

def symbolTableKind : UInt32 := 2

/-- The kind of a section that holds the symbols for dynamic linking. -/
def dynamicSymbolKind : UInt32 := 11

def undefinedIndex : UInt16 := 0

/-- The least size of a symbol table entry. -/
def symbolSize : Width → Nat
  | .bits32 => 16
  | .bits64 => 24

/-- A symbol table entry, without its value and size. -/
structure Symbol where
  name : UInt32
  info : UInt8
  other : UInt8
  sectionIndex : UInt16
  deriving DecidableEq, Repr

namespace Symbol

/-- The binding: local, global, weak and so on. -/
def binding (symbol : Symbol) : UInt8 :=
  symbol.info >>> 4

/-- The visibility: default, internal, hidden or protected. -/
def visibility (symbol : Symbol) : UInt8 :=
  symbol.other &&& 3

/-- A defined symbol that other files may refer to. -/
def isExported (symbol : Symbol) : Bool :=
  [1, 2, 10].contains symbol.binding &&
    [0, 3].contains symbol.visibility &&
    symbol.sectionIndex != undefinedIndex

end Symbol

def SectionHeader.isSymbolTable (header : SectionHeader) : Bool :=
  header.kind == symbolTableKind || header.kind == dynamicSymbolKind

def SectionHeader.contentEnd (header : SectionHeader) : Nat :=
  saturatingSum header.offset.toNat header.size.toNat

/-- The name at an index into a string table. -/
def nameIn (strings : SectionHeader) (index : UInt32) : Scan String :=
  nameAt (saturatingSum strings.offset.toNat index.toNat) strings.contentEnd

def readSymbol : Width → Scan Symbol
  | .bits64 => do
      let name ← u32
      let info ← u8
      let other ← u8
      let sectionIndex ← u16
      return { name, info, other, sectionIndex }
  | .bits32 => do
      let name ← u32
      let _value ← u32
      let _size ← u32
      let info ← u8
      let other ← u8
      let sectionIndex ← u16
      return { name, info, other, sectionIndex }

namespace Image

def sectionName (image : Image) (header : SectionHeader) : Scan String := do
  if image.nameTable = 0 then
    return ""
  nameIn (← item image.headers image.nameTable) header.name

def sections (image : Image) : Scan (List String) :=
  image.headers.toList.mapM image.sectionName

/-- The index of the first section of a name among headers counted from `index`. -/
def indexOfSection (image : Image) (name : String) (index : Nat) :
    List SectionHeader → Scan (Option Nat)
  | [] => return none
  | header :: headers => do
      if (← image.sectionName header) = name then
        return some index
      image.indexOfSection name (index + 1) headers

/-- The size of the entries of a symbol table; 0 stands for the least size. -/
def entrySize (image : Image) (table : SectionHeader) : Scan Nat :=
  let declared := table.entrySize.toNat
  if declared = 0 then return symbolSize image.width
  else if declared < symbolSize image.width then malformed (.symbolEntryTooSmall declared)
  else return declared

def readSymbols (image : Image) (table : SectionHeader) : Scan (List Symbol) := do
  let stride ← image.entrySize table
  let offset := table.offset.toNat
  let extent := table.size.toNat
  checkRange .symbolTable offset extent
  let (count, rest) ← divide extent stride
  refuseIf (rest ≠ 0) (.symbolTableRagged extent stride)
  (List.range count).mapM fun index => do
    seek (← entryOffset offset index stride)
    readSymbol image.width

/-- The names of the exported symbols of one table that `keep` selects. -/
def namesOfTable (image : Image) (keep : Symbol → Bool) (table : SectionHeader) :
    Scan (List String) := do
  match image.headers[table.link.toNat]? with
  | none => malformed (.stringTableIndex table.link.toNat)
  | some strings =>
      checkRange .stringTable strings.offset.toNat strings.size.toNat
      let symbols ← image.readSymbols table
      let names ← (symbols.filter fun symbol => symbol.isExported && keep symbol).mapM
        fun symbol => nameIn strings symbol.name
      return names.filter (!·.isEmpty)

/-- The names of the exported symbols that `keep` selects, each once. -/
def exportedNames (image : Image) (keep : Symbol → Bool) : Scan (List String) := do
  let tables := image.headers.toList.filter (·.isSymbolTable)
  return (← tables.mapM (image.namesOfTable keep)).flatten.eraseDups

def symbols (image : Image) : Scan (List String) :=
  image.exportedNames fun _ => true

def sectionSymbols (image : Image) (name : String) : Scan (List String) := do
  match ← image.indexOfSection name 0 image.headers.toList with
  | none => return []
  | some index => image.exportedNames (·.sectionIndex.toNat == index)

end Image

end Elf

end SharedObject
