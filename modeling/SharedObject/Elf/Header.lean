import SharedObject.Scan.Field
import SharedObject.Scan.Arithmetic

/-!
# ELF headers

An ELF file names its class (the width of its words) and its byte order in the
first sixteen bytes.  Its file header points at a table of section headers; when
their number or the index of the name table does not fit in the file header, the
first section header carries it.
-/

namespace SharedObject

namespace Elf

open Scan

def magic : List UInt8 := [0x7F, 0x45, 0x4C, 0x46]

def classByte : Width → UInt8
  | .bits32 => 1
  | .bits64 => 2

/-- The byte order that an encoding byte stands for. -/
def byteOrder? (encoding : UInt8) : Option ByteOrder :=
  if encoding = 1 then some .little
  else if encoding = 2 then some .big
  else none

/-- The section index that means the true one is in the first section header. -/
def extendedIndex : UInt16 := 0xFFFF

/-- The least size of a section header. -/
def headerSize : Width → Nat
  | .bits32 => 40
  | .bits64 => 64

/-- A section header, without the fields that no listing needs. -/
structure SectionHeader where
  name : UInt32
  kind : UInt32
  offset : UInt64
  size : UInt64
  link : UInt32
  entrySize : UInt64
  deriving DecidableEq, Repr, Inhabited

/-- The fields of the file header that lead to the section headers. -/
structure FileHeader where
  tableOffset : UInt64
  entrySize : UInt16
  sectionCount : UInt16
  nameTable : UInt16
  deriving DecidableEq, Repr

/-- The section headers of an ELF file of one class.  An index of 0 for the name
table means that there is none. -/
structure Image where
  width : Width
  tableOffset : UInt64
  headers : Array SectionHeader
  nameTable : Nat
  deriving DecidableEq, Repr

/-- Whether the first six bytes are those of an ELF file of this class. -/
def hasIdentity (width : Width) : Scan Bool := do
  let start ← leading 6
  if start.length = 6 then
    return (← front start 4) == magic && (← item start.toArray 4) == classByte width
  else
    return false

/-- Whether the file starts like an ELF file and stops within the first six bytes. -/
def isCutOff : Scan Bool := do
  let start ← leading 6
  let shown := min start.length magic.length
  return 0 < shown && (← front start shown) == (← front magic shown) && start.length < 6

/-- Use the byte order that the sixteen bytes of the identity name. -/
def chooseOrder (identity : List UInt8) : Scan Unit := do
  let encoding ← item identity.toArray 5
  match byteOrder? encoding with
  | some order => setOrder order
  | none => malformed (.unknownDataEncoding encoding.toNat)

/-- Read the sixteen bytes that say how the rest of the file is to be understood. -/
def readIdentity : Scan Unit := do
  seek 0
  chooseOrder (← take 16)

/-- The file header; its first bytes settle the byte order of everything else. -/
def readFileHeader (width : Width) : Scan FileHeader := do
  readIdentity
  let _type ← u16
  let _machine ← u16
  let _version ← u32
  let _entry ← word width
  let _programHeaders ← word width
  let tableOffset ← word width
  let _flags ← u32
  let _headerSize ← u16
  let _programEntrySize ← u16
  let _programCount ← u16
  let entrySize ← u16
  let sectionCount ← u16
  let nameTable ← u16
  return { tableOffset, entrySize, sectionCount, nameTable }

def readSectionHeader (width : Width) : Scan SectionHeader := do
  let name ← u32
  let kind ← u32
  let _flags ← word width
  let _address ← word width
  let offset ← word width
  let size ← word width
  let link ← u32
  let _info ← u32
  let _alignment ← word width
  let entrySize ← word width
  return { name, kind, offset, size, link, entrySize }

/-- The section headers number 1 and up of a table of `count`. -/
def readFurtherHeaders (width : Width) (table entrySize count : Nat) :
    Scan (List SectionHeader) :=
  (List.range' 1 (count - 1)).mapM fun index => do
    seek (← entryOffset table index entrySize)
    readSectionHeader width

/-- The number of section headers, which the first one holds if the file header has
no room for it. -/
def FileHeader.count (header : FileHeader) (first : SectionHeader) : Nat :=
  if header.sectionCount = 0 then first.size.toNat else header.sectionCount.toNat

def FileHeader.nameTableIndex (header : FileHeader) (first : SectionHeader) : Nat :=
  if header.nameTable = extendedIndex then first.link.toNat else header.nameTable.toNat

def checkNameTable (headers : Array SectionHeader) (nameTable : Nat) : Scan Unit :=
  match headers[nameTable]? with
  | some names => checkRange .sectionNameTable names.offset.toNat names.size.toNat
  | none => return ()

/-- The image of an ELF file of the given class.  A file that points at no section
headers, or at none of them, is an image without sections. -/
def parse (width : Width) : Scan Image := do
  let header ← readFileHeader width
  let table := header.tableOffset.toNat
  let entrySize := header.entrySize.toNat
  let bare : Image :=
    { width, tableOffset := header.tableOffset, headers := #[], nameTable := 0 }
  if table = 0 then
    return bare
  refuseIf (entrySize < headerSize width) (.sectionHeaderTooSmall entrySize)
  checkRange .sectionHeaderTable table entrySize
  seek table
  let first ← readSectionHeader width
  let count := header.count first
  let nameTable := header.nameTableIndex first
  if count = 0 then
    return bare
  refuseIf (offsetBound ≤ count * entrySize) .sectionHeaderTableTooLarge
  checkRange .sectionHeaderTable table (count * entrySize)
  refuseIf (count ≤ nameTable) (.sectionNameTableIndex nameTable)
  let further ← readFurtherHeaders width table entrySize count
  let headers := (first :: further).toArray
  checkNameTable headers nameTable
  return { bare with headers, nameTable }

end Elf

end SharedObject
