import SharedObject.Scan.Arithmetic
import SharedObject.Scan.Name

/-!
# PE headers

A PE file starts with a DOS header that points at the PE signature.  The COFF
header after it is followed by the optional header, whose first field tells PE32
from PE32+, and by the section table.  A section maps a span of addresses
relative to the image base onto raw bytes of the file.
-/

namespace SharedObject

namespace Pe

open Scan

def dosMagic : List UInt8 := [0x4D, 0x5A]

/-- What the headers that a DOS header points at start with. -/
def signature : List UInt8 := [0x50, 0x45, 0, 0]

/-- Where the DOS header holds the offset of the signature. -/
def signaturePointer : Nat := 0x3C

def coffHeaderSize : Nat := 20

def sectionHeaderSize : Nat := 40

/-- The size of an entry of the COFF symbol table, which ends where the string
table starts. -/
def coffSymbolSize : Nat := 18

/-- The first field of the optional header of each width. -/
def optionalMagic : Width → UInt16
  | .bits32 => 0x10B
  | .bits64 => 0x20B

/-- Where the optional header holds the number of data directories. -/
def directoryCountOffset : Width → Nat
  | .bits32 => 92
  | .bits64 => 108

/-- Where the data directories start in the optional header. -/
def directoriesOffset : Width → Nat
  | .bits32 => 96
  | .bits64 => 112

/-- A section: its name, its span of addresses, and its bytes in the file. -/
structure Section where
  name : String
  virtualSize : UInt32
  virtualAddress : UInt32
  rawSize : UInt32
  rawOffset : UInt32
  deriving DecidableEq, Repr

/-- The number of addresses that a section covers: the larger of its two sizes. -/
def Section.span (part : Section) : Nat :=
  max part.virtualSize.toNat part.rawSize.toNat

def Section.contains (part : Section) (address : UInt32) : Scan Bool := do
  let spanEnd ← sum part.virtualAddress.toNat part.span
  return part.virtualAddress.toNat ≤ address.toNat && address.toNat < spanEnd

/-- The sections of a PE file and the address of its export directory, 0 for none. -/
structure Image where
  width : Width
  sections : List Section
  exportDirectory : UInt32
  deriving DecidableEq, Repr

/-- The offset of the optional header, behind the signature and the COFF header. -/
def optionalHeaderOffset (headers : Nat) : Scan Nat := do
  sum (← sum headers 4) coffHeaderSize

/-- The offset of the optional header and its first field. -/
def locateOptionalHeader : Scan (Nat × UInt16) := do
  setOrder .little
  seek 0
  refuseIf ((← take 2) ≠ dosMagic) .missingDosHeader
  seek signaturePointer
  let headers := (← u32).toNat
  seek headers
  refuseIf ((← take 4) ≠ signature) .missingPeSignature
  let optional ← optionalHeaderOffset headers
  seek optional
  return (optional, ← u16)

/-- Whether the headers are those of a PE file of this width. -/
def hasIdentity (width : Width) : Scan Bool := do
  return (← locateOptionalHeader).2 == optionalMagic width

/-- Whether the file starts a DOS header, or the signature it points at, and stops
before the first field of the optional header.  A DOS program without PE headers
is not cut off. -/
def isCutOff : Scan Bool := do
  let start ← leading 2
  if start.isEmpty || !start.isPrefixOf dosMagic then
    return false
  let size ← size
  if size < signaturePointer + 4 then
    return true
  setOrder .little
  seek signaturePointer
  let headers := (← u32).toNat
  if size ≤ headers then
    return false
  seek headers
  let available := min (← difference size headers) 4
  let found ← (List.range available).mapM fun _ => u8
  let firstField ← optionalHeaderOffset headers
  return found == (← front signature available) && size < (← sum firstField 2)

/-- The offset that a section name refers to by a slash and a decimal number, which
may carry a plus sign. -/
def nameReference? (name : String) : Option Nat :=
  match name.toList with
  | '/' :: rest =>
      let digits := if rest.head? = some '+' then rest.tail else rest
      if !digits.isEmpty && digits.all Char.isDigit then
        some (digits.foldl (fun value digit => value * 10 + (digit.toNat - 48)) 0)
      else none
  | _ => none

/-- The name of a section from its field of eight bytes: the field itself, or the
entry of the string table that it refers to when there is such a table. -/
def sectionName (field : List UInt8) (stringTable : Nat) : Scan String := do
  let short ← paddedName field
  match nameReference? short with
  | some reference =>
      if stringTable = 0 then return short
      else nameToEnd (saturatingSum stringTable reference)
  | none => return short

/-- The section whose entry of the section table starts at `offset`. -/
def readSection (stringTable offset : Nat) : Scan Section := do
  seek offset
  let field ← take 8
  let virtualSize ← u32
  let virtualAddress ← u32
  let rawSize ← u32
  let rawOffset ← u32
  let name ← sectionName field stringTable
  return { name, virtualSize, virtualAddress, rawSize, rawOffset }

/-- The address of the export directory that the optional header holds, 0 when it
has no room for one or declares none. -/
def readExportDirectory (width : Width) (optional optionalSize : Nat) : Scan UInt32 := do
  seek (← sum optional (directoryCountOffset width))
  let directoryCount ← u32
  if 0 < directoryCount && directoriesOffset width + 8 ≤ optionalSize then
    seek (← sum optional (directoriesOffset width))
    u32
  else
    return 0

/-- The offset of the COFF string table, 0 when there is no symbol table before it. -/
def stringTableOffset (symbolTable symbolCount : Nat) : Scan Nat :=
  if symbolTable = 0 then return 0
  else entryOffset symbolTable symbolCount coffSymbolSize

def parse (width : Width) : Scan Image := do
  let (optional, _) ← locateOptionalHeader
  seek (← sum (← difference optional coffHeaderSize) 2)
  let sectionCount := (← u16).toNat
  let _timestamp ← u32
  let symbolTable := (← u32).toNat
  let symbolCount := (← u32).toNat
  let optionalSize := (← u16).toNat
  refuseIf (optionalSize < directoriesOffset width) (.optionalHeaderTooSmall optionalSize)
  checkRange .optionalHeader optional optionalSize
  let exportDirectory ← readExportDirectory width optional optionalSize
  let stringTable ← stringTableOffset symbolTable symbolCount
  let table ← sum optional optionalSize
  checkRange .sectionTable table (← product sectionCount sectionHeaderSize)
  let sections ← (List.range sectionCount).mapM fun index => do
    readSection stringTable (← entryOffset table index sectionHeaderSize)
  return { width, sections, exportDirectory }

end Pe

end SharedObject
