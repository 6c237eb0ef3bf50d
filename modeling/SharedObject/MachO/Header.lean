import SharedObject.Scan.Arithmetic
import SharedObject.Scan.Name

/-!
# Mach-O headers and load commands

The magic number of a Mach-O file tells its width and its byte order.  After the
header come load commands, back to back, each with its kind and its size.  Segment
commands list sections, which are numbered from 1 across all of them; a symbol
table command says where the symbols and their names are.
-/

namespace SharedObject

namespace MachO

open Scan

/-- The magic number of a width as it reads in the byte order of the file. -/
def magic : Width → UInt32
  | .bits32 => 0xFEEDFACE
  | .bits64 => 0xFEEDFACF

/-- The magic number of a width as it reads in the other byte order. -/
def swappedMagic : Width → UInt32
  | .bits32 => 0xCEFAEDFE
  | .bits64 => 0xCFFAEDFE

/-- The bytes of each magic number, as files start with them. -/
def magicBytes : List (List UInt8) :=
  [[0xCE, 0xFA, 0xED, 0xFE], [0xFE, 0xED, 0xFA, 0xCE],
    [0xCF, 0xFA, 0xED, 0xFE], [0xFE, 0xED, 0xFA, 0xCF]]

def headerSize : Width → Nat
  | .bits32 => 28
  | .bits64 => 32

def segmentCommand : Width → UInt32
  | .bits32 => 0x1
  | .bits64 => 0x19

/-- The kind of the command that locates the symbol table. -/
def symbolTableCommand : UInt32 := 0x2

/-- Where a segment command holds the number of its sections. -/
def sectionCountOffset : Width → Nat
  | .bits32 => 48
  | .bits64 => 64

/-- Where the section headers start in a segment command. -/
def firstSectionOffset : Width → Nat
  | .bits32 => 56
  | .bits64 => 72

def sectionHeaderSize : Width → Nat
  | .bits32 => 68
  | .bits64 => 80

structure SymbolTable where
  symbols : UInt32
  count : UInt32
  strings : UInt32
  stringsSize : UInt32
  deriving DecidableEq, Repr

/-- What the load commands read so far have said: the names of the sections, as
segment and section joined by a comma, and the last symbol table. -/
structure Contents where
  sections : List String := []
  symbolTable : Option SymbolTable := none
  deriving DecidableEq, Repr

/-- The contents of a Mach-O file of one width, with the number of load commands. -/
structure Image where
  width : Width
  commandCount : UInt32
  contents : Contents
  deriving DecidableEq, Repr

/-- The magic number, read in little-endian order. -/
def readMagic : Scan UInt32 := do
  setOrder .little
  seek 0
  u32

/-- The byte order of a file by its magic number, which was read in little-endian
order. -/
def orderOf (found : UInt32) : ByteOrder :=
  if found = swappedMagic .bits32 ∨ found = swappedMagic .bits64 then .big else .little

/-- Whether the magic number is one of this width. -/
def hasIdentity (width : Width) : Scan Bool := do
  let found ← readMagic
  return found == magic width || found == swappedMagic width

/-- Whether the file stops inside a magic number. -/
def isCutOff : Scan Bool := do
  let start ← leading 4
  return !start.isEmpty && start.length != 4 && magicBytes.any start.isPrefixOf

/-- The name of the section whose header is at the cursor. -/
def readSectionName : Scan String := do
  let sectionField ← take 16
  let segmentField ← take 16
  return (← paddedName segmentField) ++ "," ++ (← paddedName sectionField)

/-- The names of the sections of the segment command at `command`. -/
def readSegment (width : Width) (command size : Nat) : Scan (List String) := do
  let first := firstSectionOffset width
  let stride := sectionHeaderSize width
  refuseIf (size < first) (.segmentCommandTooSmall size)
  seek (← sum command (sectionCountOffset width))
  let count := (← u32).toNat
  let extent ← product count stride
  refuseIf (size < (← sum first extent)) (.sectionsOverrunCommand count size)
  let headers ← sum command first
  checkRange .sectionHeaders headers extent
  (List.range count).mapM fun index => do
    seek (← entryOffset headers index stride)
    readSectionName

/-- The fields of a symbol table command, whose kind and size have been read. -/
def readSymbolTable : Scan SymbolTable := do
  let symbols ← u32
  let count ← u32
  let strings ← u32
  let stringsSize ← u32
  return { symbols, count, strings, stringsSize }

/-- The contents told by one more load command, whose kind and size have been read. -/
def readCommand (width : Width) (kind : UInt32) (offset size : Nat) (found : Contents) :
    Scan Contents := do
  if kind = segmentCommand width then
    let names ← readSegment width offset size
    return { found with sections := found.sections ++ names }
  else if kind = symbolTableCommand then
    return { found with symbolTable := some (← readSymbolTable) }
  else
    return found

/-- The contents told by `count` load commands from `offset` on, added to those
already found.  The commands have to end at `commandsEnd`. -/
def readCommands (width : Width) (commandsEnd : Nat) :
    (count : Nat) → (offset : Nat) → Contents → Scan Contents
  | 0, _, found => return found
  | count + 1, offset, found => do
      refuseIf (commandsEnd < (← sum offset 8)) .loadCommandsOverrun
      seek offset
      let kind ← u32
      let size := (← u32).toNat
      let next ← sum offset size
      refuseIf (size < 8 ∨ commandsEnd < next) (.loadCommandSize kind.toNat size)
      readCommands width commandsEnd count next (← readCommand width kind offset size found)

def parse (width : Width) : Scan Image := do
  let found ← readMagic
  setOrder (orderOf found)
  let _processor ← u32
  let _subtype ← u32
  let _fileType ← u32
  let commandCount ← u32
  let commandsSize := (← u32).toNat
  let _flags ← u32
  let start := headerSize width
  checkRange .loadCommands start commandsSize
  let commandsEnd ← sum start commandsSize
  let contents ← readCommands width commandsEnd commandCount.toNat start {}
  return { width, commandCount, contents }

end MachO

end SharedObject
