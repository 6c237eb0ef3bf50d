import SharedObject.MachO.Header

/-!
# Symbols of a Mach-O file

A symbol is listed when it is external, no debugging entry, and defined in a
section.  The names of C symbols start with an underscore that is not part of the
name in the source text and is left out.
-/

namespace SharedObject

namespace MachO

open Scan

def symbolSize : Width → Nat
  | .bits32 => 12
  | .bits64 => 16

/-- The fields of a symbol table entry that the listings need. -/
structure Symbol where
  name : UInt32
  kind : UInt8
  sectionNumber : UInt8
  deriving DecidableEq, Repr

namespace Symbol

def isDebugging (symbol : Symbol) : Bool :=
  symbol.kind &&& 0xE0 != 0

/-- A symbol that other files may refer to. -/
def isExternal (symbol : Symbol) : Bool :=
  symbol.kind &&& 0x01 != 0

/-- A defined symbol that other files may refer to. -/
def isExported (symbol : Symbol) : Bool :=
  !symbol.isDebugging && symbol.isExternal && symbol.sectionNumber != 0

end Symbol

/-- A name without the one underscore it may start with. -/
def withoutUnderscore (name : String) : String :=
  match name.toList with
  | '_' :: rest => String.ofList rest
  | _ => name

def readSymbol : Scan Symbol := do
  let name ← u32
  let kind ← u8
  let sectionNumber ← u8
  return { name, kind, sectionNumber }

namespace Image

def symbolName (strings stringsEnd : Nat) (symbol : Symbol) : Scan String := do
  return withoutUnderscore (← nameAt (← sum strings symbol.name.toNat) stringsEnd)

/-- The name of the entry number `index` of a table if the entry is exported and
`keep` selects it. -/
def listedName (width : Width) (table : SymbolTable) (stringsEnd : Nat)
    (keep : Symbol → Bool) (index : Nat) : Scan (Option String) := do
  seek (← entryOffset table.symbols.toNat index (symbolSize width))
  let symbol ← readSymbol
  if symbol.isExported && keep symbol then
    return some (← symbolName table.strings.toNat stringsEnd symbol)
  else
    return none

/-- The names of the exported symbols that `keep` selects, each once. -/
def exportedNames (image : Image) (keep : Symbol → Bool) : Scan (List String) := do
  match image.contents.symbolTable with
  | none => return []
  | some table =>
      let count := table.count.toNat
      checkRange .symbolTable table.symbols.toNat (← product count (symbolSize image.width))
      checkRange .stringTable table.strings.toNat table.stringsSize.toNat
      let stringsEnd ← sum table.strings.toNat table.stringsSize.toNat
      let names ← (List.range count).filterMapM
        (listedName image.width table stringsEnd keep)
      return (names.filter (!·.isEmpty)).eraseDups

def sectionNames (image : Image) : Scan (List String) :=
  return image.contents.sections

def symbols (image : Image) : Scan (List String) :=
  image.exportedNames fun _ => true

def sectionSymbols (image : Image) (name : String) : Scan (List String) :=
  match image.contents.sections.idxOf? name with
  | none => return []
  | some index => do
      let number ← sum index 1
      image.exportedNames (·.sectionNumber.toNat == number)

end Image

end MachO

end SharedObject
