import SharedObject.Pe.Header

/-!
# Exports of a PE file

The export directory leads to three tables: the names, for each name the ordinal
of its function, and for each ordinal the address of the function.  A name
belongs to the section whose span holds the address of its function.
-/

namespace SharedObject

namespace Pe

open Scan

def exportDirectorySize : Nat := 40

structure ExportDirectory where
  functionCount : UInt32
  nameCount : UInt32
  functions : UInt32
  names : UInt32
  ordinals : UInt32
  deriving DecidableEq, Repr

namespace Image

/-- The offset in the file of an address, by the first section that contains it. -/
def fileOffset (image : Image) (address : UInt32) : Scan Nat := do
  match ← image.sections.findM? (·.contains address) with
  | some part => sum (← difference address.toNat part.virtualAddress.toNat) part.rawOffset.toNat
  | none => malformed (.addressOutsideSections address.toNat)

def readExportDirectory (image : Image) : Scan ExportDirectory := do
  let directory ← image.fileOffset image.exportDirectory
  checkRange .exportDirectory directory exportDirectorySize
  seek (← sum directory 20)
  let functionCount ← u32
  let nameCount ← u32
  let functions ← u32
  let names ← u32
  let ordinals ← u32
  return { functionCount, nameCount, functions, names, ordinals }

/-- The address of the function that the name number `index` stands for, through
the ordinal table. -/
def functionAddress (functionCount functionsAt ordinalsAt index : Nat) : Scan UInt32 := do
  seek (← entryOffset ordinalsAt index 2)
  let ordinal := (← u16).toNat
  refuseIf (functionCount ≤ ordinal) (.exportOrdinal ordinal)
  seek (← entryOffset functionsAt ordinal 4)
  u32

def exportName (image : Image) (namesAt index : Nat) : Scan String := do
  seek (← entryOffset namesAt index 4)
  nameToEnd (← image.fileOffset (← u32))

/-- The exported names, each once; of one section if one is given. -/
def exportedNames (image : Image) (part : Option Section) : Scan (List String) := do
  if image.exportDirectory = 0 then
    return []
  let directory ← image.readExportDirectory
  let nameCount := directory.nameCount.toNat
  let functionCount := directory.functionCount.toNat
  if nameCount = 0 then
    return []
  let namesAt ← image.fileOffset directory.names
  let ordinalsAt ← image.fileOffset directory.ordinals
  checkRange .exportNameTable namesAt (← product nameCount 4)
  checkRange .exportOrdinalTable ordinalsAt (← product nameCount 2)
  match part with
  | none =>
      let names ← (List.range nameCount).mapM (image.exportName namesAt)
      return names.eraseDups
  | some part =>
      let functionsAt ← image.fileOffset directory.functions
      checkRange .exportAddressTable functionsAt (← product functionCount 4)
      let names ← (List.range nameCount).filterMapM fun index => do
        let address ← functionAddress functionCount functionsAt ordinalsAt index
        if ← part.contains address then
          return some (← image.exportName namesAt index)
        else
          return none
      return names.eraseDups

def sectionNames (image : Image) : Scan (List String) :=
  return image.sections.map (·.name)

def symbols (image : Image) : Scan (List String) :=
  image.exportedNames none

def sectionSymbols (image : Image) (name : String) : Scan (List String) :=
  match image.sections.find? (·.name == name) with
  | none => return []
  | some part => image.exportedNames (some part)

end Image

end Pe

end SharedObject
