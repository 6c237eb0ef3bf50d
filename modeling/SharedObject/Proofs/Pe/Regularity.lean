import SharedObject.Pe.Export
import SharedObject.Proofs.Scan.Regular
import SharedObject.Proofs.Scan.Restart

/-!
# PE scans are regular

The headers of a PE file and every listing are read by regular scans.  Finding the
headers starts afresh, in little-endian order.
-/

namespace SharedObject

namespace Pe

open Scan

theorem regular_optionalHeaderOffset (headers : Nat) : Regular (optionalHeaderOffset headers) :=
  (Regular.sum _ _).bind fun _ => .sum _ _

theorem regular_locateOptionalHeader : Regular locateOptionalHeader := by
  refine (Regular.setOrder _).bind fun _ => ?_
  refine (Regular.seek _).bind fun _ => ?_
  refine (Regular.take _).bind fun _ => ?_
  refine (Regular.refuseIf _ _).bind fun _ => ?_
  refine (Regular.seek _).bind fun _ => ?_
  refine Regular.u32.bind fun _ => ?_
  refine (Regular.seek _).bind fun _ => ?_
  refine (Regular.take _).bind fun _ => ?_
  refine (Regular.refuseIf _ _).bind fun _ => ?_
  refine (regular_optionalHeaderOffset _).bind fun _ => ?_
  refine (Regular.seek _).bind fun _ => ?_
  exact Regular.u16.bind fun _ => .pure _

theorem restarts_locateOptionalHeader : Restarts locateOptionalHeader :=
  .reset .little 0 _

theorem regular_hasIdentity (width : Width) : Regular (hasIdentity width) :=
  regular_locateOptionalHeader.bind fun _ => .pure _

theorem restarts_hasIdentity (width : Width) : Restarts (hasIdentity width) :=
  restarts_locateOptionalHeader.bind _

theorem regular_sectionName (field : List UInt8) (stringTable : Nat) :
    Regular (sectionName field stringTable) := by
  refine (Regular.paddedName field).bind fun short => ?_
  split
  · split
    · exact .pure _
    · exact .nameToEnd _
  · exact .pure _

theorem regular_readSection (stringTable offset : Nat) :
    Regular (readSection stringTable offset) := by
  refine (Regular.seek _).bind fun _ => ?_
  refine (Regular.take _).bind fun _ => ?_
  refine Regular.u32.bind fun _ => ?_
  refine Regular.u32.bind fun _ => ?_
  refine Regular.u32.bind fun _ => ?_
  refine Regular.u32.bind fun _ => ?_
  exact (regular_sectionName _ _).bind fun _ => .pure _

theorem regular_readExportDirectory (width : Width) (optional optionalSize : Nat) :
    Regular (readExportDirectory width optional optionalSize) := by
  refine (Regular.sum _ _).bind fun _ => ?_
  refine (Regular.seek _).bind fun _ => ?_
  refine Regular.u32.bind fun _ => ?_
  split
  · refine (Regular.sum _ _).bind fun _ => ?_
    exact (Regular.seek _).bind fun _ => .u32
  · exact .pure _

theorem regular_stringTableOffset (symbolTable symbolCount : Nat) :
    Regular (stringTableOffset symbolTable symbolCount) := by
  unfold stringTableOffset
  split
  · exact .pure _
  · exact .entryOffset _ _ _

theorem regular_parse (width : Width) : Regular (parse width) := by
  refine regular_locateOptionalHeader.bind fun located => ?_
  obtain ⟨optional, _⟩ := located
  refine (Regular.difference _ _).bind fun _ => ?_
  refine (Regular.sum _ _).bind fun _ => ?_
  refine (Regular.seek _).bind fun _ => ?_
  refine Regular.u16.bind fun _ => ?_
  refine Regular.u32.bind fun _ => ?_
  refine Regular.u32.bind fun _ => ?_
  refine Regular.u32.bind fun _ => ?_
  refine Regular.u16.bind fun _ => ?_
  refine (Regular.refuseIf _ _).bind fun _ => ?_
  refine (Regular.checkRange _ _ _).bind fun _ => ?_
  refine (regular_readExportDirectory _ _ _).bind fun _ => ?_
  refine (regular_stringTableOffset _ _).bind fun _ => ?_
  refine (Regular.sum _ _).bind fun _ => ?_
  refine (Regular.product _ _).bind fun _ => ?_
  refine (Regular.checkRange _ _ _).bind fun _ => ?_
  refine (Regular.mapM (fun index => ?_) _).bind fun _ => .pure _
  exact (Regular.entryOffset _ _ _).bind fun _ => regular_readSection _ _

theorem restarts_parse (width : Width) : Restarts (parse width) :=
  restarts_locateOptionalHeader.bind _

theorem regular_contains (part : Section) (address : UInt32) : Regular (part.contains address) :=
  (Regular.sum _ _).bind fun _ => .pure _

namespace Image

variable (image : Image)

theorem regular_fileOffset (address : UInt32) : Regular (image.fileOffset address) := by
  refine (Regular.findM? (fun part => regular_contains part address) _).bind fun found => ?_
  cases found with
  | none => exact .malformed _
  | some part => exact (Regular.difference _ _).bind fun _ => .sum _ _

theorem regular_readExportDirectory : Regular image.readExportDirectory := by
  refine (image.regular_fileOffset _).bind fun _ => ?_
  refine (Regular.checkRange _ _ _).bind fun _ => ?_
  refine (Regular.sum _ _).bind fun _ => ?_
  refine (Regular.seek _).bind fun _ => ?_
  refine Regular.u32.bind fun _ => ?_
  refine Regular.u32.bind fun _ => ?_
  refine Regular.u32.bind fun _ => ?_
  refine Regular.u32.bind fun _ => ?_
  exact Regular.u32.bind fun _ => .pure _

theorem regular_functionAddress (functionCount functionsAt ordinalsAt index : Nat) :
    Regular (functionAddress functionCount functionsAt ordinalsAt index) := by
  refine (Regular.entryOffset _ _ _).bind fun _ => ?_
  refine (Regular.seek _).bind fun _ => ?_
  refine Regular.u16.bind fun _ => ?_
  refine (Regular.refuseIf _ _).bind fun _ => ?_
  refine (Regular.entryOffset _ _ _).bind fun _ => ?_
  exact (Regular.seek _).bind fun _ => .u32

theorem regular_exportName (namesAt index : Nat) : Regular (image.exportName namesAt index) := by
  refine (Regular.entryOffset _ _ _).bind fun _ => ?_
  refine (Regular.seek _).bind fun _ => ?_
  refine Regular.u32.bind fun _ => ?_
  exact (image.regular_fileOffset _).bind fun _ => .nameToEnd _

theorem regular_exportedNames (part : Option Section) : Regular (image.exportedNames part) := by
  unfold exportedNames
  split
  · exact .pure _
  refine image.regular_readExportDirectory.bind fun directory => ?_
  dsimp only
  split
  · exact .pure _
  refine (image.regular_fileOffset _).bind fun namesAt => ?_
  refine (image.regular_fileOffset _).bind fun ordinalsAt => ?_
  refine (Regular.product _ _).bind fun _ => ?_
  refine (Regular.checkRange _ _ _).bind fun _ => ?_
  refine (Regular.product _ _).bind fun _ => ?_
  refine (Regular.checkRange _ _ _).bind fun _ => ?_
  cases part with
  | none => exact (Regular.mapM (image.regular_exportName namesAt) _).bind fun _ => .pure _
  | some part =>
      refine (image.regular_fileOffset _).bind fun functionsAt => ?_
      refine (Regular.product _ _).bind fun _ => ?_
      refine (Regular.checkRange _ _ _).bind fun _ => ?_
      refine (Regular.filterMapM (fun index => ?_) _).bind fun _ => .pure _
      refine (regular_functionAddress _ _ _ _).bind fun address => ?_
      refine (regular_contains part address).bind fun inside => ?_
      split
      · exact (image.regular_exportName _ _).bind fun _ => .pure _
      · exact .pure _

theorem regular_sectionSymbols (name : String) : Regular (image.sectionSymbols name) := by
  unfold sectionSymbols
  split
  · exact .pure _
  · exact image.regular_exportedNames _

end Image

end Pe

end SharedObject
