import SharedObject.MachO.Symbol
import SharedObject.Proofs.Scan.Regular
import SharedObject.Proofs.Scan.Restart

/-!
# Mach-O scans are regular

The headers of a Mach-O file and every listing are read by regular scans.  Reading
the magic number starts afresh, and it tells the byte order of everything else.
-/

namespace SharedObject

namespace MachO

open Scan

theorem regular_readMagic : Regular readMagic := by
  refine (Regular.setOrder _).bind fun _ => ?_
  exact (Regular.seek _).bind fun _ => .u32

theorem restarts_readMagic : Restarts readMagic :=
  .reset .little 0 _

theorem regular_hasIdentity (width : Width) : Regular (hasIdentity width) :=
  regular_readMagic.bind fun _ => .pure _

theorem restarts_hasIdentity (width : Width) : Restarts (hasIdentity width) :=
  restarts_readMagic.bind _

theorem regular_readSectionName : Regular readSectionName := by
  refine (Regular.take _).bind fun _ => ?_
  refine (Regular.take _).bind fun _ => ?_
  refine (Regular.paddedName _).bind fun _ => ?_
  exact (Regular.paddedName _).bind fun _ => .pure _

theorem regular_readSegment (width : Width) (command size : Nat) :
    Regular (readSegment width command size) := by
  refine (Regular.refuseIf _ _).bind fun _ => ?_
  refine (Regular.sum _ _).bind fun _ => ?_
  refine (Regular.seek _).bind fun _ => ?_
  refine Regular.u32.bind fun _ => ?_
  refine (Regular.product _ _).bind fun _ => ?_
  refine (Regular.sum _ _).bind fun _ => ?_
  refine (Regular.refuseIf _ _).bind fun _ => ?_
  refine (Regular.sum _ _).bind fun _ => ?_
  refine (Regular.checkRange _ _ _).bind fun _ => ?_
  refine Regular.mapM (fun index => ?_) _
  refine (Regular.entryOffset _ _ _).bind fun _ => ?_
  exact (Regular.seek _).bind fun _ => regular_readSectionName

theorem regular_readSymbolTable : Regular readSymbolTable := by
  refine Regular.u32.bind fun _ => ?_
  refine Regular.u32.bind fun _ => ?_
  refine Regular.u32.bind fun _ => ?_
  exact Regular.u32.bind fun _ => .pure _

theorem regular_readCommand (width : Width) (kind : UInt32) (offset size : Nat)
    (found : Contents) : Regular (readCommand width kind offset size found) := by
  unfold readCommand
  split
  · exact (regular_readSegment _ _ _).bind fun _ => .pure _
  · split
    · exact regular_readSymbolTable.bind fun _ => .pure _
    · exact .pure _

theorem regular_readCommands (width : Width) (commandsEnd count offset : Nat)
    (found : Contents) : Regular (readCommands width commandsEnd count offset found) := by
  induction count generalizing offset found with
  | zero => exact .pure _
  | succ count ih =>
      refine (Regular.sum _ _).bind fun _ => ?_
      refine (Regular.refuseIf _ _).bind fun _ => ?_
      refine (Regular.seek _).bind fun _ => ?_
      refine Regular.u32.bind fun _ => ?_
      refine Regular.u32.bind fun _ => ?_
      refine (Regular.sum _ _).bind fun _ => ?_
      refine (Regular.refuseIf _ _).bind fun _ => ?_
      exact (regular_readCommand _ _ _ _ _).bind fun _ => ih _ _

theorem regular_parse (width : Width) : Regular (parse width) := by
  refine regular_readMagic.bind fun found => ?_
  refine (Regular.setOrder _).bind fun _ => ?_
  refine Regular.u32.bind fun _ => ?_
  refine Regular.u32.bind fun _ => ?_
  refine Regular.u32.bind fun _ => ?_
  refine Regular.u32.bind fun _ => ?_
  refine Regular.u32.bind fun _ => ?_
  refine Regular.u32.bind fun _ => ?_
  refine (Regular.checkRange _ _ _).bind fun _ => ?_
  refine (Regular.sum _ _).bind fun _ => ?_
  exact (regular_readCommands _ _ _ _ _).bind fun _ => .pure _

theorem restarts_parse (width : Width) : Restarts (parse width) :=
  restarts_readMagic.bind _

theorem regular_readSymbol : Regular readSymbol := by
  refine Regular.u32.bind fun _ => ?_
  refine Regular.u8.bind fun _ => ?_
  exact Regular.u8.bind fun _ => .pure _

namespace Image

variable (image : Image)

theorem regular_symbolName (strings stringsEnd : Nat) (symbol : Symbol) :
    Regular (symbolName strings stringsEnd symbol) := by
  refine (Regular.sum _ _).bind fun _ => ?_
  exact (Regular.nameAt _ _).bind fun _ => .pure _

theorem regular_listedName (width : Width) (table : SymbolTable) (stringsEnd : Nat)
    (keep : Symbol → Bool) (index : Nat) :
    Regular (listedName width table stringsEnd keep index) := by
  refine (Regular.entryOffset _ _ _).bind fun _ => ?_
  refine (Regular.seek _).bind fun _ => ?_
  refine regular_readSymbol.bind fun symbol => ?_
  split
  · exact (regular_symbolName _ _ _).bind fun _ => .pure _
  · exact .pure _

theorem regular_exportedNames (keep : Symbol → Bool) : Regular (image.exportedNames keep) := by
  unfold exportedNames
  split
  · exact .pure _
  · refine (Regular.product _ _).bind fun _ => ?_
    refine (Regular.checkRange _ _ _).bind fun _ => ?_
    refine (Regular.checkRange _ _ _).bind fun _ => ?_
    refine (Regular.sum _ _).bind fun _ => ?_
    exact (Regular.filterMapM (regular_listedName _ _ _ _) _).bind fun _ => .pure _

theorem regular_sectionSymbols (name : String) : Regular (image.sectionSymbols name) := by
  unfold sectionSymbols
  split
  · exact .pure _
  · exact (Regular.sum _ _).bind fun _ => image.regular_exportedNames _

end Image

end MachO

end SharedObject
