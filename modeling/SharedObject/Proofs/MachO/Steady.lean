import SharedObject.MachO.Symbol
import SharedObject.Proofs.Scan.Steady

/-!
# Mach-O listings are steady

The symbol listings of a Mach-O file go to each entry and name that they read.
-/

namespace SharedObject

namespace MachO

open Scan

theorem keepsOrder_readSymbol : KeepsOrder readSymbol := by
  apply KeepsOrder.u32.bind; intro name
  apply KeepsOrder.u8.bind; intro kind
  exact KeepsOrder.u8.bind fun _ => .pure _

namespace Image

theorem steady_symbolName (strings stringsEnd : Nat) (symbol : Symbol) :
    Steady (symbolName strings stringsEnd symbol) :=
  (Steady.sum _ _).bind fun offset => (Steady.nameAt offset stringsEnd).bind fun _ => .pure _

theorem steady_listedName (width : Width) (table : SymbolTable) (stringsEnd : Nat)
    (keep : Symbol → Bool) (index : Nat) :
    Steady (listedName width table stringsEnd keep index) := by
  have entry : Steady (entryOffset table.symbols.toNat index (symbolSize width) >>= fun offset =>
      seek offset >>= fun _ => readSymbol) :=
    .entry _ _ _ keepsOrder_readSymbol
  have name (symbol : Symbol) : Steady (do
      if symbol.isExported && keep symbol then
        return some (← symbolName table.strings.toNat stringsEnd symbol)
      else
        return none) := by
    split
    · exact (steady_symbolName _ _ symbol).bind fun _ => .pure _
    · exact .pure none
  simpa only [listedName, bind_assoc] using entry.bind name

variable (image : Image)

theorem steady_exportedNames (keep : Symbol → Bool) : Steady (image.exportedNames keep) := by
  unfold exportedNames
  cases image.contents.symbolTable with
  | none => exact .pure []
  | some table =>
      apply (Steady.product _ _).bind
      intro extent
      apply (Steady.checkRange _ _ _).bind
      intro _
      apply (Steady.checkRange _ _ _).bind
      intro _
      apply (Steady.sum _ _).bind
      intro stringsEnd
      exact (Steady.filterMapM (steady_listedName _ table stringsEnd keep) _).bind fun _ => .pure _

theorem steady_sectionSymbols (name : String) : Steady (image.sectionSymbols name) := by
  unfold sectionSymbols
  split
  · exact .pure []
  · exact (Steady.sum _ _).bind fun number => image.steady_exportedNames _

end Image

end MachO

end SharedObject
