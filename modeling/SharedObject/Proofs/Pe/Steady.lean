import SharedObject.Pe.Export
import SharedObject.Proofs.Scan.Steady

/-!
# PE listings are steady

The export listings of a PE file go to each table and name that they read.
-/

namespace SharedObject

namespace Pe

open Scan

theorem steady_contains (part : Section) (address : UInt32) : Steady (part.contains address) :=
  (Steady.sum _ _).bind fun _ => .pure _

namespace Image

variable (image : Image)

theorem steady_fileOffset (address : UInt32) : Steady (image.fileOffset address) := by
  apply (Steady.findM? (fun part => steady_contains part address) _).bind
  intro found
  cases found with
  | none => exact .malformed _
  | some part => exact (Steady.difference _ _).bind fun _ => .sum _ _

theorem steady_readExportDirectory : Steady image.readExportDirectory := by
  have fields : KeepsOrder (do
      let functionCount ← u32
      let nameCount ← u32
      let functions ← u32
      let names ← u32
      let ordinals ← u32
      return ({ functionCount, nameCount, functions, names, ordinals } : ExportDirectory)) := by
    apply KeepsOrder.u32.bind; intro functionCount
    apply KeepsOrder.u32.bind; intro nameCount
    apply KeepsOrder.u32.bind; intro functions
    apply KeepsOrder.u32.bind; intro names
    exact KeepsOrder.u32.bind fun _ => .pure _
  apply (image.steady_fileOffset _).bind
  intro directory
  apply (Steady.checkRange _ _ _).bind
  intro _
  exact (Steady.sum _ _).bind fun offset => .seek offset fields

theorem steady_functionAddress (functionCount functionsAt ordinalsAt index : Nat) :
    Steady (functionAddress functionCount functionsAt ordinalsAt index) := by
  have ordinals : Steady (entryOffset ordinalsAt index 2 >>= fun offset =>
      seek offset >>= fun _ => u16) :=
    .entry _ _ _ .u16
  have functions (ordinal : UInt16) : Steady (do
      refuseIf (functionCount ≤ ordinal.toNat) (.exportOrdinal ordinal.toNat)
      seek (← entryOffset functionsAt ordinal.toNat 4)
      u32) :=
    (Steady.refuseIf _ _).bind fun _ => .entry _ _ _ .u32
  simpa only [functionAddress, bind_assoc] using ordinals.bind functions

theorem steady_exportName (namesAt index : Nat) : Steady (image.exportName namesAt index) := by
  have addresses : Steady (entryOffset namesAt index 4 >>= fun offset =>
      seek offset >>= fun _ => u32) :=
    .entry _ _ _ .u32
  have names (address : UInt32) : Steady (image.fileOffset address >>= nameToEnd) :=
    (image.steady_fileOffset address).bind .nameToEnd
  simpa only [exportName, bind_assoc] using addresses.bind names

theorem steady_exportedNames (part : Option Section) : Steady (image.exportedNames part) := by
  unfold exportedNames
  split
  · exact .pure _
  apply image.steady_readExportDirectory.bind
  intro directory
  dsimp only
  split
  · exact .pure _
  apply (image.steady_fileOffset _).bind
  intro namesAt
  apply (image.steady_fileOffset _).bind
  intro ordinalsAt
  apply (Steady.product _ _).bind
  intro namesExtent
  apply (Steady.checkRange _ _ _).bind
  intro _
  apply (Steady.product _ _).bind
  intro ordinalsExtent
  apply (Steady.checkRange _ _ _).bind
  intro _
  cases part with
  | none => exact (Steady.mapM (image.steady_exportName namesAt) _).bind fun _ => .pure _
  | some part =>
      apply (image.steady_fileOffset _).bind
      intro functionsAt
      apply (Steady.product _ _).bind
      intro functionsExtent
      apply (Steady.checkRange _ _ _).bind
      intro _
      apply (Steady.filterMapM (fun index => ?_) _).bind fun _ => .pure _
      apply (steady_functionAddress _ _ _ index).bind
      intro address
      apply (steady_contains part address).bind
      intro inside
      cases inside with
      | false => exact .pure none
      | true => exact (image.steady_exportName namesAt index).bind fun _ => .pure _

theorem steady_sectionSymbols (name : String) : Steady (image.sectionSymbols name) := by
  unfold sectionSymbols
  split
  · exact .pure []
  · exact image.steady_exportedNames _

end Image

end Pe

end SharedObject
