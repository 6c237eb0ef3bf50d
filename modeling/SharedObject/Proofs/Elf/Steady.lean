import SharedObject.Elf.Symbol
import SharedObject.Proofs.Scan.Steady

/-!
# ELF listings are steady

Every listing of an ELF file goes to the headers, symbols and names it reads, in the
byte order that opening the file has chosen.
-/

namespace SharedObject

namespace Elf

open Scan

theorem keepsOrder_readSymbol (width : Width) : KeepsOrder (readSymbol width) := by
  cases width with
  | bits32 =>
      apply KeepsOrder.u32.bind; intro name
      apply KeepsOrder.u32.bind; intro value
      apply KeepsOrder.u32.bind; intro size
      apply KeepsOrder.u8.bind; intro info
      apply KeepsOrder.u8.bind; intro other
      exact KeepsOrder.u16.bind fun _ => .pure _
  | bits64 =>
      apply KeepsOrder.u32.bind; intro name
      apply KeepsOrder.u8.bind; intro info
      apply KeepsOrder.u8.bind; intro other
      exact KeepsOrder.u16.bind fun _ => .pure _

theorem steady_nameIn (strings : SectionHeader) (index : UInt32) :
    Steady (nameIn strings index) :=
  .nameAt _ _

namespace Image

variable (image : Image)

theorem steady_sectionName (header : SectionHeader) : Steady (image.sectionName header) := by
  unfold sectionName
  by_cases unnamed : image.nameTable = 0
  · simpa only [if_pos unnamed] using Steady.pure ""
  · simp only [if_neg unnamed]
    exact (Steady.item _ _).bind fun names => steady_nameIn names header.name

theorem steady_sections : Steady image.sections :=
  .mapM image.steady_sectionName _

theorem steady_indexOfSection (name : String) (index : Nat) (headers : List SectionHeader) :
    Steady (image.indexOfSection name index headers) := by
  induction headers generalizing index with
  | nil => exact .pure none
  | cons header headers ih =>
      apply (image.steady_sectionName header).bind
      intro found
      by_cases same : found = name
      · simpa only [if_pos same] using Steady.pure (some index)
      · simpa only [if_neg same] using ih (index + 1)

theorem steady_entrySize (table : SectionHeader) : Steady (image.entrySize table) := by
  unfold entrySize
  dsimp only
  split
  · exact .pure _
  · split
    · exact .malformed _
    · exact .pure _

theorem steady_readSymbols (table : SectionHeader) : Steady (image.readSymbols table) := by
  apply (image.steady_entrySize table).bind
  intro stride
  apply (Steady.checkRange _ _ _).bind
  intro _
  apply (Steady.divide _ _).bind
  intro quotient
  apply (Steady.refuseIf _ _).bind
  intro _
  apply Steady.mapM
  intro index
  exact .entry _ _ _ (keepsOrder_readSymbol image.width)

theorem steady_namesOfTable (keep : Symbol → Bool) (table : SectionHeader) :
    Steady (image.namesOfTable keep table) := by
  unfold namesOfTable
  split
  · exact .malformed _
  · rename_i strings _
    apply (Steady.checkRange _ _ _).bind
    intro _
    apply (image.steady_readSymbols table).bind
    intro symbols
    exact (Steady.mapM (fun _ => steady_nameIn strings _) _).bind fun _ => .pure _

theorem steady_exportedNames (keep : Symbol → Bool) : Steady (image.exportedNames keep) :=
  (Steady.mapM (image.steady_namesOfTable keep) _).bind fun _ => .pure _

theorem steady_sectionSymbols (name : String) : Steady (image.sectionSymbols name) := by
  apply (image.steady_indexOfSection name 0 _).bind
  intro found
  cases found with
  | none => exact .pure []
  | some index => exact image.steady_exportedNames _

end Image

end Elf

end SharedObject
