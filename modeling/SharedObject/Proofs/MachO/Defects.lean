import SharedObject.MachO.Symbol
import SharedObject.Proofs.Scan.Ensures

/-!
# Mach-O scans have no defects

Load commands are checked to lie in the file before they are read, and a segment
command to have room for the sections it counts.  There are therefore no more
sections than bytes in the file.
-/

namespace SharedObject

namespace MachO

open Scan

variable {source : Source}

theorem ensures_readMagic : Ensures source readMagic fun _ => True := by
  refine (ensures_setOrder _).bind fun _ _ => ?_
  exact (ensures_seek _).bind fun _ _ => ensures_u32

theorem ensures_hasIdentity (width : Width) :
    Ensures source (hasIdentity width) fun _ => True :=
  ensures_readMagic.bind fun _ _ => .pure .intro

theorem ensures_isCutOff : Ensures source isCutOff fun _ => True :=
  (ensures_leading 4).bind fun _ _ => .pure .intro

theorem ensures_readSectionName : Ensures source readSectionName fun _ => True := by
  refine (ensures_take _).bind fun _ _ => ?_
  refine (ensures_take _).bind fun _ _ => ?_
  refine (ensures_paddedName _).bind fun _ _ => ?_
  exact (ensures_paddedName _).bind fun _ _ => .pure .intro

theorem sectionHeaderSize_bounds (width : Width) :
    0 < sectionHeaderSize width ∧ sectionHeaderSize width ≤ 80 := by
  cases width <;> decide

/-- A segment command has at least as many bytes as sections. -/
theorem ensures_readSegment (width : Width) {command size : Nat}
    (commandSmall : command < 2 ^ 63) (sizeSmall : size < 2 ^ 32) :
    Ensures source (readSegment width command size) fun names => names.length ≤ size := by
  have firstSmall : firstSectionOffset width ≤ 72 ∧ sectionCountOffset width ≤ 64 := by
    cases width <;> decide
  obtain ⟨stridePos, strideSmall⟩ := sectionHeaderSize_bounds width
  refine (ensures_refuseIf _ _).bind fun _ _ => ?_
  refine (ensures_sum (by omega)).bind fun _ _ => ?_
  refine (ensures_seek _).bind fun _ _ => ?_
  refine ensures_u32.bind fun count _ => ?_
  have countLt := count.toNat_lt
  have extentSmall : count.toNat * sectionHeaderSize width < 2 ^ 32 * 80 := by
    exact Nat.mul_lt_mul_of_lt_of_le countLt strideSmall (by omega)
  refine (ensures_product (by omega)).bind fun extent same => ?_
  subst same
  refine (ensures_sum (by omega)).bind fun needed same => ?_
  subst same
  refine (ensures_refuseIf _ _).bind fun _ room => ?_
  refine (ensures_sum (by omega)).bind fun headers same => ?_
  subst same
  refine (ensures_checkRange _ _ _).bind fun _ _ => ?_
  refine (Ensures.mapM_length fun index member => ?_).mono fun names length => ?_
  · refine (ensures_entryOffset (List.mem_range.mp member) (by omega)).bind fun _ _ => ?_
    exact (ensures_seek _).bind fun _ _ => ensures_readSectionName
  · have counted := Nat.le_mul_of_pos_right count.toNat stridePos
    rw [length, List.length_range]
    omega

theorem ensures_readSymbolTable : Ensures source readSymbolTable fun _ => True := by
  refine ensures_u32.bind fun _ _ => ?_
  refine ensures_u32.bind fun _ _ => ?_
  refine ensures_u32.bind fun _ _ => ?_
  exact ensures_u32.bind fun _ _ => .pure .intro

theorem ensures_readCommand (width : Width) (kind : UInt32) {offset size : Nat}
    (offsetSmall : offset < 2 ^ 63) (sizeSmall : size < 2 ^ 32) (found : Contents) :
    Ensures source (readCommand width kind offset size found) fun extended =>
      extended.sections.length ≤ found.sections.length + size := by
  unfold readCommand
  split
  · refine (ensures_readSegment width offsetSmall sizeSmall).bind fun names counted => .pure ?_
    rw [List.length_append]
    omega
  · split
    · exact ensures_readSymbolTable.bind fun _ _ => .pure (Nat.le_add_right _ _)
    · exact .pure (Nat.le_add_right _ _)

/-- The commands before an offset have no more sections than bytes. -/
theorem ensures_readCommands (width : Width) {commandsEnd : Nat} (count : Nat)
    {offset : Nat} {found : Contents} (endSmall : commandsEnd < 2 ^ 63)
    (offsetLe : offset ≤ commandsEnd) (counted : found.sections.length ≤ offset) :
    Ensures source (readCommands width commandsEnd count offset found) fun contents =>
      contents.sections.length ≤ commandsEnd := by
  induction count generalizing offset found with
  | zero => exact .pure (Nat.le_trans counted offsetLe)
  | succ count ih =>
      refine (ensures_sum (by omega)).bind fun _ _ => ?_
      refine (ensures_refuseIf _ _).bind fun _ _ => ?_
      refine (ensures_seek _).bind fun _ _ => ?_
      refine ensures_u32.bind fun kind _ => ?_
      refine ensures_u32.bind fun size _ => ?_
      have sizeLt := size.toNat_lt
      refine (ensures_sum (by omega)).bind fun next same => ?_
      subst same
      refine (ensures_refuseIf _ _).bind fun _ inside => ?_
      refine (ensures_readCommand width kind (by omega) sizeLt found).bind fun extended more => ?_
      exact ih (by omega) (by omega)

/-- An image has at most as many sections as the file has bytes. -/
def Image.Within (image : Image) (size : Nat) : Prop :=
  image.contents.sections.length ≤ size

theorem ensures_parse (width : Width) (bounded : source.size < 2 ^ 63) :
    Ensures source (parse width) fun image => image.Within source.size := by
  refine ensures_readMagic.bind fun found _ => ?_
  refine (ensures_setOrder _).bind fun _ _ => ?_
  refine ensures_u32.bind fun _ _ => ?_
  refine ensures_u32.bind fun _ _ => ?_
  refine ensures_u32.bind fun _ _ => ?_
  refine ensures_u32.bind fun commandCount _ => ?_
  refine ensures_u32.bind fun commandsSize _ => ?_
  refine ensures_u32.bind fun _ _ => ?_
  refine (ensures_checkRange _ _ _).bind fun _ inside => ?_
  refine (ensures_sum (by omega)).bind fun commandsEnd same => ?_
  subst same
  refine (ensures_readCommands width _ (by omega) (Nat.le_add_right _ _) (Nat.zero_le _)).bind
    fun contents counted => .pure ?_
  exact Nat.le_trans counted inside

theorem ensures_readSymbol : Ensures source readSymbol fun _ => True := by
  refine ensures_u32.bind fun _ _ => ?_
  refine ensures_u8.bind fun _ _ => ?_
  exact ensures_u8.bind fun _ _ => .pure .intro

theorem symbolSize_le (width : Width) : symbolSize width ≤ 16 := by
  cases width <;> decide

namespace Image

theorem ensures_symbolName (strings : UInt32) (stringsEnd : Nat) (symbol : Symbol) :
    Ensures source (symbolName strings.toNat stringsEnd symbol) fun _ => True := by
  have stringsLt := strings.toNat_lt
  have nameLt := symbol.name.toNat_lt
  refine (ensures_sum (by omega)).bind fun _ _ => ?_
  · exact (ensures_nameAt _ _).bind fun _ _ => .pure .intro

theorem ensures_listedName (width : Width) (table : SymbolTable) (stringsEnd : Nat)
    (keep : Symbol → Bool) {index : Nat} (indexLt : index < table.count.toNat) :
    Ensures source (listedName width table stringsEnd keep index) fun _ => True := by
  have symbolsLt := table.symbols.toNat_lt
  have extentSmall : table.count.toNat * symbolSize width < 2 ^ 32 * 16 :=
    Nat.mul_lt_mul_of_lt_of_le table.count.toNat_lt (symbolSize_le width) (by omega)
  refine (ensures_entryOffset indexLt (by omega)).bind fun _ _ => ?_
  refine (ensures_seek _).bind fun _ _ => ?_
  refine ensures_readSymbol.bind fun symbol _ => ?_
  split
  · exact (ensures_symbolName _ _ symbol).bind fun _ _ => .pure .intro
  · exact .pure .intro

theorem ensures_exportedNames (image : Image) (keep : Symbol → Bool) :
    Ensures source (image.exportedNames keep) fun _ => True := by
  unfold exportedNames
  split
  · exact .pure .intro
  · rename_i table _
    have extentSmall : table.count.toNat * symbolSize image.width < 2 ^ 32 * 16 :=
      Nat.mul_lt_mul_of_lt_of_le table.count.toNat_lt (symbolSize_le image.width) (by omega)
    have stringsLt := table.strings.toNat_lt
    have stringsSizeLt := table.stringsSize.toNat_lt
    refine (ensures_product (by omega)).bind fun _ _ => ?_
    refine (ensures_checkRange _ _ _).bind fun _ _ => ?_
    refine (ensures_checkRange _ _ _).bind fun _ _ => ?_
    refine (ensures_sum (by omega)).bind fun stringsEnd _ => ?_
    refine (Ensures.filterMapM fun index member => ?_).bind fun _ _ => .pure .intro
    exact ensures_listedName image.width table stringsEnd keep (List.mem_range.mp member)

theorem ensures_sectionSymbols {image : Image} (within : image.Within source.size)
    (bounded : source.size < 2 ^ 63) (name : String) :
    Ensures source (image.sectionSymbols name) fun _ => True := by
  unfold sectionSymbols
  split
  · exact .pure .intro
  · rename_i index found
    obtain ⟨indexLt, _⟩ := List.idxOf?_eq_some_iff.mp found
    rw [Within] at within
    exact (ensures_sum (by omega)).bind fun number _ => ensures_exportedNames image _

end Image

end MachO

end SharedObject
