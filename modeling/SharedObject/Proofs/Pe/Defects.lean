import SharedObject.Pe.Export
import SharedObject.Proofs.Scan.Ensures

/-!
# PE scans have no defects

Offsets in PE headers are made of numbers of at most 32 bits, too small to overflow
when they are added and scaled.  An address is only taken relative to a section
that contains it.
-/

namespace SharedObject

namespace Pe

open Scan

variable {source : Source}

theorem ensures_optionalHeaderOffset (headers : UInt32) :
    Ensures source (optionalHeaderOffset headers.toNat) fun optional =>
      coffHeaderSize ≤ optional ∧ optional < 2 ^ 33 := by
  have headersLt := headers.toNat_lt
  refine (ensures_sum (by omega)).bind fun signatureEnd same => ?_
  subst same
  refine (ensures_sum ?_).mono fun optional same => ?_
  · rw [coffHeaderSize]
    omega
  · rw [same, coffHeaderSize]
    omega

/-- The optional header of a file is behind the COFF header and near the offset of
32 bits that the DOS header holds. -/
theorem ensures_locateOptionalHeader :
    Ensures source locateOptionalHeader fun located =>
      coffHeaderSize ≤ located.1 ∧ located.1 < 2 ^ 33 := by
  refine (ensures_setOrder _).bind fun _ _ => ?_
  refine (ensures_seek _).bind fun _ _ => ?_
  refine (ensures_take _).bind fun _ _ => ?_
  refine (ensures_refuseIf _ _).bind fun _ _ => ?_
  refine (ensures_seek _).bind fun _ _ => ?_
  refine ensures_u32.bind fun headers _ => ?_
  refine (ensures_seek _).bind fun _ _ => ?_
  refine (ensures_take _).bind fun _ _ => ?_
  refine (ensures_refuseIf _ _).bind fun _ _ => ?_
  refine (ensures_optionalHeaderOffset headers).bind fun optional known => ?_
  refine (ensures_seek _).bind fun _ _ => ?_
  exact ensures_u16.bind fun magic _ => .pure known

theorem ensures_hasIdentity (width : Width) :
    Ensures source (hasIdentity width) fun _ => True :=
  ensures_locateOptionalHeader.bind fun _ _ => .pure .intro

theorem ensures_isCutOff : Ensures source isCutOff fun _ => True := by
  refine (ensures_leading 2).bind fun start _ => ?_
  split
  · exact .pure .intro
  refine ensures_size.bind fun size _ => ?_
  split
  · exact .pure .intro
  refine (ensures_setOrder _).bind fun _ _ => ?_
  refine (ensures_seek _).bind fun _ _ => ?_
  refine ensures_u32.bind fun headers _ => ?_
  dsimp only
  split
  · exact .pure .intro
  refine (ensures_seek _).bind fun _ _ => ?_
  refine (ensures_difference (by omega)).bind fun _ _ => ?_
  refine (Ensures.mapM_length fun _ _ => ensures_u8).bind fun _ _ => ?_
  refine (ensures_optionalHeaderOffset headers).bind fun firstField known => ?_
  refine (ensures_front (Nat.min_le_right _ _)).bind fun _ _ => ?_
  exact (ensures_sum (by omega)).bind fun _ _ => .pure .intro

theorem ensures_sectionName (field : List UInt8) (stringTable : Nat) :
    Ensures source (sectionName field stringTable) fun _ => True := by
  refine (ensures_paddedName field).bind fun short _ => ?_
  split
  · split
    · exact .pure .intro
    · exact ensures_nameToEnd _
  · exact .pure .intro

theorem ensures_readSection (stringTable offset : Nat) :
    Ensures source (readSection stringTable offset) fun _ => True := by
  refine (ensures_seek _).bind fun _ _ => ?_
  refine (ensures_take _).bind fun _ _ => ?_
  refine ensures_u32.bind fun _ _ => ?_
  refine ensures_u32.bind fun _ _ => ?_
  refine ensures_u32.bind fun _ _ => ?_
  refine ensures_u32.bind fun _ _ => ?_
  exact (ensures_sectionName _ _).bind fun _ _ => .pure .intro

theorem ensures_readExportDirectory (width : Width) {optional : Nat}
    (small : optional < 2 ^ 33) (optionalSize : Nat) :
    Ensures source (Pe.readExportDirectory width optional optionalSize) fun _ => True := by
  have countSmall : optional + directoryCountOffset width < 2 ^ 64 := by
    cases width <;> simp only [directoryCountOffset] <;> omega
  have directoriesSmall : optional + directoriesOffset width < 2 ^ 64 := by
    cases width <;> simp only [directoriesOffset] <;> omega
  refine (ensures_sum countSmall).bind fun _ _ => ?_
  refine (ensures_seek _).bind fun _ _ => ?_
  refine ensures_u32.bind fun _ _ => ?_
  split
  · refine (ensures_sum directoriesSmall).bind fun _ _ => ?_
    exact (ensures_seek _).bind fun _ _ => ensures_u32
  · exact .pure .intro

theorem ensures_stringTableOffset (symbolTable symbolCount : UInt32) :
    Ensures source (stringTableOffset symbolTable.toNat symbolCount.toNat) fun _ => True := by
  have tableLt := symbolTable.toNat_lt
  have countLt := symbolCount.toNat_lt
  unfold stringTableOffset
  split
  · exact .pure .intro
  · refine (ensures_entryOffset (Nat.lt_succ_self _) ?_).trivial
    rw [coffSymbolSize]
    omega

theorem ensures_parse (width : Width) : Ensures source (parse width) fun _ => True := by
  refine ensures_locateOptionalHeader.bind fun located known => ?_
  obtain ⟨optional, magic⟩ := located
  obtain ⟨behind, small⟩ := known
  refine (ensures_difference behind).bind fun coff same => ?_
  subst same
  refine (ensures_sum (by omega)).bind fun _ _ => ?_
  refine (ensures_seek _).bind fun _ _ => ?_
  refine ensures_u16.bind fun sectionCount _ => ?_
  refine ensures_u32.bind fun _ _ => ?_
  refine ensures_u32.bind fun symbolTable _ => ?_
  refine ensures_u32.bind fun symbolCount _ => ?_
  refine ensures_u16.bind fun optionalSize _ => ?_
  refine (ensures_refuseIf _ _).bind fun _ _ => ?_
  refine (ensures_checkRange _ _ _).bind fun _ _ => ?_
  refine (ensures_readExportDirectory width small _).bind fun exportDirectory _ => ?_
  refine (ensures_stringTableOffset symbolTable symbolCount).bind fun stringTable _ => ?_
  have sectionCountLt := sectionCount.toNat_lt
  have optionalSizeLt := optionalSize.toNat_lt
  refine (ensures_sum (by omega)).bind fun table same => ?_
  subst same
  refine (ensures_product ?_).bind fun extent same => ?_
  · rw [sectionHeaderSize]
    omega
  subst same
  refine (ensures_checkRange _ _ _).bind fun _ _ => ?_
  refine (Ensures.mapM_length fun index member => ?_).bind fun _ _ => .pure .intro
  refine (ensures_entryOffset (List.mem_range.mp member) ?_).bind fun _ _ => ?_
  · rw [sectionHeaderSize]
    omega
  · exact ensures_readSection _ _

/-- A section contains the addresses from its own address on. -/
theorem ensures_contains (part : Section) (address : UInt32) :
    Ensures source (part.contains address) fun found =>
      found = true → part.virtualAddress.toNat ≤ address.toNat := by
  have startLt := part.virtualAddress.toNat_lt
  have virtualLt := part.virtualSize.toNat_lt
  have rawLt := part.rawSize.toNat_lt
  refine (ensures_sum ?_).bind fun spanEnd _ => .pure fun inside => ?_
  · rw [Section.span]
    omega
  · simp only [Bool.and_eq_true, decide_eq_true_eq] at inside
    exact inside.1

namespace Image

/-- An offset that an address stands for is the sum of two numbers of 32 bits. -/
theorem ensures_fileOffset (image : Image) (address : UInt32) :
    Ensures source (image.fileOffset address) fun offset => offset < 2 ^ 33 := by
  refine (Ensures.findM? fun part _ => ensures_contains part address).bind fun found known => ?_
  cases found with
  | none => exact .malformed _
  | some part =>
      have addressLt := address.toNat_lt
      have rawLt := part.rawOffset.toNat_lt
      refine (ensures_difference (known part rfl)).bind fun distance same => ?_
      subst same
      refine (ensures_sum (by omega)).mono fun offset same => ?_
      rw [same]
      omega

theorem ensures_readExportDirectory (image : Image) :
    Ensures source image.readExportDirectory fun _ => True := by
  refine (ensures_fileOffset image _).bind fun directory small => ?_
  refine (ensures_checkRange _ _ _).bind fun _ _ => ?_
  refine (ensures_sum (by omega)).bind fun _ _ => ?_
  refine (ensures_seek _).bind fun _ _ => ?_
  refine ensures_u32.bind fun _ _ => ?_
  refine ensures_u32.bind fun _ _ => ?_
  refine ensures_u32.bind fun _ _ => ?_
  refine ensures_u32.bind fun _ _ => ?_
  exact ensures_u32.bind fun _ _ => .pure .intro

theorem ensures_exportName (image : Image) {namesAt nameCount index : Nat}
    (indexLt : index < nameCount) (small : namesAt + nameCount * 4 < 2 ^ 64) :
    Ensures source (image.exportName namesAt index) fun _ => True := by
  refine (ensures_entryOffset indexLt small).bind fun _ _ => ?_
  refine (ensures_seek _).bind fun _ _ => ?_
  refine ensures_u32.bind fun address _ => ?_
  exact (ensures_fileOffset image address).bind fun _ _ => ensures_nameToEnd _

theorem ensures_functionAddress {functionCount functionsAt ordinalsAt nameCount index : Nat}
    (indexLt : index < nameCount) (ordinalsSmall : ordinalsAt + nameCount * 2 < 2 ^ 64)
    (functionsSmall : functionsAt + functionCount * 4 < 2 ^ 64) :
    Ensures source (functionAddress functionCount functionsAt ordinalsAt index)
      fun _ => True := by
  refine (ensures_entryOffset indexLt ordinalsSmall).bind fun _ _ => ?_
  refine (ensures_seek _).bind fun _ _ => ?_
  refine ensures_u16.bind fun ordinal _ => ?_
  refine (ensures_refuseIf _ _).bind fun _ inside => ?_
  refine (ensures_entryOffset (Nat.lt_of_not_le inside) functionsSmall).bind fun _ _ => ?_
  exact (ensures_seek _).bind fun _ _ => ensures_u32

theorem ensures_exportedNames (image : Image) (part : Option Section) :
    Ensures source (image.exportedNames part) fun _ => True := by
  unfold exportedNames
  split
  · exact .pure .intro
  refine (ensures_readExportDirectory image).bind fun directory _ => ?_
  have nameCountLt := directory.nameCount.toNat_lt
  have functionCountLt := directory.functionCount.toNat_lt
  dsimp only
  split
  · exact .pure .intro
  refine (ensures_fileOffset image _).bind fun namesAt namesLt => ?_
  refine (ensures_fileOffset image _).bind fun ordinalsAt ordinalsLt => ?_
  refine (ensures_product (by omega)).bind fun namesExtent same => ?_
  subst same
  refine (ensures_checkRange _ _ _).bind fun _ _ => ?_
  refine (ensures_product (by omega)).bind fun ordinalsExtent same => ?_
  subst same
  refine (ensures_checkRange _ _ _).bind fun _ _ => ?_
  have namesSmall : namesAt + directory.nameCount.toNat * 4 < 2 ^ 64 := by omega
  have ordinalsSmall : ordinalsAt + directory.nameCount.toNat * 2 < 2 ^ 64 := by
    omega
  cases part with
  | none =>
      refine (Ensures.mapM_length fun index member => ?_).bind fun _ _ => .pure .intro
      exact ensures_exportName image (List.mem_range.mp member) namesSmall
  | some part =>
      refine (ensures_fileOffset image _).bind fun functionsAt functionsLt => ?_
      refine (ensures_product (by omega)).bind fun functionsExtent same => ?_
      subst same
      refine (ensures_checkRange _ _ _).bind fun _ _ => ?_
      have functionsSmall : functionsAt + directory.functionCount.toNat * 4 < 2 ^ 64 := by omega
      refine (Ensures.filterMapM fun index member => ?_).bind fun _ _ => .pure .intro
      have indexLt := List.mem_range.mp member
      refine (ensures_functionAddress indexLt ordinalsSmall functionsSmall).bind
        fun address _ => ?_
      refine (ensures_contains part address).bind fun inside _ => ?_
      split
      · exact (ensures_exportName image indexLt namesSmall).bind fun _ _ => .pure .intro
      · exact .pure .intro

theorem ensures_sectionSymbols (image : Image) (name : String) :
    Ensures source (image.sectionSymbols name) fun _ => True := by
  unfold sectionSymbols
  split
  · exact .pure .intro
  · exact ensures_exportedNames image _

end Image

end Pe

end SharedObject
