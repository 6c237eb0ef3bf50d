import SharedObject.Elf.Symbol
import SharedObject.Proofs.Scan.Ensures

/-!
# ELF scans have no defects

The tables of an ELF file are checked to lie in the file before they are read, so
the offsets of their entries do not overflow in a file of less than `2 ^ 63`
bytes.  The name table of an image is one of its sections.
-/

namespace SharedObject

namespace Elf

open Scan

variable {source : Source}

theorem ensures_hasIdentity (width : Width) :
    Ensures source (hasIdentity width) fun _ => True := by
  refine (ensures_leading 6).bind fun start known => ?_
  split
  · rename_i whole
    refine (ensures_front (by omega)).bind fun _ _ => ?_
    exact (ensures_item (by simp [whole])).bind fun _ _ => .pure .intro
  · exact .pure .intro

theorem ensures_isCutOff : Ensures source isCutOff fun _ => True := by
  refine (ensures_leading 6).bind fun start _ => ?_
  refine (ensures_front (Nat.min_le_left _ _)).bind fun _ _ => ?_
  exact (ensures_front (Nat.min_le_right _ _)).bind fun _ _ => .pure .intro

theorem ensures_chooseOrder {identity : List UInt8} (length : identity.length = 16) :
    Ensures source (chooseOrder identity) fun _ => True := by
  refine (ensures_item (by simp [length])).bind fun encoding _ => ?_
  cases byteOrder? encoding with
  | some order => exact ensures_setOrder order
  | none => exact .malformed _

theorem ensures_readIdentity : Ensures source readIdentity fun _ => True := by
  refine (ensures_seek 0).bind fun _ _ => ?_
  exact (ensures_take 16).bind fun _ length => ensures_chooseOrder length

theorem ensures_readFileHeader (width : Width) :
    Ensures source (readFileHeader width) fun _ => True := by
  refine ensures_readIdentity.bind fun _ _ => ?_
  refine ensures_u16.bind fun _ _ => ?_
  refine ensures_u16.bind fun _ _ => ?_
  refine ensures_u32.bind fun _ _ => ?_
  refine (ensures_word width).bind fun _ _ => ?_
  refine (ensures_word width).bind fun _ _ => ?_
  refine (ensures_word width).bind fun _ _ => ?_
  refine ensures_u32.bind fun _ _ => ?_
  refine ensures_u16.bind fun _ _ => ?_
  refine ensures_u16.bind fun _ _ => ?_
  refine ensures_u16.bind fun _ _ => ?_
  refine ensures_u16.bind fun _ _ => ?_
  refine ensures_u16.bind fun _ _ => ?_
  exact ensures_u16.bind fun _ _ => .pure .intro

theorem ensures_readSectionHeader (width : Width) :
    Ensures source (readSectionHeader width) fun _ => True := by
  refine ensures_u32.bind fun _ _ => ?_
  refine ensures_u32.bind fun _ _ => ?_
  refine (ensures_word width).bind fun _ _ => ?_
  refine (ensures_word width).bind fun _ _ => ?_
  refine (ensures_word width).bind fun _ _ => ?_
  refine (ensures_word width).bind fun _ _ => ?_
  refine ensures_u32.bind fun _ _ => ?_
  refine ensures_u32.bind fun _ _ => ?_
  refine (ensures_word width).bind fun _ _ => ?_
  exact (ensures_word width).bind fun _ _ => .pure .intro

theorem ensures_readFurtherHeaders {table entrySize count : Nat} (width : Width)
    (small : table + count * entrySize < 2 ^ 64) :
    Ensures source (readFurtherHeaders width table entrySize count)
      fun headers => headers.length = count - 1 := by
  refine (Ensures.mapM_length fun index member => ?_).mono fun headers length => ?_
  · have indexLt : index < count := by
      have range := List.mem_range'_1.mp member
      omega
    refine (ensures_entryOffset indexLt small).bind fun offset _ => ?_
    exact (ensures_seek offset).bind fun _ _ => ensures_readSectionHeader width
  · simpa using length

/-- The name table of an image is one of its sections, if it has any. -/
def Image.Sound (image : Image) : Prop :=
  image.headers = #[] ∨ image.nameTable < image.headers.size

theorem ensures_checkNameTable (headers : Array SectionHeader) (nameTable : Nat) :
    Ensures source (checkNameTable headers nameTable) fun _ => True := by
  unfold checkNameTable
  split
  · exact (ensures_checkRange _ _ _).trivial
  · exact .pure .intro

theorem ensures_parse (width : Width) (bounded : source.size < 2 ^ 63) :
    Ensures source (parse width) Image.Sound := by
  refine (ensures_readFileHeader width).bind fun header _ => ?_
  dsimp only
  split
  · exact .pure (.inl rfl)
  refine (ensures_refuseIf _ _).bind fun _ _ => ?_
  refine (ensures_checkRange _ _ _).bind fun _ _ => ?_
  refine (ensures_seek _).bind fun _ _ => ?_
  refine (ensures_readSectionHeader width).bind fun first _ => ?_
  split
  · exact .pure (.inl rfl)
  refine (ensures_refuseIf _ _).bind fun _ _ => ?_
  refine (ensures_checkRange _ _ _).bind fun _ inside => ?_
  refine (ensures_refuseIf _ _).bind fun _ indexLt => ?_
  have small :
      header.tableOffset.toNat + header.count first * header.entrySize.toNat < 2 ^ 64 := by
    omega
  refine (ensures_readFurtherHeaders width small).bind fun further length => ?_
  refine (ensures_checkNameTable _ _).bind fun _ _ => .pure (.inr ?_)
  show header.nameTableIndex first < (first :: further).toArray.size
  rw [List.size_toArray, List.length_cons]
  omega

theorem symbolSize_pos (width : Width) : 0 < symbolSize width := by
  cases width <;> decide

theorem ensures_nameIn (strings : SectionHeader) (index : UInt32) :
    Ensures source (nameIn strings index) fun _ => True :=
  ensures_nameAt _ _

theorem ensures_readSymbol (width : Width) : Ensures source (readSymbol width) fun _ => True := by
  cases width with
  | bits32 =>
      refine ensures_u32.bind fun _ _ => ?_
      refine ensures_u32.bind fun _ _ => ?_
      refine ensures_u32.bind fun _ _ => ?_
      refine ensures_u8.bind fun _ _ => ?_
      refine ensures_u8.bind fun _ _ => ?_
      exact ensures_u16.bind fun _ _ => .pure .intro
  | bits64 =>
      refine ensures_u32.bind fun _ _ => ?_
      refine ensures_u8.bind fun _ _ => ?_
      refine ensures_u8.bind fun _ _ => ?_
      exact ensures_u16.bind fun _ _ => .pure .intro

namespace Image

variable {image : Image}

theorem ensures_sectionName (sound : image.Sound) {header : SectionHeader}
    (member : header ∈ image.headers.toList) :
    Ensures source (image.sectionName header) fun _ => True := by
  unfold sectionName
  split
  · exact .pure .intro
  · have indexLt : image.nameTable < image.headers.size := by
      rcases sound with empty | indexLt
      · rw [empty] at member
        cases member
      · exact indexLt
    exact (ensures_item indexLt).bind fun _ _ => ensures_nameIn _ _

theorem ensures_sections (sound : image.Sound) :
    Ensures source image.sections fun _ => True :=
  (Ensures.mapM_length fun _ member => ensures_sectionName sound member).trivial

theorem ensures_indexOfSection (sound : image.Sound) (name : String) (index : Nat)
    {headers : List SectionHeader} (among : headers ⊆ image.headers.toList) :
    Ensures source (image.indexOfSection name index headers) fun _ => True := by
  induction headers generalizing index with
  | nil => exact .pure .intro
  | cons header headers ih =>
      obtain ⟨member, others⟩ := List.cons_subset.mp among
      refine (ensures_sectionName sound member).bind fun found _ => ?_
      split
      · exact .pure .intro
      · exact ih _ others

theorem ensures_entrySize (image : Image) (table : SectionHeader) :
    Ensures source (image.entrySize table) fun stride => 0 < stride := by
  unfold entrySize
  dsimp only
  split
  · exact .pure (symbolSize_pos _)
  · split
    · exact .malformed _
    · exact .pure (by omega)

theorem ensures_readSymbols (image : Image) (table : SectionHeader)
    (bounded : source.size < 2 ^ 63) :
    Ensures source (image.readSymbols table) fun _ => True := by
  refine (ensures_entrySize image table).bind fun stride positive => ?_
  refine (ensures_checkRange _ _ _).bind fun _ inside => ?_
  refine (ensures_divide _ positive).bind fun quotient same => ?_
  subst same
  refine (ensures_refuseIf _ _).bind fun _ _ => ?_
  refine (Ensures.mapM_length fun index member => ?_).trivial
  have whole := Nat.div_mul_le_self table.size.toNat stride
  have small : table.offset.toNat + table.size.toNat / stride * stride < 2 ^ 64 := by omega
  refine (ensures_entryOffset (List.mem_range.mp member) small).bind fun _ _ => ?_
  exact (ensures_seek _).bind fun _ _ => ensures_readSymbol _

theorem ensures_namesOfTable (image : Image) (keep : Symbol → Bool) (table : SectionHeader)
    (bounded : source.size < 2 ^ 63) :
    Ensures source (image.namesOfTable keep table) fun _ => True := by
  unfold namesOfTable
  split
  · exact .malformed _
  · refine (ensures_checkRange _ _ _).bind fun _ _ => ?_
    refine (ensures_readSymbols image table bounded).bind fun symbols _ => ?_
    refine (Ensures.mapM_length fun symbol _ => ?_).bind fun _ _ => .pure .intro
    exact ensures_nameIn _ _

theorem ensures_exportedNames (image : Image) (keep : Symbol → Bool)
    (bounded : source.size < 2 ^ 63) :
    Ensures source (image.exportedNames keep) fun _ => True :=
  (Ensures.mapM_length fun table _ => ensures_namesOfTable image keep table bounded).bind
    fun _ _ => .pure .intro

theorem ensures_sectionSymbols (sound : image.Sound) (name : String)
    (bounded : source.size < 2 ^ 63) :
    Ensures source (image.sectionSymbols name) fun _ => True := by
  refine (ensures_indexOfSection sound name 0 (List.Subset.refl _)).bind fun found _ => ?_
  cases found with
  | none => exact .pure .intro
  | some index => exact ensures_exportedNames image _ bounded

end Image

end Elf

end SharedObject
