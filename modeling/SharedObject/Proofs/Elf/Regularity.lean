import SharedObject.Elf.Symbol
import SharedObject.Proofs.Scan.Regular
import SharedObject.Proofs.Scan.Restart

/-!
# ELF scans are regular

The headers of an ELF file and every listing are read by regular scans.  Reading
the headers starts afresh: the file itself says in which byte order.
-/

namespace SharedObject

namespace Elf

open Scan

theorem regular_chooseOrder (identity : List UInt8) : Regular (chooseOrder identity) := by
  refine (Regular.item _ _).bind fun encoding => ?_
  cases byteOrder? encoding with
  | some order => exact .setOrder order
  | none => exact .malformed _

theorem regular_readIdentity : Regular readIdentity :=
  (Regular.seek 0).bind fun _ => (Regular.take 16).bind regular_chooseOrder

/-- The identity settles the byte order, if it can be understood. -/
theorem chooseOrder_cases (identity : List UInt8) :
    (∃ order, chooseOrder identity = setOrder order) ∨
      ∃ failure, chooseOrder identity = throw failure := by
  unfold chooseOrder item
  cases identity.toArray[5]? with
  | none => exact .inr ⟨.defect .indexOutOfRange, rfl⟩
  | some encoding =>
      dsimp only
      rw [pure_bind]
      cases byteOrder? encoding with
      | some order => exact .inl ⟨order, rfl⟩
      | none => exact .inr ⟨_, rfl⟩

theorem restarts_readIdentity : Restarts readIdentity :=
  .choose 0 16 chooseOrder_cases

theorem regular_readFileHeader (width : Width) : Regular (readFileHeader width) := by
  refine regular_readIdentity.bind fun _ => ?_
  refine Regular.u16.bind fun _ => ?_
  refine Regular.u16.bind fun _ => ?_
  refine Regular.u32.bind fun _ => ?_
  refine (Regular.word width).bind fun _ => ?_
  refine (Regular.word width).bind fun _ => ?_
  refine (Regular.word width).bind fun _ => ?_
  refine Regular.u32.bind fun _ => ?_
  refine Regular.u16.bind fun _ => ?_
  refine Regular.u16.bind fun _ => ?_
  refine Regular.u16.bind fun _ => ?_
  refine Regular.u16.bind fun _ => ?_
  refine Regular.u16.bind fun _ => ?_
  exact Regular.u16.bind fun _ => .pure _

theorem regular_readSectionHeader (width : Width) : Regular (readSectionHeader width) := by
  refine Regular.u32.bind fun _ => ?_
  refine Regular.u32.bind fun _ => ?_
  refine (Regular.word width).bind fun _ => ?_
  refine (Regular.word width).bind fun _ => ?_
  refine (Regular.word width).bind fun _ => ?_
  refine (Regular.word width).bind fun _ => ?_
  refine Regular.u32.bind fun _ => ?_
  refine Regular.u32.bind fun _ => ?_
  refine (Regular.word width).bind fun _ => ?_
  exact (Regular.word width).bind fun _ => .pure _

theorem regular_readFurtherHeaders (width : Width) (table entrySize count : Nat) :
    Regular (readFurtherHeaders width table entrySize count) :=
  Regular.mapM (fun _ => (Regular.entryOffset _ _ _).bind fun _ =>
    (Regular.seek _).bind fun _ => regular_readSectionHeader width) _

theorem regular_checkNameTable (headers : Array SectionHeader) (nameTable : Nat) :
    Regular (checkNameTable headers nameTable) := by
  unfold checkNameTable
  split
  · exact .checkRange _ _ _
  · exact .pure _

theorem regular_parse (width : Width) : Regular (parse width) := by
  refine (regular_readFileHeader width).bind fun header => ?_
  dsimp only
  split
  · exact .pure _
  refine (Regular.refuseIf _ _).bind fun _ => ?_
  refine (Regular.checkRange _ _ _).bind fun _ => ?_
  refine (Regular.seek _).bind fun _ => ?_
  refine (regular_readSectionHeader width).bind fun first => ?_
  split
  · exact .pure _
  refine (Regular.refuseIf _ _).bind fun _ => ?_
  refine (Regular.checkRange _ _ _).bind fun _ => ?_
  refine (Regular.refuseIf _ _).bind fun _ => ?_
  refine (regular_readFurtherHeaders _ _ _ _).bind fun _ => ?_
  exact (regular_checkNameTable _ _).bind fun _ => .pure _

theorem restarts_parse (width : Width) : Restarts (parse width) :=
  (restarts_readIdentity.bind _).bind _

theorem regular_nameIn (strings : SectionHeader) (index : UInt32) :
    Regular (nameIn strings index) :=
  .nameAt _ _

theorem regular_readSymbol (width : Width) : Regular (readSymbol width) := by
  cases width with
  | bits32 =>
      refine Regular.u32.bind fun _ => ?_
      refine Regular.u32.bind fun _ => ?_
      refine Regular.u32.bind fun _ => ?_
      refine Regular.u8.bind fun _ => ?_
      refine Regular.u8.bind fun _ => ?_
      exact Regular.u16.bind fun _ => .pure _
  | bits64 =>
      refine Regular.u32.bind fun _ => ?_
      refine Regular.u8.bind fun _ => ?_
      refine Regular.u8.bind fun _ => ?_
      exact Regular.u16.bind fun _ => .pure _

namespace Image

variable (image : Image)

theorem regular_sectionName (header : SectionHeader) : Regular (image.sectionName header) := by
  unfold sectionName
  split
  · exact .pure _
  · exact (Regular.item _ _).bind fun _ => regular_nameIn _ _

theorem regular_sections : Regular image.sections :=
  .mapM image.regular_sectionName _

theorem regular_indexOfSection (name : String) (index : Nat) (headers : List SectionHeader) :
    Regular (image.indexOfSection name index headers) := by
  induction headers generalizing index with
  | nil => exact .pure _
  | cons header headers ih =>
      refine (image.regular_sectionName header).bind fun found => ?_
      split
      · exact .pure _
      · exact ih _

theorem regular_entrySize (table : SectionHeader) : Regular (image.entrySize table) := by
  unfold entrySize
  dsimp only
  split
  · exact .pure _
  · split
    · exact .malformed _
    · exact .pure _

theorem regular_readSymbols (table : SectionHeader) : Regular (image.readSymbols table) := by
  refine (image.regular_entrySize table).bind fun stride => ?_
  refine (Regular.checkRange _ _ _).bind fun _ => ?_
  refine (Regular.divide _ _).bind fun quotient => ?_
  refine (Regular.refuseIf _ _).bind fun _ => ?_
  refine Regular.mapM (fun index => ?_) _
  refine (Regular.entryOffset _ _ _).bind fun _ => ?_
  exact (Regular.seek _).bind fun _ => regular_readSymbol _

theorem regular_namesOfTable (keep : Symbol → Bool) (table : SectionHeader) :
    Regular (image.namesOfTable keep table) := by
  unfold namesOfTable
  split
  · exact .malformed _
  · refine (Regular.checkRange _ _ _).bind fun _ => ?_
    refine (image.regular_readSymbols table).bind fun symbols => ?_
    exact (Regular.mapM (fun symbol => regular_nameIn _ _) _).bind fun _ => .pure _

theorem regular_exportedNames (keep : Symbol → Bool) : Regular (image.exportedNames keep) :=
  (Regular.mapM (image.regular_namesOfTable keep) _).bind fun _ => .pure _

theorem regular_sectionSymbols (name : String) : Regular (image.sectionSymbols name) := by
  refine (image.regular_indexOfSection name 0 _).bind fun found => ?_
  cases found with
  | none => exact .pure _
  | some index => exact image.regular_exportedNames _

end Image

end Elf

end SharedObject
