import SharedObject.Proofs.Pe.Membership

/-!
# Addresses in the file

An address is translated by the first section that covers it.  A section covers the larger
of its size in memory and its size in the file.  Where it is larger in memory, the addresses
behind its raw data are translated all the same, to offsets behind its raw data.
-/

namespace SharedObject

namespace Pe

open Scan

namespace Section

variable {part : Section} {address : UInt32}

/-- The address lies in the span of the section. -/
def Covers (part : Section) (address : UInt32) : Prop :=
  part.virtualAddress.toNat ≤ address.toNat ∧
    address.toNat < part.virtualAddress.toNat + part.span

instance : Decidable (part.Covers address) :=
  inferInstanceAs (Decidable (_ ∧ _))

/-- The offset that the section puts an address at. -/
def place (part : Section) (address : UInt32) : Nat :=
  address.toNat - part.virtualAddress.toNat + part.rawOffset.toNat

/-- The offset is one of the raw data of the section. -/
def HasRaw (part : Section) (offset : Nat) : Prop :=
  part.rawOffset.toNat ≤ offset ∧ offset < part.rawOffset.toNat + part.rawSize.toNat

instance {offset : Nat} : Decidable (part.HasRaw offset) :=
  inferInstanceAs (Decidable (_ ∧ _))

/-- The address lies behind the raw data of the section, which is zero there in memory. -/
def ZeroAt (part : Section) (address : UInt32) : Prop :=
  part.virtualAddress.toNat + part.rawSize.toNat ≤ address.toNat

theorem hasRaw_place_iff (covers : part.Covers address) :
    part.HasRaw (part.place address) ↔ ¬part.ZeroAt address := by
  have start := covers.1
  unfold HasRaw place ZeroAt
  omega

/-- A section that is no larger in memory than in the file has raw data for every address
that it covers. -/
theorem not_zeroAt_of_covers (covers : part.Covers address)
    (raw : part.virtualSize ≤ part.rawSize) : ¬part.ZeroAt address := by
  have ending := covers.2
  have sizes : part.virtualSize.toNat ≤ part.rawSize.toNat := UInt32.le_iff_toNat_le.mp raw
  unfold span at ending
  unfold ZeroAt
  omega

theorem run_contains (part : Section) (address : UInt32) (source : Source) (cursor : Cursor) :
    part.contains address source cursor = .ok (decide (part.Covers address)) cursor := by
  have start := part.virtualAddress.toNat_lt
  have virtualSmall := part.virtualSize.toNat_lt
  have rawSmall := part.rawSize.toNat_lt
  have small : part.virtualAddress.toNat + part.span < offsetBound := by
    unfold span offsetBound
    omega
  have compared : (decide (part.virtualAddress.toNat ≤ address.toNat) &&
      decide (address.toNat < part.virtualAddress.toNat + part.span)) =
        decide (part.Covers address) := by
    rw [Bool.eq_iff_iff, Bool.and_eq_true, decide_eq_true_iff, decide_eq_true_iff,
      decide_eq_true_iff]
    rfl
  simp [contains, run_bind, sum, if_pos small, compared]

end Section

namespace Image

variable {image : Image} {source : Source} {cursor : Cursor}

theorem run_findM?_contains (sections : List Section) (address : UInt32) (source : Source)
    (cursor : Cursor) :
    sections.findM? (·.contains address) source cursor =
      .ok (sections.find? (·.Covers address)) cursor := by
  induction sections with
  | nil => rfl
  | cons part sections ih =>
      rw [List.findM?, run_bind, part.run_contains, List.find?_cons]
      cases decide (part.Covers address) with
      | true => rfl
      | false => exact ih

/-- An address is translated by the first section that covers it, and by no other. -/
theorem run_fileOffset (image : Image) (address : UInt32) (source : Source) (cursor : Cursor) :
    image.fileOffset address source cursor =
      match image.sections.find? (·.Covers address) with
      | some part => .ok (part.place address) cursor
      | none => .error (.malformed (.addressOutsideSections address.toNat)) cursor := by
  rw [fileOffset, run_bind, run_findM?_contains]
  cases found : image.sections.find? (·.Covers address) with
  | none => rfl
  | some part =>
      have covers : part.Covers address := by simpa using List.find?_some found
      have addressSmall := address.toNat_lt
      have rawSmall := part.rawOffset.toNat_lt
      have small : address.toNat - part.virtualAddress.toNat + part.rawOffset.toNat <
          offsetBound := by
        unfold offsetBound
        omega
      simp [run_bind, difference, if_pos covers.1, sum, if_pos small, Section.place]

theorem outcome_fileOffset {address : UInt32} {offset : Nat} :
    outcome (image.fileOffset address) source cursor = .ok offset ↔
      ∃ part, image.sections.find? (·.Covers address) = some part ∧
        part.place address = offset := by
  rw [outcome, run_fileOffset]
  cases image.sections.find? (·.Covers address) with
  | none => simp
  | some part => simp

/-- The image translates an address by a section to an offset.  It is one of the raw data of
the section unless the address lies behind these. -/
structure Translates (image : Image) (part : Section) (address : UInt32) (offset : Nat) :
    Prop where
  first : image.sections.find? (·.Covers address) = some part
  starts : part.virtualAddress ≤ address
  placed : offset = part.rawOffset.toNat + (address.toNat - part.virtualAddress.toNat)
  raw : part.HasRaw offset ↔ ¬part.ZeroAt address

theorem outcome_fileOffset_iff_translates {address : UInt32} {offset : Nat} :
    outcome (image.fileOffset address) source cursor = .ok offset ↔
      ∃ part, image.Translates part address offset := by
  rw [outcome_fileOffset]
  constructor
  · rintro ⟨part, first, rfl⟩
    have covers : part.Covers address := by simpa using List.find?_some first
    exact ⟨part, first, UInt32.le_iff_toNat_le.mpr covers.1, Nat.add_comm _ _,
      Section.hasRaw_place_iff covers⟩
  · rintro ⟨part, translates⟩
    exact ⟨part, translates.first, (Nat.add_comm _ _).trans translates.placed.symm⟩

theorem Translates.hasRaw {part : Section} {address : UInt32} {offset : Nat}
    (translates : image.Translates part address offset)
    (raw : ∀ part ∈ image.sections, part.virtualSize ≤ part.rawSize) : part.HasRaw offset := by
  have covers : part.Covers address := by simpa using List.find?_some translates.first
  have member := List.mem_of_find?_eq_some translates.first
  exact translates.raw.mpr (Section.not_zeroAt_of_covers covers (raw part member))

/-- A name of the export directory starts at the offset of an address. -/
theorem translated_of_exportName {namesAt index : Nat} {name : String}
    (named : outcome (image.exportName namesAt index) source cursor = .ok name) :
    ∃ address offset, outcome (image.fileOffset address) source cursor = .ok offset ∧
      outcome (nameToEnd offset) source cursor = .ok name := by
  have addresses : Steady (entryOffset namesAt index 4 >>= fun offset =>
      seek offset >>= fun _ => u32) :=
    .entry _ _ _ .u32
  have names (address : UInt32) : Steady (image.fileOffset address >>= nameToEnd) :=
    (image.steady_fileOffset address).bind .nameToEnd
  have parts : image.exportName namesAt index = (entryOffset namesAt index 4 >>= fun offset =>
      seek offset >>= fun _ => u32) >>= fun address => image.fileOffset address >>= nameToEnd := by
    simp only [exportName, bind_assoc]
  rw [parts] at named
  obtain ⟨address, _, named⟩ := outcome_bind_ok named addresses names
  obtain ⟨offset, translated, named⟩ :=
    outcome_bind_ok named (image.steady_fileOffset address) .nameToEnd
  exact ⟨address, offset, translated, named⟩

/-- Every name that is listed, of a section or of all, starts where its address is translated
to. -/
theorem translates_of_mem (part : Option Section) {names : List String} {name : String}
    (given : outcome (image.exportedNames part) source cursor = .ok names)
    (member : name ∈ names) :
    ∃ address part offset, image.Translates part address offset ∧
      outcome (nameToEnd offset) source cursor = .ok name := by
  obtain ⟨_, namesAt, _, _, index, _, _, named⟩ := (image.mem_exportedNames given name).mp member
  obtain ⟨address, offset, translated, starts⟩ := translated_of_exportName named
  obtain ⟨part, translates⟩ := outcome_fileOffset_iff_translates.mp translated
  exact ⟨address, part, offset, translates, starts⟩

end Image

end Pe

end SharedObject
