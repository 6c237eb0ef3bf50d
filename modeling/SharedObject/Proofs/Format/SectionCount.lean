import SharedObject.Proofs.Pe.SectionName

/-!
# How many sections a file has

Every format has a header for each section, and the headers of different sections do not
overlap: those of an ELF or PE file are the entries of one table, those of a Mach-O file are
in load commands that lie behind each other.  All of them are checked to be in the file, so
their number is bounded by its size, whatever the headers of the file declare.
-/

namespace SharedObject

open Scan

variable {width : Width} {source : Source} {cursor moved : Cursor}

namespace Elf

/-- The entries of the section header table after the first. -/
theorem length_readFurtherHeaders {table entrySize count : Nat} {further : List SectionHeader}
    (read : readFurtherHeaders width table entrySize count source cursor = .ok further moved) :
    further.length = count - 1 := by
  have length := (mapM_ok read).length_eq
  rwa [List.length_range', eq_comm] at length

/-- The section headers of an ELF file that opens are in the file. -/
theorem headers_inside {image : Image}
    (parsed : parse width source cursor = .ok image moved) :
    image.headers.size * headerSize width ≤ source.size := by
  have bare : (#[] : Array SectionHeader).size * headerSize width ≤ source.size := by simp
  obtain ⟨header, _, _, parsed⟩ := bind_ok.mp parsed
  dsimp only at parsed
  split at parsed
  · cases parsed
    exact bare
  obtain ⟨_, _, passed, parsed⟩ := bind_ok.mp parsed
  obtain ⟨large, rfl⟩ := refuseIf_ok.mp passed
  obtain ⟨first, _, _, parsed⟩ := bind_ok.mp (seek_next (checkRange_next parsed))
  split at parsed
  · cases parsed
    exact bare
  rename_i counted
  obtain ⟨_, _, passed, parsed⟩ := bind_ok.mp (refuseIf_next parsed)
  obtain ⟨inside, rfl⟩ := checkRange_ok.mp passed
  obtain ⟨further, _, read, parsed⟩ := bind_ok.mp (refuseIf_next parsed)
  obtain ⟨_, _, _, given⟩ := bind_ok.mp parsed
  cases given
  have length := length_readFurtherHeaders read
  have entries : (first :: further).toArray.size = header.count first := by
    rw [List.size_toArray, List.length_cons]
    omega
  calc (first :: further).toArray.size * headerSize width
      = header.count first * headerSize width := by rw [entries]
    _ ≤ header.count first * header.entrySize.toNat :=
        Nat.mul_le_mul_left _ (Nat.le_of_not_lt large)
    _ ≤ source.size := by omega

end Elf

namespace Pe

/-- The section table of a PE file that opens is in the file. -/
theorem sections_inside {image : Image}
    (parsed : parse width source cursor = .ok image moved) :
    image.sections.length * sectionHeaderSize ≤ source.size := by
  obtain ⟨⟨optional, _⟩, _, _, parsed⟩ := bind_ok.mp parsed
  obtain ⟨count, _, _, parsed⟩ := bind_ok.mp (seek_next (sum_next (difference_next parsed)))
  replace parsed := Decodes.u32.next (Decodes.u32.next (Decodes.u32.next parsed))
  replace parsed := checkRange_next (refuseIf_next (Decodes.u16.next parsed))
  obtain ⟨_, _, _, parsed⟩ := bind_ok.mp parsed
  obtain ⟨_, _, _, parsed⟩ := bind_ok.mp parsed
  obtain ⟨_, _, passed, parsed⟩ := bind_ok.mp (product_next (sum_next parsed))
  obtain ⟨inside, rfl⟩ := checkRange_ok.mp passed
  obtain ⟨sections, _, read, given⟩ := bind_ok.mp parsed
  cases given
  have length := (mapM_ok read).length_eq
  rw [List.length_range] at length
  rw [← length]
  exact Nat.le_of_add_left_le inside

end Pe

namespace MachO

/-- A segment command has room for the headers of its sections. -/
theorem readSegment_room {command size : Nat} {names : List String}
    (read : readSegment width command size source cursor = .ok names moved) :
    names.length * sectionHeaderSize width ≤ size := by
  obtain ⟨count, _, _, read⟩ := bind_ok.mp (seek_next (sum_next (refuseIf_next read)))
  obtain ⟨_, _, passed, read⟩ := bind_ok.mp (sum_next (product_next read))
  obtain ⟨room, rfl⟩ := refuseIf_ok.mp passed
  have length := (mapM_ok (checkRange_next (sum_next read))).length_eq
  rw [List.length_range] at length
  rw [← length]
  omega

theorem readCommand_room {kind : UInt32} {offset size : Nat} {found extended : Contents}
    (read : readCommand width kind offset size found source cursor = .ok extended moved) :
    extended.sections.length * sectionHeaderSize width ≤
      found.sections.length * sectionHeaderSize width + size := by
  unfold readCommand at read
  split at read
  · obtain ⟨names, _, read, given⟩ := bind_ok.mp read
    cases given
    have room := readSegment_room read
    rw [List.length_append, Nat.add_mul]
    omega
  · split at read
    · obtain ⟨table, _, _, given⟩ := bind_ok.mp read
      cases given
      exact Nat.le_add_right _ _
    · cases read
      exact Nat.le_add_right _ _

/-- The sections found in front of an offset have had room there, and those that load
commands from there on add have room in the commands. -/
theorem readCommands_room {commandsEnd count offset : Nat} {found contents : Contents}
    (inside : offset ≤ commandsEnd)
    (room : found.sections.length * sectionHeaderSize width ≤ offset)
    (read : readCommands width commandsEnd count offset found source cursor =
      .ok contents moved) :
    contents.sections.length * sectionHeaderSize width ≤ commandsEnd := by
  induction count generalizing offset found cursor with
  | zero =>
      cases read
      exact Nat.le_trans room inside
  | succ count ih =>
      obtain ⟨kind, _, _, read⟩ := bind_ok.mp (seek_next (refuseIf_next (sum_next read)))
      obtain ⟨size, _, _, read⟩ := bind_ok.mp read
      obtain ⟨_, _, passed, read⟩ := bind_ok.mp (sum_next read)
      obtain ⟨valid, rfl⟩ := refuseIf_ok.mp passed
      obtain ⟨extended, _, added, read⟩ := bind_ok.mp read
      have more := readCommand_room added
      exact ih (by omega) (by omega) read

/-- The section headers of a Mach-O file that opens are in the file. -/
theorem sections_inside {image : Image}
    (parsed : parse width source cursor = .ok image moved) :
    image.contents.sections.length * sectionHeaderSize width ≤ source.size := by
  obtain ⟨_, _, _, parsed⟩ := bind_ok.mp parsed
  obtain ⟨_, _, _, parsed⟩ := bind_ok.mp parsed
  replace parsed := Decodes.u32.next (Decodes.u32.next (Decodes.u32.next parsed))
  obtain ⟨commandCount, _, _, parsed⟩ := bind_ok.mp parsed
  obtain ⟨commandsSize, _, _, parsed⟩ := bind_ok.mp parsed
  obtain ⟨_, _, passed, parsed⟩ := bind_ok.mp (Decodes.u32.next parsed)
  obtain ⟨inside, rfl⟩ := checkRange_ok.mp passed
  obtain ⟨contents, _, read, given⟩ := bind_ok.mp (sum_next parsed)
  cases given
  exact Nat.le_trans (readCommands_room (Nat.le_add_right _ _) (by simp) read) inside

end MachO

end SharedObject
