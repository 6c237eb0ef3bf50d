import SharedObject.Proofs.Scan.Regular

/-!
# Answers that outlast the end of a file

A regular scan that gives an answer for a file gives the same answer, and leaves
the cursor at the same place, for every file that goes on where the first one
ends.
-/

namespace SharedObject

/-- The bytes of a file that can be read go on where those of another end. -/
structure Source.Extends (long short : Source) : Prop where
  sound : long.fault = none
  bytes : ∃ suffix, long.bytes = short.bytes ++ suffix

namespace Source.Extends

variable {short long : Source}

theorem size_le (extended : long.Extends short) : short.size ≤ long.size := by
  obtain ⟨suffix, bytes⟩ := extended.bytes
  simp [size, bytes]

theorem slice_eq (extended : long.Extends short) {position count : Nat}
    (inside : position + count ≤ short.size) :
    long.slice position count = short.slice position count := by
  obtain ⟨suffix, bytes⟩ := extended.bytes
  have nothing : suffix.extract (position - short.bytes.size)
      (position + count - short.bytes.size) = #[] := by
    apply Array.extract_empty_of_stop_le_start
    rw [size] at inside
    omega
  simp only [slice, bytes, Array.extract_append, nothing, Array.append_empty]

end Source.Extends

namespace Scan

/-- What a scan answers for the shorter file it also answers for the longer one. -/
def Persists {α : Type} (long short : Source) (scan : Scan α) : Prop :=
  ∀ (cursor moved : Cursor) (value : α),
    scan short cursor = .ok value moved → scan long cursor = .ok value moved

namespace Persists

variable {α β : Type} {short long : Source}

theorem bind {scan : Scan α} {next : α → Scan β} (first : Persists long short scan)
    (rest : ∀ value, Persists long short (next value)) :
    Persists long short (scan >>= next) := by
  intro cursor moved value given
  obtain ⟨intermediate, between, answered, given⟩ := bind_ok.mp given
  exact bind_ok.mpr ⟨intermediate, between, first _ _ _ answered, rest _ _ _ _ given⟩

theorem take (extended : long.Extends short) (count : Nat) :
    Persists long short (take count) := by
  intro cursor moved bytes taken
  cases count with
  | zero => exact taken
  | succ count =>
      obtain ⟨reads, length⟩ := take_ok taken
      have nonempty : bytes ≠ [] := List.length_pos_iff.mp (by omega)
      have inside := reads.position_le nonempty
      have content := reads.content
      have advanced := reads.advanced
      rw [length] at inside content advanced
      have insideLong := Nat.le_trans inside extended.size_le
      rw [take_of_inside extended.sound insideLong, extended.slice_eq inside, content,
        advanced]

theorem number (extended : long.Extends short) (count : Nat) :
    Persists long short (number count) :=
  (take extended count).bind fun _ _ _ _ given => given

theorem u8 (extended : long.Extends short) : Persists long short u8 :=
  (number extended 1).bind fun _ _ _ _ given => given

theorem seek (extended : long.Extends short) (offset : Nat) :
    Persists long short (seek offset) := by
  intro cursor moved value given
  obtain ⟨inside, sought⟩ := seek_ok.mp given
  exact seek_ok.mpr ⟨Nat.le_trans inside extended.size_le, sought⟩

theorem checkRange (extended : long.Extends short) (region : Region) (offset extent : Nat) :
    Persists long short (checkRange region offset extent) := by
  intro cursor moved value given
  obtain ⟨inside, same⟩ := checkRange_ok.mp given
  exact checkRange_ok.mpr ⟨Nat.le_trans inside extended.size_le, same⟩

end Persists

variable {short long : Source} {cursor moved : Cursor}

/-- The first bytes of a file that has as many are those of every longer file. -/
theorem leading_extends (extended : long.Extends short) {most : Nat} {bytes : List UInt8}
    (whole : bytes.length = most) (given : leading most short cursor = .ok bytes moved) :
    leading most long cursor = .ok bytes moved := by
  obtain ⟨_, start, sought, given⟩ := bind_ok.mp given
  obtain ⟨_, _, sized, given⟩ := bind_ok.mp given
  cases sized
  have length := (take_ok given).2
  have longer := extended.size_le
  have asLong : min short.size most = min long.size most := by omega
  refine bind_ok.mpr ⟨(), start, Persists.seek extended 0 _ _ _ sought, ?_⟩
  refine bind_ok.mpr ⟨long.size, start, rfl, ?_⟩
  rw [asLong] at given
  exact Persists.take extended _ _ _ _ given

/-- A name that ends within some limit ends within every greater one. -/
theorem bytesBeforeNul_extends (extended : long.Extends short) {limit further : Nat}
    (more : limit ≤ further) {taken bytes : List UInt8}
    (given : bytesBeforeNul taken limit short cursor = .ok (some bytes) moved) :
    bytesBeforeNul taken further long cursor = .ok (some bytes) moved := by
  induction limit generalizing further taken cursor with
  | zero => cases given
  | succ limit ih =>
      obtain ⟨further, rfl⟩ : ∃ rest, further = rest + 1 := ⟨further - 1, by omega⟩
      rw [bytesBeforeNul] at given ⊢
      obtain ⟨byte, between, read, given⟩ := bind_ok.mp given
      refine bind_ok.mpr ⟨byte, between, Persists.u8 extended _ _ _ read, ?_⟩
      split at given
      · rename_i terminated
        rw [if_pos terminated]
        exact given
      · rename_i continued
        rw [if_neg continued]
        exact ih (Nat.le_of_succ_le_succ more) given

/-- A name that ends inside a table ends inside every table that is no shorter. -/
theorem nameAt_extends (extended : long.Extends short) {offset tableEnd furtherEnd : Nat}
    (more : tableEnd ≤ furtherEnd) {name : String}
    (given : nameAt offset tableEnd short cursor = .ok name moved) :
    nameAt offset furtherEnd long cursor = .ok name moved := by
  have further : min tableEnd short.size ≤ min furtherEnd long.size := by
    have longer := extended.size_le
    omega
  obtain ⟨_, _, sized, given⟩ := bind_ok.mp given
  cases sized
  obtain ⟨_, _, inside, given⟩ := bind_ok.mp given
  obtain ⟨inside, rfl⟩ := refuseIf_ok.mp inside
  obtain ⟨_, between, sought, given⟩ := bind_ok.mp given
  obtain ⟨found, last, read, given⟩ := bind_ok.mp given
  refine bind_ok.mpr ⟨long.size, cursor, rfl, ?_⟩
  refine bind_ok.mpr ⟨(), cursor, refuseIf_ok.mpr ⟨by omega, rfl⟩, ?_⟩
  refine bind_ok.mpr ⟨(), between, Persists.seek extended _ _ _ _ sought, ?_⟩
  cases found with
  | none => cases given
  | some bytes =>
      refine bind_ok.mpr ⟨some bytes, last, ?_, given⟩
      exact bytesBeforeNul_extends extended (by omega) read

namespace Regular

variable {α : Type} {scan : Scan α}

/-- The answers of a regular scan do not depend on what follows the file. -/
theorem persists (regular : Regular scan) (extended : long.Extends short) :
    Persists long short scan := by
  induction regular with
  | pure value => exact fun _ _ _ given => given
  | malformed cause => exact nofun
  | defect defect => exact nofun
  | bind _ _ first rest => exact first.bind rest
  | setOrder order => exact fun _ _ _ given => given
  | seek offset => exact .seek extended offset
  | checkRange region offset extent => exact .checkRange extended region offset extent
  | take count => exact .take extended count
  | number count => exact .number extended count
  | nameAt offset tableEnd => exact fun _ _ _ given => nameAt_extends extended (Nat.le_refl _) given
  | nameToEnd offset =>
      intro cursor moved name given
      exact nameAt_extends extended extended.size_le given

end Regular

end Scan

end SharedObject
