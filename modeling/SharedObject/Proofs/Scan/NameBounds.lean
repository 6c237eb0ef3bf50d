import SharedObject.Proofs.Scan.Sound
import SharedObject.Proofs.Scan.Yielding
import SharedObject.Proofs.Text.Ascii

/-!
# How far a name is read

A name ends at the first NUL byte from its offset on, which has to be there before its table
ends and before the file ends.  Whether it is or not, nothing behind the first of these two
ends is read, so that nothing is said of a name on the strength of bytes that follow its
table.
-/

namespace SharedObject

namespace Source

variable {source : Source} {offset bound : Nat}

/-- The file has a NUL byte from an offset on and in front of another one. -/
def HasNul (source : Source) (offset bound : Nat) : Prop :=
  ∃ position, offset ≤ position ∧ position < bound ∧ source.bytes[position]? = some 0

/-- The bytes in front of the first NUL byte. -/
theorem HasNul.exists_bytes (found : source.HasNul offset bound) :
    ∃ bytes, 0 ∉ bytes ∧ source.Holds offset (bytes ++ [0]) ∧ offset + bytes.length < bound := by
  obtain ⟨position, start, before, isNul⟩ := found
  have at_position := source.getElem?_slice_of_lt offset
    (show position - offset < bound - offset by omega)
  rw [Nat.add_sub_cancel' start, isNul] at at_position
  obtain ⟨bytes, others, window, noNul⟩ :=
    List.eq_append_cons_of_mem (List.mem_of_getElem? at_position)
  have counted := congrArg List.length window
  rw [length_slice, List.length_append, List.length_cons] at counted
  have content : (source.slice offset (bound - offset)).take (bytes.length + 1) = bytes ++ [0] := by
    rw [window, List.append_cons]
    exact List.take_left' (by simp)
  have held : source.Holds offset (bytes ++ [0]) := by
    rw [Holds, List.length_append, List.length_singleton, ← content]
    exact (source.take_slice (by omega) offset).symm
  exact ⟨bytes, noNul, held, by omega⟩

/-- A byte in the file is held there. -/
theorem exists_holds (inside : offset < source.size) :
    ∃ byte, source.bytes[offset]? = some byte ∧ source.Holds offset [byte] := by
  have here : source.bytes[offset]? = some source.bytes[offset] := Array.getElem?_eq_getElem inside
  refine ⟨source.bytes[offset], here, ?_⟩
  have length : (source.slice offset 1).length = 1 := by
    rw [length_slice]
    omega
  obtain ⟨byte, only⟩ := List.length_eq_one_iff.mp length
  have first := getElem?_of_slice_eq_cons only.symm
  cases first.symm.trans here
  exact only

end Source

namespace Scan

variable {source : Source} {order : ByteOrder}

/-- Bytes without a NUL byte are read to their end. -/
theorem run_bytesBeforeNul_of_none {position limit : Nat}
    (readable : source.ReadableTo (position + limit))
    (unterminated : ¬source.HasNul position (position + limit)) (taken : List UInt8) :
    bytesBeforeNul taken limit source { position, order } =
      .ok none { position := position + limit, order } := by
  induction limit generalizing position taken with
  | zero => rfl
  | succ limit ih =>
      have inside := readable.inside
      obtain ⟨byte, here, held⟩ := Source.exists_holds (show position < source.size by omega)
      have nonzero : byte ≠ 0 := by
        rintro rfl
        exact unterminated ⟨position, Nat.le_refl _, by omega, here⟩
      have first : source.ReadableTo (position + 1) := readable.mono (by omega)
      have rest : source.ReadableTo (position + 1 + limit) := readable.mono (by omega)
      have further : ¬source.HasNul (position + 1) (position + 1 + limit) := by
        rintro ⟨other, start, before, isNul⟩
        exact unterminated ⟨other, by omega, by omega, isNul⟩
      rw [bytesBeforeNul, run_bind, run_u8 first held]
      dsimp only
      rw [if_neg nonzero, ih rest further]
      simp [Nat.add_assoc, Nat.add_comm 1]

/-- Without a NUL byte where a name has to end, the whole of the table is read. -/
theorem run_nameAt_of_none {offset tableEnd : Nat}
    (readable : source.ReadableTo (min tableEnd source.size))
    (unterminated : ¬source.HasNul offset (min tableEnd source.size)) (cursor : Cursor) :
    nameAt offset tableEnd source cursor =
      if min tableEnd source.size ≤ offset then
        .error (.malformed (.stringOutsideTable offset)) cursor
      else
        .error (.malformed (.stringNotTerminated offset))
          { cursor with position := min tableEnd source.size } := by
  rw [nameAt, run_bind, run_size]
  dsimp only
  rw [run_bind, run_refuseIf]
  by_cases outside : min tableEnd source.size ≤ offset
  · rw [if_pos outside, if_pos outside]
  · have ending : offset + (min tableEnd source.size - offset) = min tableEnd source.size := by
      omega
    have sought : seek offset source cursor = .ok () { cursor with position := offset } :=
      seek_of_inside (by omega) cursor
    rw [← ending] at readable unterminated
    rw [if_neg outside, if_neg outside]
    dsimp only
    rw [run_bind, sought]
    dsimp only
    rw [run_bind, run_bytesBeforeNul_of_none readable unterminated, ending]
    rfl

section Bounded

variable {offset tableEnd : Nat} (readable : source.ReadableTo (min tableEnd source.size))
include readable

/-- A name is read up to its NUL byte, or the file is malformed. -/
theorem nameAt_cases (cursor : Cursor) :
    (∃ bytes, 0 ∉ bytes ∧ source.Holds offset (bytes ++ [0]) ∧
      offset + bytes.length < min tableEnd source.size ∧
      nameAt offset tableEnd source cursor =
        .ok (decodeLossy bytes) { cursor with position := offset + bytes.length + 1 }) ∨
    (¬source.HasNul offset (min tableEnd source.size) ∧ ∃ cause moved,
      nameAt offset tableEnd source cursor = .error (.malformed cause) moved ∧
        (moved = cursor ∨ moved = { cursor with position := min tableEnd source.size })) := by
  by_cases terminated : source.HasNul offset (min tableEnd source.size)
  · obtain ⟨bytes, noNul, held, inside⟩ := terminated.exists_bytes
    have inTable : offset + bytes.length < tableEnd := by omega
    have read := run_nameAt noNul (readable.mono inside) held inTable cursor
    exact .inl ⟨bytes, noNul, held, inside, read⟩
  · refine .inr ⟨terminated, ?_⟩
    rw [run_nameAt_of_none readable terminated cursor]
    split
    · exact ⟨_, _, rfl, .inl rfl⟩
    · exact ⟨_, _, rfl, .inr rfl⟩

/-- How the bytes behind the end of the table can be read, or whether they can, makes no
difference. -/
theorem nameAt_congr {other : Source} (same : other.bytes = source.bytes)
    (alsoReadable : other.ReadableTo (min tableEnd source.size)) (cursor : Cursor) :
    nameAt offset tableEnd other cursor = nameAt offset tableEnd source cursor := by
  have sameSize : other.size = source.size := congrArg Array.size same
  have sameSlice (position count : Nat) :
      other.slice position count = source.slice position count := by
    rw [Source.slice, Source.slice, same]
  by_cases terminated : source.HasNul offset (min tableEnd source.size)
  · obtain ⟨bytes, noNul, held, inside⟩ := terminated.exists_bytes
    have alsoHeld : other.Holds offset (bytes ++ [0]) := (sameSlice _ _).trans held
    have inTable : offset + bytes.length < tableEnd := by omega
    rw [run_nameAt noNul (readable.mono inside) held inTable,
      run_nameAt noNul (alsoReadable.mono inside) alsoHeld inTable]
  · have alsoUnterminated : ¬other.HasNul offset (min tableEnd other.size) := by
      rwa [Source.HasNul, same, sameSize]
    rw [← sameSize] at alsoReadable
    rw [run_nameAt_of_none readable terminated, run_nameAt_of_none alsoReadable alsoUnterminated,
      sameSize]

/-- If reads failed from the end of the table on, it would make no difference. -/
theorem nameAt_fault (text : String) (cursor : Cursor) :
    nameAt offset tableEnd
        { source with fault := some ⟨min tableEnd source.size, text⟩ } cursor =
      nameAt offset tableEnd source cursor := by
  have alsoReadable : Source.ReadableTo
      { source with fault := some ⟨min tableEnd source.size, text⟩ }
      (min tableEnd source.size) := by
    refine ⟨Nat.min_le_right _ _, ?_⟩
    rintro _ ⟨⟩
    exact Nat.le_refl _
  exact nameAt_congr readable (by rfl) alsoReadable cursor

end Bounded

/-- Reading a name succeeds exactly when there is a NUL byte from its offset on, in front of
the end of its table and of the file.  Then the name is the text of the bytes in front of
the first such byte, up to which the file is read, and has no NUL character.  Otherwise the
file is malformed, and is read up to that end if it is read at all.  What is behind the end
is never read: if reads failed from there on, it would make no difference. -/
theorem nameAt_bounded (bytes : Array UInt8) (chunk : Nat → Option Nat) (cursor : Cursor)
    (offset tableEnd : Nat) :
    let source : Source := { bytes, chunk }
    let bound := min tableEnd bytes.size
    ((∃ name moved, nameAt offset tableEnd source cursor = .ok name moved) ↔
      ∃ position, offset ≤ position ∧ position < bound ∧ bytes[position]? = some 0) ∧
    (∀ name moved, nameAt offset tableEnd source cursor = .ok name moved →
      ∃ length, offset + length < bound ∧ bytes[offset + length]? = some 0 ∧
        0 ∉ source.slice offset length ∧ name = decodeLossy (source.slice offset length) ∧
        moved = { cursor with position := offset + length + 1 } ∧ '\x00' ∉ name.toList) ∧
    (∀ failure moved, nameAt offset tableEnd source cursor = .error failure moved →
      (∃ cause, failure = .malformed cause) ∧
        (moved = cursor ∨ moved = { cursor with position := bound })) ∧
    ∀ text, nameAt offset tableEnd { source with fault := some ⟨bound, text⟩ } cursor =
      nameAt offset tableEnd source cursor := by
  intro source bound
  have readable : source.ReadableTo bound := ⟨Nat.min_le_right _ _, nofun⟩
  have unread (text : String) :
      nameAt offset tableEnd { source with fault := some ⟨bound, text⟩ } cursor =
        nameAt offset tableEnd source cursor :=
    nameAt_fault readable text cursor
  rcases nameAt_cases readable cursor with
    ⟨front, noNul, held, inside, read⟩ | ⟨unterminated, cause, stopped, failed, place⟩
  · obtain ⟨here, there⟩ := Source.holds_append.mp held
    have content : source.slice offset front.length = front := here
    have ends : [0] = source.slice (offset + front.length) 1 := there.symm
    have isNul : bytes[offset + front.length]? = some 0 := Source.getElem?_of_slice_eq_cons ends
    have terminated : source.HasNul offset bound :=
      ⟨offset + front.length, Nat.le_add_right _ _, inside, isNul⟩
    rw [read]
    refine ⟨⟨fun _ => terminated, fun _ => ⟨_, _, rfl⟩⟩, ?_, nofun, read ▸ unread⟩
    rintro _ _ ⟨⟩
    exact ⟨front.length, inside, isNul, by rwa [content], by rw [content], rfl,
      nul_notMem_decodeLossy noNul⟩
  · rw [failed]
    refine ⟨⟨nofun, fun found => absurd found unterminated⟩, nofun, ?_, failed ▸ unread⟩
    rintro _ _ ⟨⟩
    exact ⟨⟨cause, rfl⟩, place⟩

end Scan

end SharedObject
