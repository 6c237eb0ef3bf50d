import SharedObject.Scan.Field
import Mathlib.Algebra.Group.Nat.Defs

/-!
# What reading gives

However the bytes of a field are spread over read calls, a read that succeeds
gives the bytes of the file at the cursor and moves the cursor past them.  It
succeeds when no call fails before the bytes end and they are there.
-/

namespace SharedObject

theorem littleEndianValue_lt (bytes : List UInt8) :
    littleEndianValue bytes < 256 ^ bytes.length := by
  induction bytes with
  | nil => simp [littleEndianValue]
  | cons byte bytes ih =>
      have byteBound := byte.toNat_lt
      simp only [littleEndianValue, List.length_cons, Nat.pow_succ]
      omega

namespace Source

variable (source : Source)

/-- Two neighbouring slices are one. -/
theorem slice_append_slice (position first second : Nat) :
    source.slice position first ++ source.slice (position + first) second =
      source.slice position (first + second) := by
  simp only [slice, ← Array.toList_append]
  rw [Array.extract_append_extract, Nat.min_eq_left (Nat.le_add_right _ _),
    Nat.max_eq_right (Nat.le_add_right _ _), Nat.add_assoc]

/-- A slice that the end of the file cuts short is one of its own length. -/
theorem slice_eq_slice_length (position count : Nat) :
    source.slice position count =
      source.slice position (source.slice position count).length := by
  rw [length_slice]
  simp only [slice, size]
  rw [Array.extract_eq_extract_right.mpr]
  omega

/-- The first byte of a slice is the one at its offset. -/
theorem getElem?_of_slice_eq_cons {source : Source} {position count : Nat} {byte : UInt8}
    {bytes : List UInt8} (same : byte :: bytes = source.slice position count) :
    source.bytes[position]? = some byte := by
  have counted := congrArg List.length same
  rw [length_slice, List.length_cons] at counted
  have positive : 0 < count := by omega
  have first := source.getElem?_slice_of_lt position positive
  rw [← same, Nat.add_zero] at first
  exact first.symm

theorem serve_ok {source : Source} {position wanted : Nat} {bytes : List UInt8}
    (served : source.serve position wanted = .ok bytes) :
    bytes = source.slice position (source.allowance position wanted) := by
  unfold serve at served
  split at served
  · split at served
    · cases served
    · exact (Except.ok.inj served).symm
  · exact (Except.ok.inj served).symm

/-- Before the position of the fault, if there is one, a call gives something. -/
theorem allowance_pos {source : Source} {position wanted : Nat}
    (before : ∀ fault, source.fault = some fault → position < fault.position)
    (positive : 0 < wanted) : 0 < source.allowance position wanted := by
  have atMost (most : Nat) : 0 < min wanted (max 1 most) := by
    have oneAtLeast : 0 < max 1 most := Nat.lt_of_lt_of_le Nat.one_pos (Nat.le_max_left _ _)
    exact Nat.lt_min.mpr ⟨positive, oneAtLeast⟩
  simp only [allowance]
  cases faulty : source.fault with
  | none =>
      cases source.chunk position with
      | none => exact positive
      | some most => exact atMost most
  | some fault =>
      have room : 0 < fault.position - position := Nat.sub_pos_of_lt (before fault faulty)
      cases source.chunk position with
      | none => exact Nat.lt_min.mpr ⟨positive, room⟩
      | some most => exact Nat.lt_min.mpr ⟨atMost most, room⟩

/-- The bytes in front of an offset are in the file, and reads of them do not fail. -/
structure ReadableTo (source : Source) (bound : Nat) : Prop where
  inside : bound ≤ source.size
  before : ∀ fault, source.fault = some fault → bound ≤ fault.position

theorem ReadableTo.mono {source : Source} {bound less : Nat} (readable : source.ReadableTo bound)
    (le : less ≤ bound) : source.ReadableTo less :=
  ⟨Nat.le_trans le readable.inside, fun fault faulty =>
    Nat.le_trans le (readable.before fault faulty)⟩

end Source

namespace Scan

/-- A read has given the bytes at a cursor and moved it past them. -/
structure Reads (source : Source) (cursor : Cursor) (bytes : List UInt8) (moved : Cursor) :
    Prop where
  content : bytes = source.slice cursor.position bytes.length
  advanced : moved = { cursor with position := cursor.position + bytes.length }

namespace Reads

variable {source : Source} {cursor between moved : Cursor} {bytes others : List UInt8}

theorem nil : Reads source cursor [] cursor :=
  ⟨by simp [Source.slice], rfl⟩

theorem append (first : Reads source cursor bytes between)
    (second : Reads source between others moved) :
    Reads source cursor (bytes ++ others) moved where
  content := by
    have following := second.content
    rw [first.advanced] at following
    rw [List.length_append, ← Source.slice_append_slice, ← first.content, ← following]
  advanced := by
    rw [second.advanced, first.advanced, List.length_append, Nat.add_assoc]

/-- What was read is inside the file. -/
theorem position_le (reads : Reads source cursor bytes moved) (nonempty : bytes ≠ []) :
    cursor.position + bytes.length ≤ source.size := by
  have positive := List.length_pos_iff.mpr nonempty
  have counted := congrArg List.length reads.content
  rw [Source.length_slice] at counted
  omega

end Reads

variable {source : Source} {cursor moved : Cursor} {bytes : List UInt8}

theorem readCall_ok {wanted : Nat}
    (read : readCall wanted source cursor = .ok bytes moved) :
    Reads source cursor bytes moved ∧ bytes.length ≤ wanted := by
  rw [run_readCall] at read
  split at read
  · cases read
  · cases read
  · rename_i byte others served
    cases read
    have content := Source.serve_ok served
    refine ⟨⟨?_, rfl⟩, ?_⟩
    · rw [content]
      exact Source.slice_eq_slice_length source _ _
    · rw [content, Source.length_slice]
      exact Nat.le_trans (Nat.min_le_left _ _) (Source.allowance_le source _ _)

theorem readWithin_ok {calls count : Nat}
    (read : readWithin calls count source cursor = .ok bytes moved) :
    Reads source cursor bytes moved ∧ bytes.length = count := by
  induction calls generalizing count cursor moved bytes with
  | zero =>
      cases count with
      | zero =>
          cases read
          exact ⟨.nil, rfl⟩
      | succ count => cases read
  | succ calls ih =>
      cases count with
      | zero =>
          cases read
          exact ⟨.nil, rfl⟩
      | succ count =>
          obtain ⟨first, between, called, read⟩ := bind_ok.mp read
          obtain ⟨others, last, rest, read⟩ := bind_ok.mp read
          obtain ⟨firstReads, firstLength⟩ := readCall_ok called
          obtain ⟨othersReads, othersLength⟩ := ih rest
          cases read
          refine ⟨firstReads.append othersReads, ?_⟩
          rw [List.length_append]
          omega

/-- A field that was read holds as many bytes of the file as were asked for. -/
theorem take_ok {count : Nat} (taken : take count source cursor = .ok bytes moved) :
    Reads source cursor bytes moved ∧ bytes.length = count :=
  readWithin_ok taken

/-- What `leading` gives is what the file starts with. -/
theorem leading_ok {most : Nat} (given : leading most source cursor = .ok bytes moved) :
    bytes = source.slice 0 bytes.length ∧ bytes.length = min source.size most := by
  obtain ⟨_, start, sought, given⟩ := bind_ok.mp given
  obtain ⟨_, rfl⟩ := seek_ok.mp sought
  obtain ⟨_, _, sized, given⟩ := bind_ok.mp given
  cases sized
  obtain ⟨reads, length⟩ := take_ok given
  exact ⟨reads.content, length⟩

theorem readCall_of_readable {wanted : Nat} (positive : 0 < wanted)
    (readable : source.ReadableTo (cursor.position + 1)) :
    ∃ bytes moved, readCall wanted source cursor = .ok bytes moved ∧ bytes ≠ [] := by
  have inside := readable.inside
  have before : ∀ fault, source.fault = some fault → cursor.position < fault.position :=
    readable.before
  have served : source.serve cursor.position wanted =
      .ok (source.slice cursor.position (source.allowance cursor.position wanted)) := by
    unfold Source.serve
    cases faulty : source.fault with
    | none => rfl
    | some fault => exact if_neg (Nat.not_le.mpr (before fault faulty))
  have allowed : 0 < source.allowance cursor.position wanted :=
    Source.allowance_pos before positive
  rw [run_readCall, served]
  cases given : source.slice cursor.position (source.allowance cursor.position wanted) with
  | nil =>
      have counted := congrArg List.length given
      rw [Source.length_slice, List.length_nil] at counted
      omega
  | cons byte bytes => exact ⟨_, _, rfl, List.cons_ne_nil _ _⟩

theorem readWithin_of_readable {calls count : Nat} (enough : count ≤ calls)
    (readable : source.ReadableTo (cursor.position + count)) :
    ∃ bytes moved, readWithin calls count source cursor = .ok bytes moved := by
  induction calls generalizing count cursor with
  | zero =>
      obtain rfl : count = 0 := Nat.le_zero.mp enough
      exact ⟨_, _, rfl⟩
  | succ calls ih =>
      cases count with
      | zero => exact ⟨_, _, rfl⟩
      | succ count =>
          have started : source.ReadableTo (cursor.position + 1) := readable.mono (by omega)
          obtain ⟨first, between, called, nonempty⟩ :=
            readCall_of_readable (Nat.succ_pos count) started
          obtain ⟨reads, atMost⟩ := readCall_ok called
          have positive := List.length_pos_iff.mpr nonempty
          have advanced := congrArg Cursor.position reads.advanced
          dsimp only at advanced
          have fewer : count + 1 - first.length ≤ calls := by omega
          have within : between.position + (count + 1 - first.length) ≤
              cursor.position + (count + 1) := by
            omega
          obtain ⟨others, last, rest⟩ := ih fewer (readable.mono within)
          refine ⟨first ++ others, last, bind_ok.mpr ⟨first, between, called, ?_⟩⟩
          exact bind_ok.mpr ⟨others, last, rest, rfl⟩

/-- A field of bytes that can be read holds these bytes. -/
theorem take_of_readable {count : Nat}
    (readable : source.ReadableTo (cursor.position + count)) :
    take count source cursor =
      .ok (source.slice cursor.position count)
        { cursor with position := cursor.position + count } := by
  obtain ⟨bytes, moved, taken⟩ := readWithin_of_readable (Nat.le_refl count) readable
  obtain ⟨reads, length⟩ := readWithin_ok taken
  have content := reads.content
  have advanced := reads.advanced
  rw [length] at content advanced
  rw [take, taken, content, advanced]

/-- A field inside a file that can be read holds the bytes there. -/
theorem take_of_inside (sound : source.fault = none) {count : Nat}
    (inside : cursor.position + count ≤ source.size) :
    take count source cursor =
      .ok (source.slice cursor.position count)
        { cursor with position := cursor.position + count } :=
  take_of_readable ⟨inside, by simp [sound]⟩

end Scan

end SharedObject
