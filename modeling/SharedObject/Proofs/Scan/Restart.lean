import SharedObject.Scan.Arithmetic
import SharedObject.Scan.Field

/-!
# Scans that start afresh

A scan that starts by seeking, and by choosing a byte order where it needs one,
finds the same whatever cursor earlier scans have left.
-/

namespace SharedObject

namespace Scan

variable {α β : Type}

/-- What a scan answers or fails with, the cursor it leaves put aside. -/
def outcome (scan : Scan α) (source : Source) (cursor : Cursor) : Except Failure α :=
  match scan source cursor with
  | .ok value _ => .ok value
  | .error failure _ => .error failure

section Outcome

variable {source : Source} {cursor moved : Cursor} {scan : Scan α} {value : α}
  {failure : Failure}

theorem outcome_of_ok (given : scan source cursor = .ok value moved) :
    outcome scan source cursor = .ok value := by
  rw [outcome, given]

theorem exists_of_outcome_ok (given : outcome scan source cursor = .ok value) :
    ∃ moved, scan source cursor = .ok value moved := by
  unfold outcome at given
  split at given
  · rename_i answered
    cases given
    exact ⟨_, answered⟩
  · cases given

theorem outcome_bind_of_ok (given : scan source cursor = .ok value moved) (next : α → Scan β) :
    outcome (scan >>= next) source cursor = outcome (next value) source moved := by
  rw [outcome, run_bind, given, outcome]

theorem outcome_bind_of_error (stopped : outcome scan source cursor = .error failure)
    (next : α → Scan β) : outcome (scan >>= next) source cursor = .error failure := by
  unfold outcome at stopped
  split at stopped
  · cases stopped
  · rename_i result
    cases stopped
    rw [outcome, run_bind, result]

theorem outcome_recover (scan : Scan α) (fallback : α) :
    outcome (recover scan fallback) source cursor =
      match outcome scan source cursor with
      | .ok value => .ok value
      | .error (.reported _) => .ok fallback
      | .error (.defect defect) => .error (.defect defect) := by
  rw [outcome, outcome, run_recover]
  cases scan source cursor with
  | ok value moved => rfl
  | error failure moved => cases failure <;> rfl

end Outcome

/-- The outcome of a scan does not depend on the cursor. -/
def Settled (scan : Scan α) : Prop :=
  ∀ source cursor other, outcome scan source cursor = outcome scan source other

namespace Settled

theorem pure (value : α) : Settled (pure value) :=
  fun _ _ _ => rfl

theorem fail (failure : Failure) : Settled (throw failure : Scan α) :=
  fun _ _ _ => rfl

theorem bind {scan : Scan α} {next : α → Scan β} (first : Settled scan)
    (rest : ∀ value, Settled (next value)) : Settled (scan >>= next) := by
  intro source cursor other
  cases here : outcome scan source cursor with
  | ok value =>
      have there := (first source other cursor).trans here
      obtain ⟨moved, here⟩ := exists_of_outcome_ok here
      obtain ⟨elsewhere, there⟩ := exists_of_outcome_ok there
      rw [outcome_bind_of_ok here, outcome_bind_of_ok there]
      exact rest value source moved elsewhere
  | error failure =>
      have there := (first source other cursor).trans here
      rw [outcome_bind_of_error here, outcome_bind_of_error there]

theorem item (table : Array α) (index : Nat) : Settled (item table index) := by
  unfold Scan.item
  split
  · exact pure _
  · exact fail _

theorem front (items : List α) (count : Nat) : Settled (front items count) := by
  unfold Scan.front
  split
  · exact pure _
  · exact fail _

end Settled

theorem settled_setOrder (order : ByteOrder) : Settled (setOrder order) :=
  fun _ _ _ => rfl

theorem settled_seek (offset : Nat) : Settled (seek offset) := by
  intro source cursor other
  rw [outcome, outcome, run_seek, run_seek]
  by_cases outside : source.size < offset
  · rw [if_pos outside, if_pos outside]
  · rw [if_neg outside, if_neg outside]

/-- Bytes are read alike in every byte order. -/
theorem readWithin_order (calls count : Nat) (source : Source) (cursor : Cursor)
    (order : ByteOrder) :
    readWithin calls count source { cursor with order } =
      match readWithin calls count source cursor with
      | .ok bytes moved => .ok bytes { moved with order }
      | .error failure moved => .error failure { moved with order } := by
  induction calls generalizing count cursor with
  | zero => cases count <;> rfl
  | succ calls ih =>
      cases count with
      | zero => rfl
      | succ count =>
          rw [readWithin, run_bind, run_bind, run_readCall, run_readCall]
          dsimp only
          cases source.serve cursor.position (count + 1) with
          | error text => rfl
          | ok bytes =>
              cases bytes with
              | nil => rfl
              | cons byte bytes =>
                  dsimp only
                  rw [run_bind, run_bind]
                  rw [ih _ { cursor with position := cursor.position + (byte :: bytes).length }]
                  cases readWithin calls (count + 1 - (byte :: bytes).length) source
                    { cursor with position := cursor.position + (byte :: bytes).length } <;> rfl

theorem take_order {count : Nat} {source : Source} {cursor moved : Cursor} {bytes : List UInt8}
    (taken : take count source cursor = .ok bytes moved) (order : ByteOrder) :
    take count source { cursor with order } = .ok bytes { moved with order } := by
  rw [take] at taken ⊢
  rw [readWithin_order, taken]

theorem outcome_take_order (count : Nat) (source : Source) (cursor : Cursor)
    (order : ByteOrder) :
    outcome (take count) source { cursor with order } = outcome (take count) source cursor := by
  rw [outcome, outcome, take, readWithin_order]
  cases readWithin count count source cursor <;> rfl

/-- The bytes at an offset are the same wherever the cursor was. -/
theorem settled_takeAt (offset count : Nat) :
    Settled (seek offset >>= fun _ => take count) := by
  intro source cursor other
  cases sought : outcome (seek offset) source cursor with
  | error failure =>
      have there := (settled_seek offset source other cursor).trans sought
      rw [outcome_bind_of_error sought, outcome_bind_of_error there]
  | ok _ =>
      obtain ⟨moved, here⟩ := exists_of_outcome_ok sought
      obtain ⟨inside, rfl⟩ := seek_ok.mp here
      have there : seek offset source other = .ok () { other with position := offset } :=
        seek_ok.mpr ⟨inside, rfl⟩
      rw [outcome_bind_of_ok here, outcome_bind_of_ok there]
      exact outcome_take_order count source { position := offset, order := other.order } _

/-- The first bytes of a file are the same wherever the cursor was. -/
theorem settled_leading (most : Nat) : Settled (leading most) :=
  fun source => settled_takeAt 0 (min source.size most) source

/-- Neither the outcome of a scan nor the cursor that an answer leaves depends on
the cursor. -/
structure Restarts (scan : Scan α) : Prop where
  settled : Settled scan
  answer : ∀ {source cursor other value moved},
    scan source cursor = .ok value moved → scan source other = .ok value moved

namespace Restarts

theorem bind {scan : Scan α} (first : Restarts scan) (next : α → Scan β) :
    Restarts (scan >>= next) where
  settled source cursor other := by
    cases here : outcome scan source cursor with
    | ok value =>
        obtain ⟨moved, here⟩ := exists_of_outcome_ok here
        rw [outcome_bind_of_ok here, outcome_bind_of_ok (first.answer here)]
    | error failure =>
        have there := (first.settled source other cursor).trans here
        rw [outcome_bind_of_error here, outcome_bind_of_error there]
  answer given := by
    obtain ⟨intermediate, between, answered, given⟩ := bind_ok.mp given
    exact bind_ok.mpr ⟨intermediate, between, first.answer answered, given⟩

/-- A scan that chooses the byte order and the position starts afresh. -/
theorem reset (order : ByteOrder) (offset : Nat) (scan : Scan α) :
    Restarts (setOrder order >>= fun _ => seek offset >>= fun _ => scan) := by
  have sought : Restarts (setOrder order >>= fun _ => seek offset) := by
    refine ⟨(settled_setOrder order).bind fun _ => settled_seek offset, fun given => ?_⟩
    obtain ⟨_, _, ordered, given⟩ := bind_ok.mp given
    cases ordered
    obtain ⟨inside, sought⟩ := seek_ok.mp given
    exact bind_ok.mpr ⟨(), _, rfl, seek_ok.mpr ⟨inside, sought⟩⟩
  simpa using sought.bind fun _ => scan

/-- A scan that reads bytes from a given position and takes the byte order from them
starts afresh. -/
theorem choose (offset count : Nat) {next : List UInt8 → Scan Unit}
    (chooses : ∀ bytes, (∃ order, next bytes = setOrder order) ∨
      ∃ failure, next bytes = throw failure) :
    Restarts (seek offset >>= fun _ => take count >>= next) where
  settled := by
    rw [← bind_assoc]
    refine (settled_takeAt offset count).bind fun bytes => ?_
    rcases chooses bytes with ⟨order, same⟩ | ⟨failure, same⟩
    · rw [same]
      exact settled_setOrder order
    · rw [same]
      exact .fail failure
  answer {source cursor other value moved} given := by
    obtain ⟨_, between, sought, given⟩ := bind_ok.mp given
    obtain ⟨inside, rfl⟩ := seek_ok.mp sought
    obtain ⟨bytes, between, taken, given⟩ := bind_ok.mp given
    refine bind_ok.mpr ⟨(), _, seek_ok.mpr ⟨inside, rfl⟩, ?_⟩
    refine bind_ok.mpr ⟨bytes, _, take_order taken other.order, ?_⟩
    rcases chooses bytes with ⟨order, same⟩ | ⟨failure, same⟩
    · rw [same] at given ⊢
      exact given
    · rw [same] at given
      cases given

end Restarts

end Scan

end SharedObject
