import SharedObject.Proofs.Scan.Faults

/-!
# How far a scan reads

Where reads fail from some position on, a scan answers as long as it reads no byte at that
position or behind it, and otherwise fails with the fault.  The reach of a scan is the end of
the furthest field that it reads.
-/

namespace SharedObject

namespace Scan

variable {α β : Type} {source : Source} {cursor between moved : Cursor} {fault : ReadFault}

/-- What one call gives lies in front of the fault. -/
theorem readCall_before {wanted : Nat} {bytes : List UInt8}
    (read : readCall wanted source cursor = .ok bytes moved) (faulty : source.fault = some fault) :
    cursor.position + bytes.length ≤ fault.position := by
  rw [run_readCall] at read
  split at read
  · cases read
  · cases read
  · rename_i byte others served
    cases read
    have content := Source.serve_ok served
    have allowed : source.allowance cursor.position wanted ≤ fault.position - cursor.position := by
      simp only [Source.allowance, faulty]
      exact Nat.min_le_right _ _
    have started : cursor.position < fault.position := by
      apply Nat.lt_of_not_le
      intro reached
      simp [Source.serve, faulty, reached] at served
    rw [content, Source.length_slice]
    omega

/-- What a read gives lies in front of the fault. -/
theorem readWithin_before {calls count : Nat} {bytes : List UInt8}
    (read : readWithin calls count source cursor = .ok bytes moved)
    (faulty : source.fault = some fault) (positive : 0 < count) :
    cursor.position + count ≤ fault.position := by
  induction calls generalizing count cursor bytes moved with
  | zero =>
      cases count with
      | zero => cases positive
      | succ count => cases read
  | succ calls ih =>
      cases count with
      | zero => cases positive
      | succ count =>
          obtain ⟨first, between, called, read⟩ := bind_ok.mp read
          obtain ⟨others, last, rest, read⟩ := bind_ok.mp read
          have before := readCall_before called faulty
          obtain ⟨reads, atMost⟩ := readCall_ok called
          have advanced := congrArg Cursor.position reads.advanced
          dsimp only at advanced
          by_cases done : first.length = count + 1
          · omega
          · have following := ih rest (by omega)
            omega

/-- From the cursor, the scan answers when no read fails in front of its reach, and fails
with the fault when one does. -/
structure Reaches (source : Source) (cursor : Cursor) (scan : Scan α) (reach : Nat) (value : α)
    (moved : Cursor) : Prop where
  answers : (∀ fault, source.fault = some fault → reach ≤ fault.position) →
    scan source cursor = .ok value moved
  stops : ∀ fault, source.fault = some fault → fault.position < reach →
    outcome scan source cursor = .error (.reported (.io fault.text))

namespace Reaches

variable {scan : Scan α} {reach further : Nat} {value : α}

/-- A scan that answers without reading. -/
theorem of_ok (given : scan source cursor = .ok value moved) :
    Reaches source cursor scan 0 value moved :=
  ⟨fun _ => given, nofun⟩

/-- Of two scans in sequence, the furthest reach is that of both. -/
theorem bind {next : α → Scan β} {result : β}
    (first : Reaches source cursor scan reach value between)
    (rest : Reaches source between (next value) further result moved) :
    Reaches source cursor (scan >>= next) (max reach further) result moved := by
  constructor
  · intro before
    have answered := first.answers fun fault faulty =>
      Nat.le_trans (Nat.le_max_left _ _) (before fault faulty)
    have followed := rest.answers fun fault faulty =>
      Nat.le_trans (Nat.le_max_right _ _) (before fault faulty)
    exact bind_ok.mpr ⟨value, between, answered, followed⟩
  · intro fault faulty behind
    by_cases early : fault.position < reach
    · exact outcome_bind_of_error (first.stops fault faulty early) next
    · have answered : scan source cursor = .ok value between := by
        apply first.answers
        intro other same
        cases faulty.symm.trans same
        exact Nat.le_of_not_lt early
      rw [outcome_bind_of_ok answered]
      exact rest.stops fault faulty (by omega)

/-- A part that does not read, in front of the others. -/
theorem after {next : α → Scan β} {result : β} (given : scan source cursor = .ok value between)
    (rest : Reaches source between (next value) further result moved) :
    Reaches source cursor (scan >>= next) further result moved := by
  have both := (of_ok given).bind rest
  rwa [Nat.zero_max] at both

theorem afterSeek {offset : Nat} (inside : offset ≤ source.size) {next : Unit → Scan β}
    {result : β}
    (rest : Reaches source { cursor with position := offset } (next ()) further result moved) :
    Reaches source cursor (seek offset >>= next) further result moved :=
  after (seek_of_inside inside cursor) rest

theorem afterRefuseIf {wrong : Prop} [Decidable wrong] (fine : ¬wrong) {cause : Malformed}
    {next : Unit → Scan β} {result : β}
    (rest : Reaches source cursor (next ()) further result moved) :
    Reaches source cursor (refuseIf wrong cause >>= next) further result moved :=
  after (refuseIf_ok.mpr ⟨fine, rfl⟩) rest

/-- A part that does not read, behind another. -/
theorem followed {next : α → Scan β} {result : β}
    (first : Reaches source cursor scan reach value between)
    (given : next value source between = .ok result moved) :
    Reaches source cursor (scan >>= next) reach result moved := by
  have both := first.bind (of_ok given)
  rwa [Nat.max_zero] at both

theorem take {count : Nat} (positive : 0 < count)
    (inside : cursor.position + count ≤ source.size) :
    Reaches source cursor (take count) (cursor.position + count)
      (source.slice cursor.position count)
      { cursor with position := cursor.position + count } := by
  constructor
  · intro before
    exact take_of_readable ⟨inside, before⟩
  · intro fault faulty behind
    cases taken : Scan.take count source cursor with
    | ok bytes moved =>
        have before := readWithin_before taken faulty positive
        omega
    | error failure moved =>
        rcases readWithin_error (Nat.le_refl count) taken with ⟨other, same, failed⟩ | ⟨_, outside⟩
        · cases faulty.symm.trans same
          rw [outcome, taken, failed]
        · omega

theorem map (first : Reaches source cursor scan reach value moved) (function : α → β) :
    Reaches source cursor (do return function (← scan)) reach (function value) moved :=
  first.followed rfl

theorem number {count : Nat} (positive : 0 < count)
    (inside : cursor.position + count ≤ source.size) :
    Reaches source cursor (number count) (cursor.position + count)
      (cursor.order.value (source.slice cursor.position count))
      { cursor with position := cursor.position + count } :=
  (take positive inside).followed rfl

theorem u16 (inside : cursor.position + 2 ≤ source.size) :
    Reaches source cursor u16 (cursor.position + 2)
      (UInt16.ofNat (cursor.order.value (source.slice cursor.position 2)))
      { cursor with position := cursor.position + 2 } :=
  (number (by decide) inside).map UInt16.ofNat

theorem u32 (inside : cursor.position + 4 ≤ source.size) :
    Reaches source cursor u32 (cursor.position + 4)
      (UInt32.ofNat (cursor.order.value (source.slice cursor.position 4)))
      { cursor with position := cursor.position + 4 } :=
  (number (by decide) inside).map UInt32.ofNat

/-- What a file starts with is read if it is as long as that. -/
theorem leading {most : Nat} (positive : 0 < most) (inside : most ≤ source.size) :
    Reaches source cursor (leading most) most (source.slice 0 most)
      { cursor with position := most } := by
  apply afterSeek (Nat.zero_le _)
  apply after (run_size _ _)
  rw [Nat.min_eq_right inside]
  have taken : Reaches source { cursor with position := 0 } (Scan.take most) _ _ _ :=
    take positive (by simpa using inside)
  simpa using taken

end Reaches

end Scan

end SharedObject
