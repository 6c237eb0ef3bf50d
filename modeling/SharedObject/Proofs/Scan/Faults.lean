import SharedObject.Proofs.Scan.Regular
import SharedObject.Proofs.Scan.Restart

/-!
# Reading through a fault

A source whose reads fail from some position on never shows other bytes than the
intact source does.  A regular scan of it does what the same scan of the intact
source does, unless it meets the fault and stops with the text of the fault.
-/

namespace SharedObject

namespace Source

/-- The two sources have the same bytes.  Those of the second can all be read, while
reads of the first fail from some position on with the given text. -/
structure Damages (faulty intact : Source) (text : String) : Prop where
  bytes : faulty.bytes = intact.bytes
  sound : intact.fault = none
  fails : ∃ position, faulty.fault = some ⟨position, text⟩

namespace Damages

variable {faulty intact : Source} {text : String}

theorem size_eq (damaged : faulty.Damages intact text) : faulty.size = intact.size := by
  rw [size, damaged.bytes, size]

theorem slice_eq (damaged : faulty.Damages intact text) (position count : Nat) :
    faulty.slice position count = intact.slice position count := by
  rw [slice, damaged.bytes, slice]

end Damages

theorem serve_error {source : Source} {position wanted : Nat} {text : String}
    (refused : source.serve position wanted = .error text) :
    ∃ fault, source.fault = some fault ∧ text = fault.text := by
  unfold serve at refused
  cases faulty : source.fault with
  | none => simp [faulty] at refused
  | some fault =>
      simp only [faulty] at refused
      split at refused
      · exact ⟨fault, rfl, (Except.error.inj refused).symm⟩
      · cases refused

/-- A read call that gives nothing was made at the end of the file. -/
theorem size_le_of_serve_nil {source : Source} {position wanted : Nat} (positive : 0 < wanted)
    (served : source.serve position wanted = .ok []) : source.size ≤ position := by
  have before : ∀ fault, source.fault = some fault → position < fault.position := by
    intro fault faulty
    apply Nat.lt_of_not_le
    intro reached
    simp [serve, faulty, reached] at served
  have allowed := allowance_pos before positive
  have counted := congrArg List.length (serve_ok served)
  rw [length_slice, List.length_nil] at counted
  omega

end Source

namespace Scan

variable {source : Source} {cursor moved : Cursor} {failure : Failure}

theorem readCall_error {wanted : Nat} (positive : 0 < wanted)
    (stopped : readCall wanted source cursor = .error failure moved) :
    (∃ fault, source.fault = some fault ∧ failure = .reported (.io fault.text)) ∨
      failure = .malformed .endOfFile ∧ source.size ≤ cursor.position := by
  rw [run_readCall] at stopped
  split at stopped
  · rename_i text refused
    cases stopped
    obtain ⟨fault, faulty, rfl⟩ := Source.serve_error refused
    exact .inl ⟨fault, faulty, rfl⟩
  · rename_i served
    cases stopped
    exact .inr ⟨rfl, Source.size_le_of_serve_nil positive served⟩
  · cases stopped

theorem readCall_ne_nil {wanted : Nat} {bytes : List UInt8}
    (called : readCall wanted source cursor = .ok bytes moved) : bytes ≠ [] := by
  rw [run_readCall] at called
  split at called
  · cases called
  · cases called
  · cases called
    exact List.cons_ne_nil _ _

theorem readWithin_error {calls count : Nat} (enough : count ≤ calls)
    (stopped : readWithin calls count source cursor = .error failure moved) :
    (∃ fault, source.fault = some fault ∧ failure = .reported (.io fault.text)) ∨
      failure = .malformed .endOfFile ∧ source.size < cursor.position + count := by
  induction calls generalizing count cursor with
  | zero =>
      obtain rfl : count = 0 := Nat.le_zero.mp enough
      cases stopped
  | succ calls ih =>
      cases count with
      | zero => cases stopped
      | succ count =>
          rw [readWithin, run_bind] at stopped
          cases called : readCall (count + 1) source cursor with
          | error failure between =>
              rw [called] at stopped
              cases stopped
              rcases readCall_error (Nat.succ_pos count) called with faulty | ⟨ended, outside⟩
              · exact .inl faulty
              · exact .inr ⟨ended, by omega⟩
          | ok bytes between =>
              simp only [called, run_bind] at stopped
              obtain ⟨reads, atMost⟩ := readCall_ok called
              have advanced := congrArg Cursor.position reads.advanced
              have nonempty := List.length_pos_iff.mpr (readCall_ne_nil called)
              dsimp only at advanced
              split at stopped
              · cases stopped
              · rename_i rest
                cases stopped
                rcases ih (by omega) rest with faulty | ⟨ended, outside⟩
                · exact .inl faulty
                · exact .inr ⟨ended, by omega⟩

/-- A field beyond the end of a file that can be read is cut off by that end. -/
theorem outcome_take_of_outside (sound : source.fault = none) {count : Nat}
    (positive : 0 < count) (outside : source.size < cursor.position + count) :
    outcome (take count) source cursor = .error (.malformed .endOfFile) := by
  cases given : take count source cursor with
  | ok bytes moved =>
      obtain ⟨reads, length⟩ := take_ok given
      have inside := reads.position_le (List.length_pos_iff.mp (by omega))
      omega
  | error failure moved =>
      rcases readWithin_error (Nat.le_refl count) given with ⟨fault, faulty, _⟩ | ⟨ended, _⟩
      · rw [sound] at faulty
        cases faulty
      · rw [outcome, given, ended]

section Survival

variable {α β : Type} {faulty intact : Source} {text : String}

/-- On the faulty source the scan does what it does on the intact one, or stops with
the fault. -/
def Survives (faulty intact : Source) (text : String) (scan : Scan α) : Prop :=
  ∀ cursor,
    (∃ value moved, scan faulty cursor = .ok value moved ∧
      scan intact cursor = .ok value moved) ∨
    (∃ failure, outcome scan faulty cursor = .error failure ∧
      outcome scan intact cursor = .error failure) ∨
    outcome scan faulty cursor = .error (.reported (.io text))

namespace Survives

variable {scan : Scan α}

/-- What comes out of a scan of the faulty source. -/
theorem outcome_cases (survives : Survives faulty intact text scan) (cursor : Cursor) :
    outcome scan faulty cursor = outcome scan intact cursor ∨
      outcome scan faulty cursor = .error (.reported (.io text)) := by
  rcases survives cursor with ⟨value, moved, here, there⟩ | ⟨failure, here, there⟩ | stopped
  · rw [outcome_of_ok here, outcome_of_ok there]
    exact .inl rfl
  · exact .inl (here.trans there.symm)
  · exact .inr stopped

/-- What a scan answers through the fault, it answers without it. -/
theorem answer (survives : Survives faulty intact text scan) {cursor moved : Cursor} {value : α}
    (given : scan faulty cursor = .ok value moved) : scan intact cursor = .ok value moved := by
  have answered := outcome_of_ok given
  rcases survives cursor with ⟨_, _, here, there⟩ | ⟨failure, here, _⟩ | stopped
  · rw [given] at here
    cases here
    exact there
  · rw [answered] at here
    cases here
  · rw [answered] at stopped
    cases stopped

/-- A scan that does not read its source. -/
theorem of_eq (same : ∀ cursor, scan faulty cursor = scan intact cursor) :
    Survives faulty intact text scan := by
  intro cursor
  cases given : scan faulty cursor with
  | ok value moved =>
      rw [same] at given
      exact .inl ⟨value, moved, rfl, given⟩
  | error failure moved =>
      have stopped : outcome scan faulty cursor = .error failure := by rw [outcome, given]
      have alike : outcome scan faulty cursor = outcome scan intact cursor := by
        rw [outcome, outcome, same]
      exact .inr (.inl ⟨failure, stopped, alike ▸ stopped⟩)

theorem pure (value : α) : Survives faulty intact text (pure value) :=
  of_eq fun _ => rfl

theorem bind {next : α → Scan β} (first : Survives faulty intact text scan)
    (rest : ∀ value, Survives faulty intact text (next value)) :
    Survives faulty intact text (scan >>= next) := by
  intro cursor
  rcases first cursor with ⟨value, moved, here, there⟩ | ⟨failure, here, there⟩ | stopped
  · have followed := rest value moved
    rw [← outcome_bind_of_ok here, ← outcome_bind_of_ok there] at followed
    rw [run_bind, run_bind, here, there]
    exact followed
  · refine .inr (.inl ⟨failure, ?_, ?_⟩)
    · exact outcome_bind_of_error here next
    · exact outcome_bind_of_error there next
  · exact .inr (.inr (outcome_bind_of_error stopped next))

variable (damaged : faulty.Damages intact text)
include damaged

theorem size : Survives faulty intact text size :=
  of_eq fun cursor => by rw [run_size, run_size, damaged.size_eq]

theorem seek (offset : Nat) : Survives faulty intact text (seek offset) :=
  of_eq fun cursor => by rw [run_seek, run_seek, damaged.size_eq]

theorem checkRange (region : Region) (offset extent : Nat) :
    Survives faulty intact text (checkRange region offset extent) :=
  of_eq fun cursor => by rw [run_checkRange, run_checkRange, damaged.size_eq]

/-- The bytes that a read gives through the fault are those of the intact source, and
a read that meets the end of the file meets it there too. -/
theorem take (count : Nat) : Survives faulty intact text (take count) := by
  intro cursor
  obtain ⟨position, faultAt⟩ := damaged.fails
  cases here : Scan.take count faulty cursor with
  | ok bytes moved =>
      refine .inl ⟨bytes, moved, rfl, ?_⟩
      cases count with
      | zero => exact here
      | succ count =>
          obtain ⟨reads, length⟩ := take_ok here
          have nonempty : bytes ≠ [] := List.length_pos_iff.mp (by omega)
          have inside := reads.position_le nonempty
          have content := reads.content
          have advanced := reads.advanced
          rw [length, damaged.slice_eq] at content
          rw [length] at advanced inside
          rw [damaged.size_eq] at inside
          rw [take_of_inside damaged.sound inside, content, advanced]
  | error failure moved =>
      have stopped : outcome (Scan.take count) faulty cursor = .error failure := by
        rw [outcome, here]
      rcases readWithin_error (Nat.le_refl count) here with ⟨fault, same, failed⟩ | ⟨ended, outside⟩
      · rw [faultAt] at same
        cases same
        exact .inr (.inr (failed ▸ stopped))
      · refine .inr (.inl ⟨failure, stopped, ?_⟩)
        rw [damaged.size_eq] at outside
        cases count with
        | zero => cases here
        | succ count =>
            rw [ended]
            exact outcome_take_of_outside damaged.sound (Nat.succ_pos count) outside

theorem leading (most : Nat) : Survives faulty intact text (leading most) := by
  apply (seek damaged 0).bind
  intro _
  exact (size damaged).bind fun length => take damaged _

theorem number (count : Nat) : Survives faulty intact text (number count) := by
  exact (take damaged count).bind fun bytes => of_eq fun cursor => rfl

theorem u8 : Survives faulty intact text u8 :=
  (number damaged 1).bind fun _ => pure _

theorem bytesBeforeNul (taken : List UInt8) (limit : Nat) :
    Survives faulty intact text (bytesBeforeNul taken limit) := by
  induction limit generalizing taken with
  | zero => exact pure none
  | succ limit ih =>
      apply (u8 damaged).bind
      intro byte
      by_cases terminated : byte = 0
      · simpa only [if_pos terminated] using pure (some taken.reverse)
      · simpa only [if_neg terminated] using ih (byte :: taken)

theorem nameAt (offset tableEnd : Nat) : Survives faulty intact text (nameAt offset tableEnd) := by
  apply (size damaged).bind
  intro length
  apply bind (of_eq fun cursor => by rw [run_refuseIf, run_refuseIf])
  intro _
  apply (seek damaged offset).bind
  intro _
  apply (bytesBeforeNul damaged _ _).bind
  intro found
  cases found with
  | none => exact of_eq fun cursor => rfl
  | some bytes => exact pure _

end Survives

/-- A regular scan meets the fault or does not notice it. -/
theorem Regular.survives {scan : Scan α} (regular : Regular scan)
    (damaged : faulty.Damages intact text) : Survives faulty intact text scan := by
  induction regular with
  | pure value => exact .pure value
  | malformed cause => exact .of_eq fun cursor => rfl
  | defect defect => exact .of_eq fun cursor => rfl
  | bind _ _ first rest => exact first.bind rest
  | setOrder order => exact .of_eq fun cursor => rfl
  | seek offset => exact .seek damaged offset
  | checkRange region offset extent => exact .checkRange damaged region offset extent
  | take count => exact .take damaged count
  | number count => exact .number damaged count
  | nameAt offset tableEnd => exact .nameAt damaged offset tableEnd
  | nameToEnd offset =>
      exact (Survives.size damaged).bind fun length => .nameAt damaged offset length

end Survival

end Scan

end SharedObject
