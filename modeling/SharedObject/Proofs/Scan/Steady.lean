import SharedObject.Proofs.Scan.Restart
import SharedObject.Scan.Name

/-!
# Steady scans

A steady scan goes to the places it reads from, so that what it finds depends on the
byte order of the cursor it starts with but not on the position.  It leaves the byte
order as it is, also when it fails.
-/

namespace SharedObject

namespace Scan

variable {α β : Type}

/-- The cursor that a scan leaves, with an answer or with a failure. -/
def left (scan : Scan α) (source : Source) (cursor : Cursor) : Cursor :=
  match scan source cursor with
  | .ok _ moved | .error _ moved => moved

/-- The scan leaves the byte order as it is. -/
def KeepsOrder (scan : Scan α) : Prop :=
  ∀ source cursor, (left scan source cursor).order = cursor.order

namespace KeepsOrder

theorem pure (value : α) : KeepsOrder (pure value) :=
  fun _ _ => rfl

theorem fail (failure : Failure) : KeepsOrder (throw failure : Scan α) :=
  fun _ _ => rfl

theorem order_of_ok {scan : Scan α} (keeps : KeepsOrder scan) {source : Source}
    {cursor moved : Cursor} {value : α} (given : scan source cursor = .ok value moved) :
    moved.order = cursor.order := by
  have kept := keeps source cursor
  rw [left, given] at kept
  exact kept

theorem bind {scan : Scan α} {next : α → Scan β} (first : KeepsOrder scan)
    (rest : ∀ value, KeepsOrder (next value)) : KeepsOrder (scan >>= next) := by
  intro source cursor
  have kept := first source cursor
  unfold left at kept ⊢
  rw [run_bind]
  cases given : scan source cursor with
  | ok value moved =>
      rw [given] at kept
      exact (rest value source moved).trans kept
  | error failure moved =>
      rw [given] at kept
      exact kept

theorem seek (offset : Nat) : KeepsOrder (seek offset) := by
  intro source cursor
  rw [left, run_seek]
  by_cases outside : source.size < offset
  · rw [if_pos outside]
  · rw [if_neg outside]

theorem readCall (wanted : Nat) : KeepsOrder (readCall wanted) := by
  intro source cursor
  rw [left, run_readCall]
  cases source.serve cursor.position wanted with
  | error text => rfl
  | ok bytes => cases bytes <;> rfl

theorem readWithin (calls count : Nat) : KeepsOrder (readWithin calls count) := by
  induction calls generalizing count with
  | zero =>
      cases count with
      | zero => exact pure []
      | succ count => exact fail _
  | succ calls ih =>
      cases count with
      | zero => exact pure []
      | succ count =>
          apply (readCall (count + 1)).bind
          intro bytes
          exact (ih _).bind fun others => pure (bytes ++ others)

theorem number (count : Nat) : KeepsOrder (number count) :=
  (readWithin count count).bind fun _ _ _ => rfl

theorem u8 : KeepsOrder u8 :=
  (number 1).bind fun _ => pure _

theorem u16 : KeepsOrder u16 :=
  (number 2).bind fun _ => pure _

theorem u32 : KeepsOrder u32 :=
  (number 4).bind fun _ => pure _

theorem bytesBeforeNul (taken : List UInt8) (limit : Nat) :
    KeepsOrder (bytesBeforeNul taken limit) := by
  induction limit generalizing taken with
  | zero => exact pure none
  | succ limit ih =>
      apply u8.bind
      intro byte
      by_cases terminated : byte = 0
      · simpa only [if_pos terminated] using pure (some taken.reverse)
      · simpa only [if_neg terminated] using ih (byte :: taken)

end KeepsOrder

/-- Only the byte order of the cursor matters, and it is left as it is. -/
structure Steady (scan : Scan α) : Prop where
  settled : ∀ source cursor other, cursor.order = other.order →
    outcome scan source cursor = outcome scan source other
  keeps : KeepsOrder scan

namespace Steady

theorem pure (value : α) : Steady (pure value) :=
  ⟨fun _ _ _ _ => rfl, .pure value⟩

theorem fail (failure : Failure) : Steady (throw failure : Scan α) :=
  ⟨fun _ _ _ _ => rfl, .fail failure⟩

theorem malformed (cause : Malformed) : Steady (malformed cause : Scan α) :=
  fail _

theorem bind {scan : Scan α} {next : α → Scan β} (first : Steady scan)
    (rest : ∀ value, Steady (next value)) : Steady (scan >>= next) where
  settled source cursor other same := by
    cases here : outcome scan source cursor with
    | ok value =>
        have there := (first.settled source other cursor same.symm).trans here
        obtain ⟨moved, here⟩ := exists_of_outcome_ok here
        obtain ⟨elsewhere, there⟩ := exists_of_outcome_ok there
        rw [outcome_bind_of_ok here, outcome_bind_of_ok there]
        apply (rest value).settled
        rw [first.keeps.order_of_ok here, first.keeps.order_of_ok there, same]
    | error failure =>
        have there := (first.settled source other cursor same.symm).trans here
        rw [outcome_bind_of_error here, outcome_bind_of_error there]
  keeps := first.keeps.bind fun value => (rest value).keeps

/-- What is read after going to an offset does not depend on where one came from. -/
theorem seek {scan : Scan α} (offset : Nat) (keeps : KeepsOrder scan) :
    Steady (seek offset >>= fun _ => scan) where
  settled source cursor other same := by
    by_cases inside : offset ≤ source.size
    · rw [outcome_bind_of_ok (seek_of_inside inside cursor),
        outcome_bind_of_ok (seek_of_inside inside other), same]
    · have stopped : ∀ start, outcome (Scan.seek offset) source start =
          .error (.malformed (.offsetPastEnd offset)) := by
        intro start
        rw [outcome, run_seek, if_pos (Nat.lt_of_not_le inside)]
      rw [outcome_bind_of_error (stopped cursor), outcome_bind_of_error (stopped other)]
  keeps := (KeepsOrder.seek offset).bind fun _ => keeps

theorem refuseIf (wrong : Prop) [Decidable wrong] (cause : Malformed) :
    Steady (refuseIf wrong cause) := by
  unfold Scan.refuseIf
  split
  · exact malformed cause
  · exact pure ()

theorem size : Steady size :=
  ⟨fun _ _ _ _ => rfl, fun _ _ => rfl⟩

theorem checkRange (region : Region) (offset extent : Nat) :
    Steady (checkRange region offset extent) :=
  size.bind fun _ => refuseIf _ _

theorem sum (first second : Nat) : Steady (sum first second) := by
  unfold Scan.sum
  split
  · exact pure _
  · exact fail _

theorem product (first second : Nat) : Steady (product first second) := by
  unfold Scan.product
  split
  · exact pure _
  · exact fail _

theorem difference (first second : Nat) : Steady (difference first second) := by
  unfold Scan.difference
  split
  · exact pure _
  · exact fail _

theorem divide (dividend divisor : Nat) : Steady (divide dividend divisor) := by
  unfold Scan.divide
  split
  · exact fail _
  · exact pure _

theorem entryOffset (table index stride : Nat) : Steady (entryOffset table index stride) :=
  (product index stride).bind fun distance => sum table distance

theorem item (table : Array α) (index : Nat) : Steady (item table index) := by
  unfold Scan.item
  split
  · exact pure _
  · exact fail _

/-- An entry of a table is read after going to it. -/
theorem entry {scan : Scan α} (table index stride : Nat) (keeps : KeepsOrder scan) :
    Steady (Scan.entryOffset table index stride >>= fun offset =>
      Scan.seek offset >>= fun _ => scan) :=
  (entryOffset table index stride).bind fun offset => seek offset keeps

theorem nameAt (offset tableEnd : Nat) : Steady (nameAt offset tableEnd) := by
  apply size.bind
  intro length
  apply (refuseIf _ _).bind
  intro _
  apply seek
  apply (KeepsOrder.bytesBeforeNul _ _).bind
  intro found
  cases found with
  | none => exact .fail _
  | some bytes => exact .pure _

theorem nameToEnd (offset : Nat) : Steady (nameToEnd offset) :=
  size.bind fun length => nameAt offset length

theorem mapM {function : α → Scan β} (each : ∀ item, Steady (function item)) (items : List α) :
    Steady (items.mapM function) := by
  induction items with
  | nil => exact pure _
  | cons item items ih =>
      rw [List.mapM_cons]
      exact (each item).bind fun _ => ih.bind fun _ => pure _

theorem filterMapM {function : α → Scan (Option β)} (each : ∀ item, Steady (function item))
    (items : List α) : Steady (items.filterMapM function) := by
  induction items with
  | nil => exact pure _
  | cons item items ih =>
      rw [List.filterMapM_cons]
      apply (each item).bind
      intro found
      cases found with
      | none => exact ih
      | some value => exact ih.bind fun _ => pure _

theorem findM? {test : α → Scan Bool} (each : ∀ item, Steady (test item)) (items : List α) :
    Steady (items.findM? test) := by
  induction items with
  | nil => exact pure _
  | cons item items ih =>
      apply (each item).bind
      intro found
      cases found with
      | true => exact pure _
      | false => exact ih

end Steady

end Scan

end SharedObject
