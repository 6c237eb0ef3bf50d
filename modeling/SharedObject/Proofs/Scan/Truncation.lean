import SharedObject.Proofs.Scan.Ensures
import SharedObject.Proofs.Scan.Extension
import SharedObject.Proofs.Scan.Faults

/-!
# Scans of a file that was cut off

A regular scan of the beginning of a file does what the same scan of the whole file does,
unless it needs what was cut off.  Then it calls the file malformed.
-/

namespace SharedObject

namespace Scan

variable {α β : Type} {source short long : Source}

/-- When the scan fails, it calls the file malformed. -/
def Blames (source : Source) (scan : Scan α) : Prop :=
  ∀ cursor moved failure, scan source cursor = .error failure moved →
    ∃ cause, failure = .malformed cause

namespace Blames

theorem of_outcome {scan : Scan α} {cursor : Cursor} {failure : Failure}
    (blames : Blames source scan) (stopped : outcome scan source cursor = .error failure) :
    ∃ cause, failure = .malformed cause := by
  cases given : scan source cursor with
  | ok value moved =>
      rw [outcome, given] at stopped
      cases stopped
  | error other moved =>
      rw [outcome, given] at stopped
      cases stopped
      exact blames cursor moved failure given

theorem pure (value : α) : Blames source (pure value) := by
  rintro cursor moved failure ⟨⟩

theorem malformed (cause : Malformed) : Blames source (malformed cause : Scan α) := by
  rintro cursor moved failure ⟨⟩
  exact ⟨cause, rfl⟩

theorem bind {scan : Scan α} {next : α → Scan β} (first : Blames source scan)
    (rest : ∀ value, Blames source (next value)) : Blames source (scan >>= next) := by
  intro cursor moved failure stopped
  rw [run_bind] at stopped
  cases given : scan source cursor with
  | ok value between =>
      rw [given] at stopped
      exact rest value between moved failure stopped
  | error cause between =>
      rw [given] at stopped
      cases stopped
      exact first cursor moved failure given

theorem size : Blames source size := by
  rintro cursor moved failure ⟨⟩

theorem refuseIf (wrong : Prop) [Decidable wrong] (cause : Malformed) :
    Blames source (refuseIf wrong cause) := by
  unfold Scan.refuseIf
  split
  · exact malformed cause
  · exact pure ()

theorem seek (offset : Nat) : Blames source (seek offset) := by
  apply size.bind
  intro length
  apply (refuseIf _ _).bind
  rintro _ cursor moved failure ⟨⟩

theorem checkRange (region : Region) (offset extent : Nat) :
    Blames source (checkRange region offset extent) :=
  size.bind fun _ => refuseIf _ _

section Reading

variable (sound : source.fault = none)
include sound

/-- The bytes of a file are there to be read, up to its end. -/
theorem take (count : Nat) : Blames source (take count) := by
  intro cursor moved failure stopped
  rcases readWithin_error (Nat.le_refl count) stopped with ⟨fault, faulty, _⟩ | ⟨ended, _⟩
  · rw [sound] at faulty
    cases faulty
  · exact ⟨.endOfFile, ended⟩

theorem number (count : Nat) : Blames source (number count) := by
  apply (take sound count).bind
  rintro bytes cursor moved failure ⟨⟩

theorem u8 : Blames source u8 :=
  (number sound 1).bind fun _ => pure _

theorem bytesBeforeNul (taken : List UInt8) (limit : Nat) :
    Blames source (bytesBeforeNul taken limit) := by
  induction limit generalizing taken with
  | zero => exact pure none
  | succ limit ih =>
      apply (u8 sound).bind
      intro byte
      by_cases terminated : byte = 0
      · simpa only [if_pos terminated] using pure (some taken.reverse)
      · simpa only [if_neg terminated] using ih (byte :: taken)

theorem nameAt (offset tableEnd : Nat) : Blames source (nameAt offset tableEnd) := by
  apply size.bind
  intro length
  apply (refuseIf _ _).bind
  intro _
  apply (seek offset).bind
  intro _
  apply (bytesBeforeNul sound _ _).bind
  intro found
  cases found with
  | none => exact malformed _
  | some bytes => exact pure _

theorem nameToEnd (offset : Nat) : Blames source (nameToEnd offset) :=
  size.bind fun length => nameAt sound offset length

end Reading

end Blames

/-- A regular scan of bytes that can all be read stops for nothing but the bytes, unless it
meets a defect. -/
theorem Regular.blames_or_defect {scan : Scan α} (regular : Regular scan)
    (sound : source.fault = none) {cursor moved : Cursor} {failure : Failure}
    (stopped : scan source cursor = .error failure moved) :
    (∃ cause, failure = .malformed cause) ∨ ∃ defect, failure = .defect defect := by
  induction regular generalizing cursor moved failure with
  | pure value => cases stopped
  | malformed cause => exact .inl (Blames.malformed cause cursor moved failure stopped)
  | defect defect =>
      cases stopped
      exact .inr ⟨defect, rfl⟩
  | @bind _ _ scan next _ _ first rest =>
      rw [run_bind] at stopped
      cases given : scan source cursor with
      | ok value between =>
          rw [given] at stopped
          exact rest value stopped
      | error failure between =>
          rw [given] at stopped
          cases stopped
          exact first given
  | setOrder order => cases stopped
  | seek offset => exact .inl (Blames.seek offset cursor moved failure stopped)
  | checkRange region offset extent =>
      exact .inl (Blames.checkRange region offset extent cursor moved failure stopped)
  | take count => exact .inl (Blames.take sound count cursor moved failure stopped)
  | number count => exact .inl (Blames.number sound count cursor moved failure stopped)
  | nameAt offset tableEnd =>
      exact .inl (Blames.nameAt sound offset tableEnd cursor moved failure stopped)
  | nameToEnd offset => exact .inl (Blames.nameToEnd sound offset cursor moved failure stopped)

/-- What meets no defects blames the file for all that it fails with. -/
theorem Regular.blames {scan : Scan α} {holds : α → Prop} (regular : Regular scan)
    (sound : source.fault = none) (ensured : Ensures source scan holds) :
    Blames source scan := by
  intro cursor moved failure stopped
  rcases regular.blames_or_defect sound stopped with malformed | ⟨defect, rfl⟩
  · exact malformed
  · exact absurd rfl (ensured.of_error stopped defect)

/-- When the scan of the shorter file fails, it calls that file malformed, or the scan of
the longer one fails likewise. -/
def Truncates (long short : Source) (scan : Scan α) : Prop :=
  ∀ cursor moved failure, scan short cursor = .error failure moved →
    (∃ cause, failure = .malformed cause) ∨ ∃ elsewhere, scan long cursor = .error failure elsewhere

theorem Blames.truncates {scan : Scan α} (blames : Blames short scan) :
    Truncates long short scan :=
  fun cursor moved failure stopped => .inl (blames cursor moved failure stopped)

/-- What follows a scan fails alike after the same answer. -/
theorem Truncates.bind {scan : Scan α} {next : α → Scan β} (persists : Persists long short scan)
    (first : Truncates long short scan) (rest : ∀ value, Truncates long short (next value)) :
    Truncates long short (scan >>= next) := by
  intro cursor moved failure stopped
  rw [run_bind] at stopped ⊢
  cases given : scan short cursor with
  | ok value between =>
      rw [given] at stopped
      rw [persists cursor between value given]
      exact rest value between moved failure stopped
  | error cause between =>
      rw [given] at stopped
      cases stopped
      rcases first cursor moved failure given with malformed | ⟨elsewhere, alike⟩
      · exact .inl malformed
      · exact .inr ⟨elsewhere, by rw [alike]⟩

theorem Regular.truncates {scan : Scan α} (regular : Regular scan) (extended : long.Extends short)
    (sound : short.fault = none) : Truncates long short scan := by
  induction regular with
  | pure value => exact (Blames.pure value).truncates
  | malformed cause => exact (Blames.malformed cause).truncates
  | defect defect =>
      rintro cursor moved _ ⟨⟩
      exact .inr ⟨cursor, rfl⟩
  | bind first _ firstTruncates rest =>
      exact firstTruncates.bind (first.persists extended) rest
  | setOrder order => rintro cursor moved failure ⟨⟩
  | seek offset => exact (Blames.seek offset).truncates
  | checkRange region offset extent => exact (Blames.checkRange region offset extent).truncates
  | take count => exact (Blames.take sound count).truncates
  | number count => exact (Blames.number sound count).truncates
  | nameAt offset tableEnd => exact (Blames.nameAt sound offset tableEnd).truncates
  | nameToEnd offset => exact (Blames.nameToEnd sound offset).truncates

/-- What the whole file has an answer to is answered alike for its beginning, or the
beginning is malformed. -/
theorem Regular.cases_of_extends {scan : Scan α} (regular : Regular scan)
    (extended : long.Extends short) (sound : short.fault = none) {cursor moved : Cursor}
    {value : α} (given : scan long cursor = .ok value moved) :
    scan short cursor = .ok value moved ∨
      ∃ cause, outcome scan short cursor = .error (.malformed cause) := by
  cases answered : scan short cursor with
  | ok other between =>
      have same := regular.persists extended cursor between other answered
      exact .inl (same.symm.trans given)
  | error failure between =>
      rcases regular.truncates extended sound cursor between failure answered with
        ⟨cause, rfl⟩ | ⟨elsewhere, failed⟩
      · exact .inr ⟨cause, by rw [outcome, answered]⟩
      · rw [given] at failed
        cases failed

end Scan

end SharedObject
