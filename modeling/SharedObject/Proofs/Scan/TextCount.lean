import Mathlib.Data.List.Perm.Subperm
import SharedObject.Proofs.Scan.Decoding
import SharedObject.Proofs.Scan.Sound

/-!
# How many texts a file holds

A text ends at the first NUL byte from its offset on, so it is known from its offset.  Texts
may overlap, and one may be referred to many times: a file has no more different texts than
bytes all the same.
-/

namespace SharedObject

namespace Source

variable {source : Source} {offset : Nat} {text : String}

/-- The text from an offset on, up to the first NUL byte or the end of the file. -/
def textFrom (source : Source) (offset : Nat) : String :=
  decodeLossy ((source.slice offset source.size).takeWhile (· ≠ 0))

theorem HoldsText.inside (held : source.HoldsText offset text) : offset < source.size := by
  obtain ⟨bytes, _, held, _⟩ := held
  have within := held.inside (by simp)
  rw [List.length_append, List.length_singleton] at within
  omega

theorem HoldsText.eq_textFrom (held : source.HoldsText offset text) :
    text = source.textFrom offset := by
  obtain ⟨bytes, noNul, held, rfl⟩ := held
  have within := held.inside (by simp)
  have starts : bytes ++ [0] <+: source.slice offset source.size := by
    rw [← held, ← source.take_slice (Nat.le_of_add_left_le within)]
    exact List.take_prefix _ _
  obtain ⟨others, content⟩ := starts
  have nonzero : ∀ byte ∈ bytes, decide (byte ≠ 0) = true := by
    intro byte member
    rw [decide_eq_true_eq]
    rintro rfl
    exact noNul member
  rw [textFrom, ← content, List.append_assoc, List.takeWhile_append_of_pos nonzero]
  simp

/-- Names that are made out of texts of a file, each listed once, are no more than the file
has bytes. -/
theorem length_le_size_of_holdsText {names : List String} (distinct : names.Nodup)
    (reading : String → String)
    (located : ∀ name ∈ names, ∃ offset text, source.HoldsText offset text ∧ name = reading text) :
    names.length ≤ source.size := by
  have among : names ⊆ (List.range source.size).map fun offset =>
      reading (source.textFrom offset) := by
    intro name member
    obtain ⟨offset, text, held, rfl⟩ := located name member
    rw [held.eq_textFrom]
    exact List.mem_map.mpr ⟨offset, List.mem_range.mpr held.inside, rfl⟩
  have fewer := (List.subperm_of_subset distinct among).length_le
  simpa using fewer

end Source

end SharedObject
