import SharedObject.SharedLibrary

/-!
# The flags that the system loader is told

Every flag of a load mode is a bit of its own, so that a mode has a flag after a change
exactly when it had it before or the change has it.  What the loader is told when a
library is loaded follows from the flags of the mode that was asked for.
-/

namespace SharedObject

namespace LoadMode

variable (mode other : LoadMode) {flag : LoadMode}

/-- A flag that is one bit of the word. -/
def IsSingle (flag : LoadMode) : Prop :=
  ∃ place < 32, flag.bits = .ofBitVec (BitVec.twoPow 32 place)

theorem isSingle_of_mem : ∀ flag ∈ named.map (·.2), flag ≠ empty → flag.IsSingle := by
  unfold IsSingle
  decide

/-- A mode has a flag when it has its bit. -/
theorem contains_of_bit {place : Nat} (inside : place < 32)
    (bit : flag.bits = .ofBitVec (BitVec.twoPow 32 place)) :
    mode.contains flag = mode.bits.toBitVec.getLsbD place := by
  have nonzero : 0#32 ≠ BitVec.twoPow 32 place := by
    intro same
    have cleared := congrArg (·.getLsbD place) same
    simp [inside] at cleared
  rw [contains, bit, Bool.eq_iff_iff, beq_iff_eq, ← UInt32.toBitVec_inj, UInt32.toBitVec_and,
    UInt32.toBitVec_ofBitVec, BitVec.and_twoPow]
  cases mode.bits.toBitVec.getLsbD place <;> simp [nonzero]

theorem contains_union (single : flag.IsSingle) :
    (mode.union other).contains flag = (mode.contains flag || other.contains flag) := by
  obtain ⟨place, inside, bit⟩ := single
  simp [contains_of_bit _ inside bit, union]

theorem contains_difference (single : flag.IsSingle) :
    (mode.difference other).contains flag = (mode.contains flag && !other.contains flag) := by
  obtain ⟨place, inside, bit⟩ := single
  simp [contains_of_bit _ inside bit, difference, inside]

/-- Normalizing a mode adds the choices that it leaves open, and nothing else. -/
theorem contains_normalized (single : flag.IsSingle) :
    mode.normalized.contains flag =
      (mode.contains flag || (!mode.contains now && lazy.contains flag) ||
        (!mode.contains globalScope && localScope.contains flag)) := by
  have scope : (mode.union lazy).contains globalScope = mode.contains globalScope := by
    have single : globalScope.IsSingle := isSingle_of_mem _ (by decide) (by decide)
    have apart : lazy.contains globalScope = false := by decide
    rw [contains_union mode lazy single, apart, Bool.or_false]
  unfold normalized
  cases isNow : mode.contains now with
  | true =>
      cases isGlobal : mode.contains globalScope <;> simp [isGlobal, contains_union _ _ single]
  | false =>
      cases isGlobal : mode.contains globalScope <;>
        simp [scope, isGlobal, contains_union _ _ single]

end LoadMode

namespace SharedLibrary

open LoadMode

theorem contains_loaderMode (mode : LoadMode) {flag : LoadMode} (single : flag.IsSingle) :
    (loaderMode mode).contains flag =
      (mode.contains flag && !searchSystemFolders.contains flag &&
        !appendDecorations.contains flag) := by
  simp [loaderMode, contains_difference _ _ single, contains_union _ _ single, Bool.and_assoc]

/-- Which path is tried does not depend on the choices that a mode leaves open. -/
theorem searchPath_normalized (path : Path) (mode : LoadMode) :
    searchPath path mode.normalized = searchPath path mode := by
  have single : searchSystemFolders.IsSingle := isSingle_of_mem _ (by decide) (by decide)
  have apart : lazy.contains searchSystemFolders = false ∧
      localScope.contains searchSystemFolders = false := by
    decide
  simp [searchPath, contains_normalized _ single, apart]

theorem decorates_normalized (mode : LoadMode) :
    mode.normalized.contains appendDecorations = mode.contains appendDecorations := by
  have single : appendDecorations.IsSingle := isSingle_of_mem _ (by decide) (by decide)
  have apart : lazy.contains appendDecorations = false ∧
      localScope.contains appendDecorations = false := by
    decide
  simp [contains_normalized _ single, apart]

/-- The loader is told to bind lazily or at once or both, and to share or prefer the
symbols of the library if the mode says so. -/
theorem nativeFlags_loaderMode (mode : LoadMode) :
    (loaderMode mode.normalized).nativeFlags =
      (if mode.contains lazy || !mode.contains now then 0x1 else 0) |||
        (if mode.contains now then 0x2 else 0) |||
        (if mode.contains globalScope then 0x100 else 0) |||
        (if mode.contains deepBind then 0x8 else 0) := by
  have told : ∀ flag ∈ [lazy, now, globalScope, deepBind],
      (loaderMode mode.normalized).contains flag =
        (mode.contains flag || (lazy.contains flag && !mode.contains now)) := by
    intro flag member
    have apart : ∀ flag ∈ [lazy, now, globalScope, deepBind],
        flag ∈ named.map (·.2) ∧ flag ≠ empty ∧ searchSystemFolders.contains flag = false ∧
          appendDecorations.contains flag = false ∧ localScope.contains flag = false := by
      decide
    obtain ⟨known, nonempty, notSearching, notDecorating, notLocal⟩ := apart flag member
    have single := isSingle_of_mem flag known nonempty
    simp [contains_loaderMode _ single, contains_normalized _ single, notSearching,
      notDecorating, notLocal, Bool.and_comm]
  have isLazy := told lazy (by decide)
  have isNow := told now (by decide)
  have isGlobal := told globalScope (by decide)
  have isDeep := told deepBind (by decide)
  have apart : lazy.contains lazy = true ∧ lazy.contains now = false ∧
      lazy.contains globalScope = false ∧ lazy.contains deepBind = false := by
    decide
  simp only [apart, Bool.true_and, Bool.false_and, Bool.or_false] at isLazy isNow isGlobal isDeep
  simp only [nativeFlags, List.foldl_cons, List.foldl_nil, isLazy, isNow, isGlobal, isDeep,
    UInt32.or_zero, ite_self]
  cases mode.contains lazy <;> cases mode.contains now <;> cases mode.contains globalScope <;>
    cases mode.contains deepBind <;> decide

end SharedLibrary

end SharedObject
