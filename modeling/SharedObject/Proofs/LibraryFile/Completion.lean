import SharedObject.Proofs.Format.Completion
import SharedObject.Proofs.LibraryFile.CutOff

/-!
# Files that are called truncated

A file in which no format is detected is called truncated, or is of no format.  It should be
called truncated only if it could be completed.  It is, but for the files that are cut off
behind a byte which no file of the format has there.
-/

namespace SharedObject

open Scan

namespace LibraryFile

theorem misfit_of_undetected {source : Source}
    (undetected : outcome (Format.firstDetected Format.probeOrder) source {} = .ok none)
    (format : Format) : ¬format.fits source = true := by
  rw [Format.outcome_firstDetected, Except.ok.injEq, List.find?_eq_none] at undetected
  exact undetected format (Format.mem_probeOrder format)

theorem ofSource_of_spoiled {source : Source} (sound : source.fault = none)
    (known : source.lengthFault = none)
    (undetected : outcome (Format.firstDetected Format.probeOrder) source {} = .ok none)
    (spoiled : Format.Spoiled source) (nativeOnly : Bool) :
    (ofSource source nativeOnly).outcome = .error (.malformed .truncatedHeader) := by
  rw [ofSource_of_misfit sound known (misfit_of_undetected undetected),
    if_pos (Format.cutOff_of_spoiled spoiled)]

/-- A file in which no format is detected is called truncated exactly when it is spoiled, or
when it can be completed and is neither empty nor a DOS program.  Otherwise it is of no
format.  What is spoiled cannot be completed. -/
theorem ofSource_undetected (bytes : Array UInt8) (chunk : Nat → Option Nat) (nativeOnly : Bool)
    (undetected : outcome (Format.firstDetected Format.probeOrder) { bytes, chunk } {} = .ok none) :
    let source : Source := { bytes, chunk }
    let opening := (ofSource source nativeOnly).outcome
    (opening = .error (.malformed .truncatedHeader) ↔
      Format.Spoiled source ∨
        0 < source.size ∧ ¬Pe.IsStub source ∧ Format.Completable source) ∧
    (opening ≠ .error (.malformed .truncatedHeader) →
      opening = .error (.reported .unsupportedFormat)) ∧
    (Format.Spoiled source → ¬Format.Completable source) := by
  intro source opening
  have misfit : ∀ format : Format, ¬format.fits source = true := misfit_of_undetected undetected
  have refused : opening = _ := ofSource_of_misfit rfl rfl misfit
  rw [← Format.cutOff_iff rfl misfit, refused]
  refine ⟨?_, ?_, Format.not_completable_of_spoiled⟩
  · by_cases cut : Format.CutOff source <;> simp [cut]
  · by_cases cut : Format.CutOff source <;> simp [cut]

/-- Two bytes of the magic number of an ELF file can be completed, and are called truncated. -/
theorem ofSource_undetected_of_magic :
    let source : Source := { bytes := #[0x7F, 0x45] }
    outcome (Format.firstDetected Format.probeOrder) source {} = .ok none ∧
      Format.Completable source ∧
      (ofSource source false).outcome = .error (.malformed .truncatedHeader) := by
  intro source
  have undetected : outcome (Format.firstDetected Format.probeOrder) source {} = .ok none := by
    decide +kernel
  have completable : Format.Completable source :=
    ⟨#[0x4C, 0x46, 1, 0], .elf .bits32, by decide +kernel⟩
  obtain ⟨truncated, _⟩ := ofSource_undetected source.bytes source.chunk false undetected
  exact ⟨undetected, completable, truncated.mpr (.inr ⟨by decide, by decide, completable⟩)⟩

/-- The magic number of an ELF file with a class byte of no class. -/
def classlessSample : Array UInt8 :=
  #[0x7F, 0x45, 0x4C, 0x46, 7]

/-- A PE file up to the first byte of the first field of the optional header, which is that of
neither width. -/
def foreignSample : Array UInt8 :=
  List.toArray <|
    [0x4D, 0x5A] ++ List.replicate 58 0 ++ [64, 0, 0, 0] ++ [0x50, 0x45, 0, 0] ++
      List.replicate 20 0 ++ [7]

theorem spoiled_classlessSample : Format.Spoiled { bytes := classlessSample } := by
  refine .inl ⟨by decide, by decide, ?_⟩
  intro width
  cases width <;> decide

theorem spoiled_foreignSample : Format.Spoiled { bytes := foreignSample } := by
  refine .inr ⟨by decide, by decide, by decide, by decide, ?_⟩
  intro width
  cases width <;> decide

/-- Both are called truncated, and no format is detected in any file that starts with one of
them. -/
theorem truncated_of_spoiled :
    (outcome (Format.firstDetected Format.probeOrder) { bytes := classlessSample } {} = .ok none ∧
      (ofSource { bytes := classlessSample } false).outcome =
        .error (.malformed .truncatedHeader) ∧
      ¬Format.Completable { bytes := classlessSample }) ∧
    outcome (Format.firstDetected Format.probeOrder) { bytes := foreignSample } {} = .ok none ∧
      (ofSource { bytes := foreignSample } false).outcome =
        .error (.malformed .truncatedHeader) ∧
      ¬Format.Completable { bytes := foreignSample } := by
  have classless : outcome (Format.firstDetected Format.probeOrder)
      { bytes := classlessSample } {} = .ok none := by
    decide +kernel
  have foreign : outcome (Format.firstDetected Format.probeOrder)
      { bytes := foreignSample } {} = .ok none := by
    decide +kernel
  constructor
  · exact ⟨classless, ofSource_of_spoiled rfl rfl classless spoiled_classlessSample false,
      Format.not_completable_of_spoiled spoiled_classlessSample⟩
  · exact ⟨foreign, ofSource_of_spoiled rfl rfl foreign spoiled_foreignSample false,
      Format.not_completable_of_spoiled spoiled_foreignSample⟩

end LibraryFile

end SharedObject
