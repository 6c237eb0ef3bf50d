import SharedObject.Proofs.LibraryFile.Extension

/-!
# The order of the probes is a matter of taste

A probe starts afresh: what it finds depends on the source and not on the position and the
byte order that earlier probes have left.  As at most one probe succeeds, a file is taken
for what it is in whatever order the formats are tried, and is refused for the same reason
when it is of none of them.
-/

namespace SharedObject

open Scan

variable {source : Source}

namespace Scan

variable {α : Type} {scan : Scan α}

theorem Settled.recover (settled : Settled scan) (fallback : α) :
    Settled (recover scan fallback) := by
  intro source cursor other
  rw [outcome_recover, outcome_recover, settled source cursor other]

theorem settled_size : Settled size :=
  fun _ _ _ => rfl

/-- Two scans of the same outcome both answer, or both fail. -/
theorem results_of_outcome_eq {other : Scan α} {cursor start : Cursor}
    (same : outcome scan source cursor = outcome other source start) :
    (∃ value moved elsewhere, scan source cursor = .ok value moved ∧
      other source start = .ok value elsewhere) ∨
    ∃ failure moved elsewhere, scan source cursor = .error failure moved ∧
      other source start = .error failure elsewhere := by
  unfold outcome at same
  cases here : scan source cursor with
  | ok value moved =>
      rw [here] at same
      cases there : other source start with
      | ok found elsewhere =>
          rw [there] at same
          cases same
          exact .inl ⟨value, moved, elsewhere, rfl, rfl⟩
      | error failure elsewhere =>
          rw [there] at same
          cases same
  | error failure moved =>
      rw [here] at same
      cases there : other source start with
      | ok found elsewhere =>
          rw [there] at same
          cases same
      | error found elsewhere =>
          rw [there] at same
          cases same
          exact .inr ⟨failure, moved, elsewhere, rfl, rfl⟩

theorem Restarts.fail (failure : Failure) : Restarts (throw failure : Scan α) :=
  ⟨.fail failure, nofun⟩

end Scan

/-! ## Cut-off files -/

theorem Elf.settled_isCutOff : Settled Elf.isCutOff := by
  apply (settled_leading 6).bind
  intro start
  apply (Settled.front _ _).bind
  intro shown
  apply (Settled.front _ _).bind
  intro expected
  exact .pure _

theorem Pe.settled_isCutOff : Settled Pe.isCutOff := by
  apply (settled_leading 2).bind
  intro start
  split
  · exact .pure false
  apply settled_size.bind
  intro size
  dsimp only
  split
  · exact .pure true
  · exact (Restarts.reset .little signaturePointer _).settled

theorem MachO.settled_isCutOff : Settled MachO.isCutOff := by
  apply (settled_leading 4).bind
  intro start
  exact .pure _

namespace Format

theorem settled_isCutOff : Settled isCutOff := by
  apply Elf.settled_isCutOff.bind
  intro cut
  split
  · exact .pure true
  apply Pe.settled_isCutOff.bind
  intro cut
  split
  · exact .pure true
  · exact MachO.settled_isCutOff

theorem settled_unrecognized : Settled unrecognized := by
  apply (settled_isCutOff.recover false).bind
  intro cut
  split
  · exact .pure _
  · exact .pure _

/-! ## The first format that fits -/

/-- Among all formats, in any order, the same one is the first to fit. -/
theorem find?_fits_perm {formats others : List Format} (reordered : formats.Perm others) :
    formats.find? (·.fits source) = others.find? (·.fits source) := by
  cases found : others.find? (·.fits source) with
  | none =>
      apply List.find?_eq_none.mpr
      intro format among
      exact List.find?_eq_none.mp found format (reordered.mem_iff.mp among)
  | some format =>
      have fitting : format.fits source = true := by
        simpa using List.find?_some found
      exact find?_fits (reordered.mem_iff.mpr (List.mem_of_find?_eq_some found)) fitting

/-- What a file is recognized as is determined by the first format that fits it. -/
theorem outcome_recognize (formats : List Format) (source : Source) (cursor : Cursor) :
    outcome (recognize formats) source cursor =
      match formats.find? (·.fits source) with
      | some format => .ok format
      | none => outcome (unrecognized >>= fun error => throw (.reported error)) source {} := by
  obtain ⟨moved, detected⟩ :=
    exists_of_outcome_ok (outcome_firstDetected formats source cursor)
  rw [recognize, outcome_bind_of_ok detected]
  cases formats.find? (·.fits source) with
  | some format => rfl
  | none =>
      have refuses : Settled (unrecognized >>= fun error =>
          (throw (.reported error) : Scan Format)) :=
        settled_unrecognized.bind fun error => .fail _
      exact refuses source moved {}

theorem outcome_recognize_perm {formats others : List Format} (reordered : formats.Perm others)
    (cursor other : Cursor) :
    outcome (recognize formats) source cursor = outcome (recognize others) source other := by
  rw [outcome_recognize, outcome_recognize, find?_fits_perm reordered]

theorem restarts_readImage (format : Format) (nativeOnly : Bool) :
    Restarts (format.readImage nativeOnly) := by
  rcases readImage_cases format nativeOnly with parsed | ⟨error, refused⟩
  · rw [parsed]
    exact Image.restarts_parse format
  · rw [refused]
    exact .fail _

end Format

namespace LibraryFile

/-- What comes of opening a file is settled by what the formats tried recognize in it. -/
theorem ofSourceTrying_congr {formats others : List Format}
    (same : outcome (Format.recognize formats) source {} =
      outcome (Format.recognize others) source {}) (nativeOnly : Bool) :
    ofSourceTrying formats source nativeOnly = ofSourceTrying others source nativeOnly := by
  unfold ofSourceTrying
  cases source.lengthFault with
  | some text => rfl
  | none =>
      dsimp only
      rcases results_of_outcome_eq same with
        ⟨format, moved, elsewhere, here, there⟩ | ⟨failure, _, _, here, there⟩
      · -- The headers are read from where the last probe has stopped.
        have restarts := format.restarts_readImage nativeOnly
        rw [here, there]
        dsimp only
        rcases results_of_outcome_eq (restarts.settled source moved elsewhere) with
          ⟨image, last, _, read, _⟩ | ⟨failure, _, _, read, reread⟩
        · rw [read, restarts.answer read]
        · rw [read, reread]
      · rw [here, there]

/-- The order in which the formats are tried makes no difference.  Every probe answers, and
answers the same from every position and in every byte order; no two probes succeed, wherever
they start; so the same format is recognized, or the same error is found, in every order of
the formats, and what comes of opening the file is the same as well. -/
theorem ofSourceTrying_perm (source : Source) {formats : List Format}
    (reordered : formats.Perm Format.probeOrder) (nativeOnly : Bool) :
    (∀ format : Format, ∃ found, ∀ cursor, outcome format.detect source cursor = .ok found) ∧
    (∀ (first second : Format) (cursor other : Cursor),
      outcome first.detect source cursor = .ok true →
        outcome second.detect source other = .ok true → first = second) ∧
    (∀ cursor other, outcome (Format.recognize formats) source cursor =
      outcome (Format.recognize Format.probeOrder) source other) ∧
    ofSourceTrying formats source nativeOnly = ofSource source nativeOnly := by
  refine ⟨?answers, ?exclusive, ?recognizes, ?opens⟩
  case answers =>
    intro format
    exact ⟨format.fits source, fun cursor => Format.outcome_detect format source cursor⟩
  case exclusive =>
    intro first second cursor other detected alsoDetected
    rw [Format.outcome_detect] at detected alsoDetected
    exact Format.fits_unique (Except.ok.inj detected) (Except.ok.inj alsoDetected)
  case recognizes =>
    intro cursor other
    exact Format.outcome_recognize_perm reordered cursor other
  case opens =>
    exact ofSourceTrying_congr (Format.outcome_recognize_perm reordered {} {}) nativeOnly

/-- A big-endian Mach-O file is tried as a Mach-O file first, and as an ELF file last. -/
theorem ofSourceTrying_perm_of_machO :
    let source : Source := { bytes := #[0xFE, 0xED, 0xFA, 0xCE] ++ Array.replicate 24 0 }
    Format.probeOrder.reverse.Perm Format.probeOrder ∧
      Format.probeOrder.reverse.head? = some (.machO .bits64) ∧
      (ofSource source false).outcome.toOption.map (·.format) = some (.machO .bits32) ∧
      ofSourceTrying Format.probeOrder.reverse source false = ofSource source false := by
  intro source
  have reordered : Format.probeOrder.reverse.Perm Format.probeOrder := List.reverse_perm _
  obtain ⟨_, _, _, same⟩ := ofSourceTrying_perm source reordered false
  exact ⟨reordered, rfl, by decide +kernel, same⟩

end LibraryFile

end SharedObject
