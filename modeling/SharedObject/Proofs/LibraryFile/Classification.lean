import SharedObject.Proofs.LibraryFile.CutOff
import SharedObject.Proofs.LibraryFile.Defects
import SharedObject.Proofs.LibraryFile.Queries

/-!
# What files that can be read are refused for

When all bytes of a file can be read, nothing that is reported of it is about reading.
The file is of no format, or it is malformed, and once it is open it can only turn out to
be malformed.  Whether the host has to be able to load the file makes a difference for
the formats of other hosts and for no other file.
-/

namespace SharedObject

open Scan

variable {source : Source}

namespace Image

theorem blames_parse (format : Format) (sound : source.fault = none)
    (bounded : source.size < 2 ^ 63) : Blames source (Image.parse format) :=
  (regular_parse format).blames sound (ensures_parse format bounded)

theorem blames_answer {image : Image} (consistent : image.Sound source.size)
    (sound : source.fault = none) (bounded : source.size < 2 ^ 63) (query : Query) :
    Blames source (image.answer query) :=
  (image.regular_answer query).blames sound (ensures_answer consistent query bounded)

end Image

namespace Format

theorem readImage_false (format : Format) : format.readImage false = Image.parse format :=
  pure_bind _ _

/-- Formats of other hosts are refused whatever the headers are. -/
theorem readImage_of_refused {format : Format} {error : Error}
    (refused : format.checkNative = .error error) :
    format.readImage true = throw (.reported error) := by
  unfold readImage permit
  rw [refused]
  rfl

theorem readImage_of_permitted {format : Format} (permitted : format.checkNative = .ok ()) :
    format.readImage true = format.readImage false := by
  unfold readImage permit
  rw [permitted]

end Format

namespace LibraryFile

variable {nativeOnly : Bool}

/-- Where every byte can be read, opening fails for want of a format or because the file is
malformed. -/
theorem refused_or_malformed (sound : source.fault = none) (known : source.lengthFault = none)
    (bounded : source.size < 2 ^ 63) {failure : Failure}
    (stopped : (ofSource source false).outcome = .error failure) :
    (failure = .reported .unsupportedFormat ∧ ∀ format : Format, format.fits source = false) ∨
      ∃ cause, failure = .malformed cause := by
  cases found : Format.probeOrder.find? (·.fits source) with
  | none =>
      have misfit (format : Format) : ¬format.fits source = true :=
        List.find?_eq_none.mp found format (Format.mem_probeOrder format)
      rw [ofSource_of_misfit sound known misfit] at stopped
      cases stopped
      by_cases cut : Format.CutOff source
      · exact .inr ⟨.truncatedHeader, by rw [if_pos cut]⟩
      · exact .inl ⟨by rw [if_neg cut], fun format => Bool.eq_false_iff.mpr (misfit format)⟩
  | some format =>
      have fitting : format.fits source = true := by
        simpa using List.find?_some found
      obtain ⟨cursor, opening⟩ := outcome_ofSource_of_fits known fitting false
      rw [stopped, Format.readImage_false] at opening
      exact .inr ((Image.blames_parse format sound bounded).of_outcome opening.symm)

theorem malformed_of_answer (sound : source.fault = none) (bounded : source.size < 2 ^ 63)
    {file : LibraryFile} (opened : (ofSource source nativeOnly).outcome = .ok file)
    {query : Query} {failure : Failure} (stopped : (file.ask query).1 = .error failure) :
    ∃ cause, failure = .malformed cause := by
  obtain ⟨_, same, format, _, _, read⟩ := ofSource_ok.mp opened
  have consistent := (Format.ensures_readImage format nativeOnly bounded).of_ok read
  rw [ask_eq_outcome, same] at stopped
  exact (Image.blames_answer consistent sound bounded query).of_outcome stopped

theorem ofSource_of_refused (known : source.lengthFault = none) {format : Format}
    (fitting : format.fits source = true) {error : Error}
    (refused : format.checkNative = .error error) :
    (ofSource source true).outcome = .error (.reported error) := by
  obtain ⟨cursor, opening⟩ := outcome_ofSource_of_fits known fitting true
  rw [Format.readImage_of_refused refused] at opening
  cases opened : (ofSource source true).outcome with
  | ok file =>
      rw [opened] at opening
      cases opening
  | error failure =>
      rw [opened] at opening
      cases opening
      rfl

theorem ofSource_of_permitted
    (permitted : ∀ format : Format, format.fits source = true → format.checkNative = .ok ()) :
    ofSource source true = ofSource source false := by
  unfold ofSource ofSourceTrying
  cases recognized : Format.recognize Format.probeOrder source {} with
  | error failure stopped => rfl
  | ok format cursor =>
      have fitting : format.fits source = true := by
        simpa using List.find?_some (Format.recognize_ok recognized)
      simp only [Format.readImage_of_permitted (permitted format fitting)]

/-- Errors about bytes that can all be read are classified.  A file is only refused when
no format is detected in it or when it is malformed, and what is asked of an open file can
only fail because it is malformed.  When the host has to be able to load the file, PE and
Mach-O files are refused as such, and every other file is opened, or refused, as it would
be otherwise.  An array of bytes in memory has less than `2 ^ 63` of them. -/
theorem ofSource_classified (bytes : Array UInt8) (chunk : Nat → Option Nat)
    (bounded : bytes.size < 2 ^ 63) :
    let source : Source := { bytes, chunk }
    let isForeign : Prop := ∃ width cursor,
      outcome (Format.pe width).detect source cursor = .ok true ∨
        outcome (Format.machO width).detect source cursor = .ok true
    (∀ failure, (ofSource source false).outcome = .error failure →
        (failure = .reported .unsupportedFormat ∧
            ∀ format cursor, outcome (Format.detect format) source cursor = .ok false) ∨
          ∃ cause, failure = .malformed cause) ∧
      (∀ nativeOnly file, (ofSource source nativeOnly).outcome = .ok file →
        ∀ queries, ∀ failure, .error failure ∈ file.askAll queries →
          ∃ cause, failure = .malformed cause) ∧
      (isForeign → (ofSource source true).outcome =
        .error (.reported (.notNativeFormat "not an ELF binary"))) ∧
      (¬isForeign → ofSource source true = ofSource source false) := by
  intro source isForeign
  have sound : source.fault = none := rfl
  have known : source.lengthFault = none := rfl
  refine ⟨?refused, ?answered, ?foreign, ?native⟩
  case refused =>
    intro failure stopped
    rcases refused_or_malformed sound known bounded stopped with ⟨same, unfit⟩ | malformed
    · exact .inl ⟨same, fun format cursor => by rw [Format.outcome_detect, unfit]⟩
    · exact .inr malformed
  case answered =>
    intro nativeOnly file opened queries failure member
    rw [askAll_eq_map] at member
    obtain ⟨query, _, stopped⟩ := List.mem_map.mp member
    exact malformed_of_answer sound bounded opened stopped
  case foreign =>
    rintro ⟨width, cursor, detected | detected⟩
    · rw [Format.outcome_detect] at detected
      exact ofSource_of_refused known (Except.ok.inj detected) rfl
    · rw [Format.outcome_detect] at detected
      exact ofSource_of_refused known (Except.ok.inj detected) rfl
  case native =>
    intro notForeign
    apply ofSource_of_permitted
    intro format fitting
    have detected : outcome format.detect source {} = .ok true := by
      rw [Format.outcome_detect, fitting]
    cases format with
    | elf width => rfl
    | pe width => exact absurd ⟨width, {}, .inl detected⟩ notForeign
    | machO width => exact absurd ⟨width, {}, .inr detected⟩ notForeign

/-- A Mach-O file whose symbol table lies outside of it opens and is then found to be
malformed.  It is not for a host of ELF files. -/
theorem ofSource_classified_of_machO :
    let bytes : Array UInt8 :=
      #[0xCE, 0xFA, 0xED, 0xFE] ++ Array.replicate 12 0 ++ #[1, 0, 0, 0, 24, 0, 0, 0, 0, 0, 0, 0] ++
        #[2, 0, 0, 0, 24, 0, 0, 0, 0, 1, 0, 0, 1, 0, 0, 0, 0, 1, 0, 0, 1, 0, 0, 0]
    bytes.size < 2 ^ 63 ∧
      (∃ file, (ofSource { bytes } false).outcome = .ok file ∧
        ∃ cause, (file.ask .symbols).1 = .error (.malformed cause)) ∧
      (ofSource { bytes } true).outcome =
        .error (.reported (.notNativeFormat "not an ELF binary")) := by
  intro bytes
  have bounded : bytes.size < 2 ^ 63 := by decide
  have detected : outcome (Format.machO .bits32).detect { bytes } {} = .ok true := by
    rw [Format.outcome_detect]
    decide +kernel
  have fails : (ofSource { bytes } false).outcome.toOption.map
      (fun file => (file.ask .symbols).1.isOk) = some false := by
    decide +kernel
  obtain ⟨_, answered, foreign, _⟩ := ofSource_classified bytes (fun _ => none) bounded
  refine ⟨bounded, ?_, foreign ⟨.bits32, {}, .inr detected⟩⟩
  obtain ⟨file, opened, unanswered⟩ := exists_opened fails
  cases asked : (file.ask .symbols).1 with
  | ok names =>
      rw [asked] at unanswered
      cases unanswered
  | error failure =>
      have member : .error failure ∈ file.askAll [.symbols] := by
        rw [askAll_eq_map, ← asked]
        exact List.mem_singleton_self _
      obtain ⟨cause, rfl⟩ := answered false file opened [.symbols] failure member
      exact ⟨file, opened, cause, asked⟩

end LibraryFile

end SharedObject
