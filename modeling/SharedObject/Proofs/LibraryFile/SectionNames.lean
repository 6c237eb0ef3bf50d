import SharedObject.Proofs.LibraryFile.CutOff
import SharedObject.Proofs.LibraryFile.Independence
import SharedObject.Proofs.Pe.SectionName

/-!
# The section names of a PE file

What a PE file lists as its sections follows from the bytes of its section table and, where
a name refers to it, of its string table.
-/

namespace SharedObject

open Scan

namespace LibraryFile

/-- The headers of a PE file that opened were read as such. -/
theorem parse_of_pe {source : Source} {nativeOnly : Bool} {file : LibraryFile} {image : Pe.Image}
    (opened : (ofSource source nativeOnly).outcome = .ok file) (isPe : file.image = .pe image) :
    ∃ width start moved, Pe.parse width source start = .ok image moved := by
  obtain ⟨_, _, start, parsed⟩ := fits_of_opened opened
  rw [isPe] at parsed
  rcases Image.parse_cases parsed with ⟨_, _, _, other, _⟩ | ⟨width, _, _, same, read⟩ |
    ⟨_, _, _, other, _⟩
  · cases other
  · cases same
    exact ⟨width, start, file.cursor, read⟩
  · cases other

/-- A PE file that opens lists as many sections as its headers declare, whatever it is asked
before.  With a string table, the name of a section is a text in it exactly when the bytes
before the first NUL of its field are a slash and a decimal number, which may have a plus
sign; the text starts at this number.  Otherwise the name is the text of these bytes. -/
theorem ask_sections_named (source : Source) (nativeOnly : Bool) {file : LibraryFile}
    {image : Pe.Image} (opened : (ofSource source nativeOnly).outcome = .ok file)
    (isPe : file.image = .pe image) (earlier : List Query) :
    ∃ names, ((file.after earlier).ask .sections).1 = .ok names ∧
      names.length = Pe.sectionCount source ∧
      ∀ index name, names[index]? = some name →
        Pe.IsNameOf source (Pe.stringTable source) (Pe.nameField source index) name := by
  obtain ⟨width, start, moved, parsed⟩ := parse_of_pe opened isPe
  have named := Pe.names_of_parse parsed
  have count := named.length_eq
  rw [List.length_range] at count
  refine ⟨image.sections.map (·.name), ?_, by rw [List.length_map, count], ?_⟩
  · rw [ask_after, ask_eq_outcome, isPe]
    rfl
  · intro index name given
    rw [List.getElem?_map, Option.map_eq_some_iff] at given
    obtain ⟨part, found, rfl⟩ := given
    obtain ⟨inside, rfl⟩ := List.getElem?_eq_some_iff.mp found
    have among : index < (List.range (Pe.sectionCount source)).length := by
      rw [List.length_range]
      omega
    simpa using named.get among inside

/-- A PE file with one section, whose field is a slash, a plus sign and a number, and a string
table. -/
def signSample : Array UInt8 :=
  List.toArray <|
    [0x4D, 0x5A] ++ List.replicate 58 0 ++ [64, 0, 0, 0] ++ [0x50, 0x45, 0, 0] ++
      [0x4C, 1, 1, 0] ++ List.replicate 4 0 ++ [224, 0, 0, 0] ++ List.replicate 4 0 ++
      [96, 0, 0, 0] ++ [0x0B, 1] ++ List.replicate 94 0 ++
      [0x2F, 0x2B, 0x34, 0, 0, 0, 0, 0] ++ List.replicate 32 0 ++ [6, 0, 0, 0] ++ [0x78, 0]

theorem signSample_opened :
    ∃ file, (ofSource { bytes := signSample } false).outcome = .ok file ∧
      file.image = .pe ⟨.bits32, [⟨"x", 0, 0, 0, 0⟩], 0⟩ := by
  apply exists_opened
  decide +kernel

/-- The number 4 leads to the text behind the length of the string table. -/
theorem ask_sections_named_of_sign :
    ∃ file, (ofSource { bytes := signSample } false).outcome = .ok file ∧
      (file.ask .sections).1 = .ok ["x"] ∧ Source.HoldsText { bytes := signSample } 228 "x" := by
  obtain ⟨file, opened, image⟩ := signSample_opened
  obtain ⟨names, listed, _, named⟩ := ask_sections_named _ false opened image []
  have given : (file.ask .sections).1 = .ok ["x"] := by
    rw [ask_eq_outcome, image]
    rfl
  obtain rfl := Except.ok.inj (listed.symm.trans given)
  have isName := named 0 "x" rfl
  have decimal : Pe.IsDecimal [0x34] 4 := by
    constructor
    · exact List.cons_ne_nil _ _
    · exact List.forall_mem_singleton.mpr (by decide)
    · rfl
  have text := isName.referred [0x2B] (by decide) 4 (by decide +kernel)
    ⟨[0x34], by decide +kernel, decimal⟩
  have place : Pe.stringTable { bytes := signSample } + 4 = 228 := by decide +kernel
  rw [place] at text
  exact ⟨file, opened, given, text⟩

/-- The bytes of the field are no slash and decimal number, there is a string table, and yet
the name is not the text of the field. -/
theorem reference_accepted_of_sign :
    ∃ file, (ofSource { bytes := signSample } false).outcome = .ok file ∧
      (file.ask .sections).1 = .ok ["x"] ∧ Pe.stringTable { bytes := signSample } ≠ 0 ∧
      (∀ number, ¬Pe.RefersTo []
        ((Pe.nameField { bytes := signSample } 0).takeWhile (· ≠ 0)) number) ∧
      decodeLossy ((Pe.nameField { bytes := signSample } 0).takeWhile (· ≠ 0)) = "/+4" := by
  obtain ⟨file, opened, image⟩ := signSample_opened
  have field : (Pe.nameField { bytes := signSample } 0).takeWhile (· ≠ 0) =
      [0x2F, 0x2B, 0x34] := by decide +kernel
  rw [field]
  refine ⟨file, opened, ?_, by decide +kernel, ?_, by decide⟩
  · rw [ask_eq_outcome, image]
    rfl
  · rintro number ⟨digits, same, decimal⟩
    obtain rfl : digits = [0x2B, 0x34] := by simpa using same.symm
    have plus := decimal.decimal 0x2B (by simp)
    exact absurd plus (by decide)

end LibraryFile

end SharedObject
