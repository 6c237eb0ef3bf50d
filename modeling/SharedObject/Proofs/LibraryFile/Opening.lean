import Mathlib.Control.Monad.Basic
import SharedObject.LibraryFile

/-!
# Files that open

What it takes for a source to open and for a query to be answered, and how an opened file
is had from what is computed of it.  The sample at the end is a file that opens and has
something to list.
-/

namespace SharedObject

variable {source : Source}

namespace LibraryFile

section Views

variable {nativeOnly : Bool} {α : Type} {view : LibraryFile → α} {shown : α}

theorem view_of_opened {file : LibraryFile}
    (opened : (ofSource source nativeOnly).outcome = .ok file)
    (seen : (ofSource source nativeOnly).outcome.toOption.map view = some shown) :
    view file = shown := by
  rw [opened] at seen
  exact Option.some.inj seen

/-- A source of which a property is shown once it is opened does open. -/
theorem exists_opened
    (seen : (ofSource source nativeOnly).outcome.toOption.map view = some shown) :
    ∃ file, (ofSource source nativeOnly).outcome = .ok file ∧ view file = shown := by
  cases opened : (ofSource source nativeOnly).outcome with
  | error failure =>
      rw [opened] at seen
      cases seen
  | ok file => exact ⟨file, rfl, view_of_opened opened seen⟩

end Views

/-- A source opens when its length is known, a format is recognized and the headers
can be read. -/
theorem ofSource_ok {nativeOnly : Bool} {file : LibraryFile} :
    (ofSource source nativeOnly).outcome = .ok file ↔
      source.lengthFault = none ∧ file.source = source ∧ ∃ format cursor,
        Format.recognize Format.probeOrder source {} = .ok format cursor ∧
          format.readImage nativeOnly source cursor = .ok file.image file.cursor := by
  unfold ofSource ofSourceTrying
  cases source.lengthFault with
  | some text => simp
  | none =>
      dsimp only
      cases Format.recognize Format.probeOrder source {} with
      | error failure stopped => simp
      | ok format cursor =>
          dsimp only
          constructor
          · intro opened
            split at opened
            · cases opened
            · rename_i image moved read
              cases opened
              exact ⟨rfl, rfl, format, cursor, rfl, read⟩
          · rintro ⟨_, rfl, _, _, same, read⟩
            cases same
            rw [read]

theorem ask_ok {file : LibraryFile} {query : Query} {names : List String} :
    (file.ask query).1 = .ok names ↔
      ∃ moved, file.image.answer query file.source file.cursor = .ok names moved := by
  unfold ask
  cases file.image.answer query file.source file.cursor with
  | ok answered moved => simp
  | error failure stopped => simp

/-- A Mach-O file with one section and one symbol in it. -/
def sectionSample : Array UInt8 :=
  List.toArray <|
    [0xCE, 0xFA, 0xED, 0xFE] ++ List.replicate 12 0 ++ [2, 0, 0, 0, 148, 0, 0, 0, 0, 0, 0, 0] ++
      [1, 0, 0, 0, 124, 0, 0, 0] ++ List.replicate 40 0 ++ [1, 0, 0, 0, 0, 0, 0, 0] ++
      [0x74] ++ List.replicate 15 0 ++ [0x54] ++ List.replicate 51 0 ++
      [2, 0, 0, 0, 24, 0, 0, 0, 176, 0, 0, 0, 1, 0, 0, 0, 188, 0, 0, 0, 4, 0, 0, 0] ++
      [1, 0, 0, 0, 0x0F, 1, 0, 0, 0, 0, 0, 0] ++ [0, 0x5F, 0x66, 0]

end LibraryFile

end SharedObject
