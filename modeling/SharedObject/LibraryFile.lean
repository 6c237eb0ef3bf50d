import SharedObject.Elf.Symbol
import SharedObject.Format
import SharedObject.MachO.Symbol
import SharedObject.Pe.Export

/-!
# Inspecting library files

A library file is opened once: its format is detected and its headers are read.
After that it answers any number of queries about its sections and symbols, each
of which reads what it needs from the source.  Answers, and only they, are lists
of names.
-/

namespace SharedObject

/-- The headers of a library file. -/
inductive Image
  | elf (image : Elf.Image)
  | pe (image : Pe.Image)
  | machO (image : MachO.Image)
  deriving DecidableEq, Repr

/-- A question about a library file. -/
inductive Query
  /-- Every section name, in file order. -/
  | sections
  /-- Every exported symbol, once. -/
  | symbols
  /-- Every exported symbol that the first section of the name defines, once. -/
  | sectionSymbols (name : String)
  deriving DecidableEq, Repr

namespace Image

def format : Image → Format
  | .elf image => .elf image.width
  | .pe image => .pe image.width
  | .machO image => .machO image.width

def parse : Format → Scan Image
  | .elf width => return .elf (← Elf.parse width)
  | .pe width => return .pe (← Pe.parse width)
  | .machO width => return .machO (← MachO.parse width)

def answer : Image → Query → Scan (List String)
  | .elf image, .sections => image.sections
  | .elf image, .symbols => image.symbols
  | .elf image, .sectionSymbols name => image.sectionSymbols name
  | .pe image, .sections => image.sectionNames
  | .pe image, .symbols => image.symbols
  | .pe image, .sectionSymbols name => image.sectionSymbols name
  | .machO image, .sections => image.sectionNames
  | .machO image, .symbols => image.symbols
  | .machO image, .sectionSymbols name => image.sectionSymbols name

/-- What is logged about headers that were read; an ELF file without sections is
passed over. -/
def summary (image : Image) : List LogEntry :=
  let kind := image.format.name
  match image with
  | .elf image =>
      if image.headers.isEmpty then []
      else
        let offset := hexText image.tableOffset.toNat
        [⟨.trace, s!"{kind}: {image.headers.size} section headers at {offset}"⟩]
  | .pe image =>
      let directory := hexText image.exportDirectory.toNat
      [⟨.trace, s!"{kind}: {image.sections.length} sections, export directory at RVA {directory}"⟩]
  | .machO image =>
      let sections := image.contents.sections.length
      [⟨.trace, s!"{kind}: {image.commandCount} load commands, {sections} sections"⟩]

end Image

namespace Format

/-- The first of the given formats that the file is of, or the error for a file of
none of them. -/
def recognize (formats : List Format) : Scan Format := do
  match ← firstDetected formats with
  | some format => return format
  | none => throw (.reported (← unrecognized))

/-- With `nativeOnly`, refuse a format that the host cannot load. -/
def permit (format : Format) (nativeOnly : Bool) : Scan Unit :=
  match nativeOnly, format.checkNative with
  | true, .error error => throw (.reported error)
  | true, .ok () | false, _ => return ()

/-- The headers of a file of a format, if the host may load it or that does not
matter. -/
def readImage (format : Format) (nativeOnly : Bool) : Scan Image := do
  format.permit nativeOnly
  Image.parse format

end Format

/-- A library file that was opened: its source, the cursor left by the last read,
and its headers. -/
structure LibraryFile where
  source : Source
  cursor : Cursor
  image : Image

/-- The outcome of opening a library file, with what was logged on the way. -/
structure Opening where
  outcome : Except Failure LibraryFile
  log : List LogEntry

namespace LibraryFile

def format (file : LibraryFile) : Format :=
  file.image.format

/-- Open a source, trying the given formats in their order. -/
def ofSourceTrying (formats : List Format) (source : Source) (nativeOnly : Bool) : Opening :=
  match source.lengthFault with
  | some text => ⟨.error (.reported (.io text)), []⟩
  | none =>
      match Format.recognize formats source {} with
      | .error failure _ => ⟨.error failure, []⟩
      | .ok format cursor =>
          let detected : LogEntry := ⟨.debug, s!"Detected format {format.name}"⟩
          match format.readImage nativeOnly source cursor with
          | .error failure _ => ⟨.error failure, [detected]⟩
          | .ok image cursor => ⟨.ok { source, cursor, image }, detected :: image.summary⟩

/-- Open a source.  With `nativeOnly`, a format that the host cannot load is
refused before the headers are read. -/
def ofSource (source : Source) (nativeOnly : Bool) : Opening :=
  ofSourceTrying Format.probeOrder source nativeOnly

/-- The answer to a query, and the file with its cursor moved. -/
def ask (file : LibraryFile) (query : Query) : Except Failure (List String) × LibraryFile :=
  match file.image.answer query file.source file.cursor with
  | .ok names cursor => (.ok names, { file with cursor })
  | .error failure cursor => (.error failure, { file with cursor })

def askAll (file : LibraryFile) : List Query → List (Except Failure (List String))
  | [] => []
  | query :: queries =>
      let (names, moved) := file.ask query
      names :: moved.askAll queries

/-- A query that is asked leaves the source and the headers as they are. -/
theorem ask_frame (file : LibraryFile) (query : Query) :
    (file.ask query).2.source = file.source ∧ (file.ask query).2.image = file.image := by
  unfold ask
  split <;> exact ⟨rfl, rfl⟩

theorem askAll_cons (file : LibraryFile) (query : Query) (queries : List Query) :
    file.askAll (query :: queries) =
      (file.ask query).1 :: (file.ask query).2.askAll queries :=
  rfl

end LibraryFile

end SharedObject
