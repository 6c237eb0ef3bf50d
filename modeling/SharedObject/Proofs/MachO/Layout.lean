import SharedObject.LibraryFile
import SharedObject.Proofs.Scan.Holding

/-!
# The layout of a Mach-O file

A Mach-O file is described by the fields of its header, by its load commands with the
sections that segment commands list, and by the symbols of its last symbol table, with
their names.  Load commands are back to back; the tables are wherever the commands say.
-/

namespace SharedObject

namespace MachO

variable {width : Width}

/-- The header of a file behind its magic number. -/
structure FileRecord where
  processor : UInt32
  subtype : UInt32
  kind : UInt32
  commandsSize : UInt32
  flags : UInt32

/-- A header of some number of load commands, as a file stores it; the magic number
tells the width. -/
def FileRecord.bytes (width : Width) (order : ByteOrder) (commandCount : Nat)
    (record : FileRecord) : List UInt8 :=
  let magicNumber := match width with
    | .bits32 => 0xFEEDFACE
    | .bits64 => 0xFEEDFACF
  order.bytes 4 magicNumber ++ (order.bytes 4 record.processor.toNat ++
    (order.bytes 4 record.subtype.toNat ++ (order.bytes 4 record.kind.toNat ++
    (order.bytes 4 commandCount ++ (order.bytes 4 record.commandsSize.toNat ++
    order.bytes 4 record.flags.toNat)))))

/-- The names of a section and of its segment, padded with NUL bytes unless they fill
their fields. -/
structure SectionRecord where
  sectionField : Vector UInt8 16
  segmentField : Vector UInt8 16

namespace SectionRecord

/-- The part of a field before its first NUL byte. -/
def text (field : Vector UInt8 16) : String :=
  decodeLossy (field.toList.takeWhile (· ≠ 0))

def name (record : SectionRecord) : String :=
  text record.segmentField ++ "," ++ text record.sectionField

end SectionRecord

/-- Where a symbol table and its names are, as a file stores it. -/
def SymbolTable.bytes (order : ByteOrder) (table : SymbolTable) : List UInt8 :=
  order.bytes 4 table.symbols.toNat ++ (order.bytes 4 table.count.toNat ++
    (order.bytes 4 table.strings.toNat ++ order.bytes 4 table.stringsSize.toNat))

/-- A load command with its size, and, of the kinds that matter, with its content. -/
inductive Command
  | segment (size : UInt32) (sections : List SectionRecord)
  | symbolTable (size : UInt32) (table : SymbolTable)
  | other (kind size : UInt32)

namespace Command

def kind (width : Width) : Command → UInt32
  | segment .. =>
      match width with
      | .bits32 => 0x01
      | .bits64 => 0x19
  | symbolTable .. => 0x02
  | other kind _ => kind

def size : Command → UInt32
  | segment size _ | symbolTable size _ | other _ size => size

def sectionNames : Command → List String
  | segment _ sections => sections.map (·.name)
  | symbolTable .. | other .. => []

def table? : Command → Option SymbolTable
  | symbolTable _ table => some table
  | segment .. | other .. => none

/-- The size of a section header: the two names, two words, and fields of four bytes, of
which a 64-bit file has one more. -/
def sectionStride : Width → Nat
  | .bits32 => 68
  | .bits64 => 80

/-- The file has the content of a load command that starts at an offset.  A segment
command has the number of its sections and then, after another field of four bytes, the
section headers. -/
def ContentHeldBy (width : Width) (order : ByteOrder) (source : Source) (offset : Nat) :
    Command → Prop
  | segment size sections =>
      let countOffset := 32 + 4 * Word.size width
      countOffset + 8 + sections.length * sectionStride width ≤ size.toNat ∧
        source.Holds (offset + countOffset) (order.bytes 4 sections.length) ∧
        ∀ index, (among : index < sections.length) →
          source.Holds (offset + (countOffset + 8) + index * sectionStride width)
            (sections[index].sectionField.toList ++ sections[index].segmentField.toList)
  | symbolTable size table =>
      24 ≤ size.toNat ∧ source.Holds (offset + 8) (table.bytes order)
  | other kind size =>
      kind ≠ (segment size []).kind width ∧ kind ≠ 0x02 ∧ 8 ≤ size.toNat

/-- The file has a load command at an offset. -/
def HeldBy (width : Width) (order : ByteOrder) (source : Source) (offset : Nat)
    (command : Command) : Prop :=
  source.Holds offset
      (order.bytes 4 (command.kind width).toNat ++ order.bytes 4 command.size.toNat) ∧
    command.ContentHeldBy width order source offset

end Command

/-- The file has load commands back to back from an offset on, which end at `areaEnd` at
the latest. -/
def CommandsHeldBy (width : Width) (order : ByteOrder) (source : Source) (areaEnd : Nat) :
    (offset : Nat) → List Command → Prop
  | offset, [] => offset ≤ areaEnd
  | offset, command :: commands =>
      command.HeldBy width order source offset ∧
        CommandsHeldBy width order source areaEnd (offset + command.size.toNat) commands

/-- A symbol table entry with all its fields. -/
structure SymbolRecord (width : Width) extends Symbol where
  description : UInt16
  value : Word width

/-- A symbol table entry as a file stores it. -/
def SymbolRecord.bytes (order : ByteOrder) (record : SymbolRecord width) : List UInt8 :=
  (order.bytes 4 record.name.toNat ++ ([record.kind] ++ [record.sectionNumber])) ++
    (order.bytes 2 record.description.toNat ++ record.value.bytes order)

/-- A symbol that is no debugging entry, is external, and is in a section. -/
def Symbol.Exported (symbol : Symbol) : Prop :=
  symbol.kind.toNat / 32 = 0 ∧ symbol.kind.toNat % 2 = 1 ∧ symbol.sectionNumber ≠ 0

instance (symbol : Symbol) : Decidable symbol.Exported :=
  inferInstanceAs (Decidable (_ ∧ _ ∧ _))

/-- A symbol and its name. -/
structure NamedSymbol (width : Width) where
  name : String
  record : SymbolRecord width

/-- The name that the source text of the symbol has. -/
def NamedSymbol.sourceName (symbol : NamedSymbol width) : String :=
  if symbol.name.toList.head? = some '_' then String.ofList symbol.name.toList.tail
  else symbol.name

/-- A Mach-O file of one width. -/
structure Layout (width : Width) where
  order : ByteOrder
  file : FileRecord
  commands : List Command
  symbols : List (NamedSymbol width)

namespace Layout

variable (layout : Layout width)

def sectionNames : List String :=
  layout.commands.flatMap (·.sectionNames)

/-- The symbol table that the last command of that kind locates. -/
def symbolTable : Option SymbolTable :=
  (layout.commands.filterMap (·.table?)).getLast?

/-- What each query about the file lists. -/
def listing : Query → List String
  | .sections => layout.sectionNames
  | .symbols => exportedNames fun _ => True
  | .sectionSymbols name =>
      match layout.sectionNames.idxOf? name with
      | none => []
      | some index => exportedNames fun symbol => symbol.sectionNumber.toNat = index + 1
where
  /-- The names of exported symbols in the order of their entries, each once. -/
  exportedNames (keep : Symbol → Prop) [DecidablePred keep] : List String :=
    (((layout.symbols.filter fun symbol =>
      symbol.record.toSymbol.Exported ∧ keep symbol.record.toSymbol).map (·.sourceName)).filter
        (· ≠ "")).eraseDups

/-- The file has the entries of a symbol table, and the names of the exported ones. -/
structure SymbolsHeldBy (source : Source) (table : SymbolTable) : Prop where
  count : table.count.toNat = layout.symbols.length
  inside : table.symbols.toNat + layout.symbols.length * (8 + Word.size width) ≤ source.size
  entries : ∀ index, (among : index < layout.symbols.length) →
    source.Holds (table.symbols.toNat + index * (8 + Word.size width))
      (layout.symbols[index].record.bytes layout.order)
  stringsInside : table.strings.toNat + table.stringsSize.toNat ≤ source.size
  names : ∀ symbol ∈ layout.symbols, symbol.record.toSymbol.Exported →
    source.HoldsName (table.strings.toNat + symbol.record.name.toNat)
      (table.strings.toNat + table.stringsSize.toNat) symbol.name

/-- Where the load commands start; the header of a 64-bit file is padded. -/
def areaOffset : Width → Nat
  | .bits32 => 28
  | .bits64 => 32

/-- Where the area of the load commands ends. -/
def areaEnd : Nat :=
  areaOffset width + layout.file.commandsSize.toNat

/-- The file has the bytes that are described. -/
structure HeldBy (source : Source) : Prop where
  file : source.Holds 0 (layout.file.bytes width layout.order layout.commands.length)
  areaInside : layout.areaEnd ≤ source.size
  commands : CommandsHeldBy width layout.order source layout.areaEnd (areaOffset width)
    layout.commands
  symbols : ∀ table, layout.symbolTable = some table → layout.SymbolsHeldBy source table
  noSymbols : layout.symbolTable = none → layout.symbols = []

end Layout

end MachO

end SharedObject
