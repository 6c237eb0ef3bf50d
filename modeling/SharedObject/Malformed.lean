import SharedObject.Text

/-!
# What can be wrong with a library file

Each constructor is one reason for which a file of a recognised format is refused.
`Malformed.message` is the only place where the reasons are worded.
-/

namespace SharedObject

/-- The parts of a file whose range is checked before they are read. -/
inductive Region
  | sectionHeaderTable
  | sectionNameTable
  | symbolTable
  | stringTable
  | optionalHeader
  | sectionTable
  | exportDirectory
  | exportNameTable
  | exportOrdinalTable
  | exportAddressTable
  | sectionHeaders
  | loadCommands
  deriving DecidableEq, Repr

def Region.name : Region → String
  | .sectionHeaderTable => "section header table"
  | .sectionNameTable => "section name table"
  | .symbolTable => "symbol table"
  | .stringTable => "string table"
  | .optionalHeader => "optional header"
  | .sectionTable => "section table"
  | .exportDirectory => "export directory"
  | .exportNameTable => "export name table"
  | .exportOrdinalTable => "export ordinal table"
  | .exportAddressTable => "export address table"
  | .sectionHeaders => "section headers"
  | .loadCommands => "load commands"

/-- A reason for which the structure of a file is inconsistent or cut short. -/
inductive Malformed
  /-- The file stops before a field that was being read. -/
  | endOfFile
  /-- The file stops before its format could be told. -/
  | truncatedHeader
  | outsideFile (region : Region) (offset size : Nat)
  | offsetPastEnd (offset : Nat)
  | stringOutsideTable (offset : Nat)
  | stringNotTerminated (offset : Nat)
  | unknownDataEncoding (encoding : Nat)
  | sectionHeaderTooSmall (size : Nat)
  | sectionHeaderTableTooLarge
  | sectionNameTableIndex (index : Nat)
  | stringTableIndex (index : Nat)
  | symbolEntryTooSmall (size : Nat)
  | symbolTableRagged (size entrySize : Nat)
  | missingDosHeader
  | missingPeSignature
  | optionalHeaderTooSmall (size : Nat)
  | addressOutsideSections (address : Nat)
  | exportOrdinal (ordinal : Nat)
  | segmentCommandTooSmall (size : Nat)
  | sectionsOverrunCommand (count size : Nat)
  | loadCommandsOverrun
  | loadCommandSize (command size : Nat)
  /-- Any other reason, given by its text. -/
  | described (text : String)
  deriving DecidableEq, Repr

def Malformed.message : Malformed → String
  | .endOfFile => "unexpected end of file"
  | .truncatedHeader => "file is truncated inside its header"
  | .outsideFile region offset size =>
      s!"{region.name} at {hexText offset} (+{hexText size}) is outside the file"
  | .offsetPastEnd offset => s!"offset {hexText offset} is past the end of the file"
  | .stringOutsideTable offset => s!"string offset {hexText offset} is outside its table"
  | .stringNotTerminated offset => s!"string at {hexText offset} is not terminated"
  | .unknownDataEncoding encoding => s!"unknown ELF data encoding {encoding}"
  | .sectionHeaderTooSmall size => s!"section header size {size} is too small"
  | .sectionHeaderTableTooLarge => "section header table is too large"
  | .sectionNameTableIndex index => s!"section name table index {index} is out of range"
  | .stringTableIndex index => s!"string table index {index} is out of range"
  | .symbolEntryTooSmall size => s!"symbol entry size {size} is too small"
  | .symbolTableRagged size entrySize =>
      s!"symbol table size {hexText size} is not a multiple of {entrySize}"
  | .missingDosHeader => "missing DOS header"
  | .missingPeSignature => "missing PE signature"
  | .optionalHeaderTooSmall size => s!"optional header size {size} is too small"
  | .addressOutsideSections address => s!"RVA {hexText address} is not in any section"
  | .exportOrdinal ordinal => s!"export ordinal {ordinal} is out of range"
  | .segmentCommandTooSmall size => s!"segment command size {size} is too small"
  | .sectionsOverrunCommand count size =>
      s!"{count} sections do not fit in a segment command of {size} bytes"
  | .loadCommandsOverrun => "load commands overrun their area"
  | .loadCommandSize command size =>
      s!"load command {hexText command} has invalid size {size}"
  | .described text => text

end SharedObject
