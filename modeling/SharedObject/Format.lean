import SharedObject.Elf.Header
import SharedObject.MachO.Header
import SharedObject.Pe.Header

/-!
# Formats of library files

A library file is an ELF, PE or Mach-O image of one of two widths.  The format of
a file is found by looking at its headers; at most one format fits, so the order
in which the formats are tried is a matter of taste.
-/

namespace SharedObject

inductive Format
  | elf (width : Width)
  | pe (width : Width)
  | machO (width : Width)
  deriving DecidableEq, Repr

namespace Format

/-- The formats in the order in which they are tried. -/
def probeOrder : List Format :=
  [.elf .bits32, .elf .bits64, .pe .bits32, .pe .bits64, .machO .bits32, .machO .bits64]

def width : Format → Width
  | .elf width | .pe width | .machO width => width

def is64Bit (format : Format) : Bool :=
  format.width == .bits64

/-- The name of a format; that of a wide PE file is special. -/
def name : Format → String
  | .elf width => s!"ELF{width.bits}"
  | .pe .bits32 => "PE32"
  | .pe .bits64 => "PE32+"
  | .machO width => s!"Mach-O{width.bits}"

/-- Refuses the formats that the host, a 64-bit system of ELF files, cannot load. -/
def checkNative : Format → Except Error Unit
  | .elf _ => .ok ()
  | .pe _ | .machO _ => .error (.notNativeFormat "not an ELF binary")

/-- Whether the headers of the file, which have to be there, are those of a format. -/
def hasIdentity : Format → Scan Bool
  | .elf width => Elf.hasIdentity width
  | .pe width => Pe.hasIdentity width
  | .machO width => MachO.hasIdentity width

/-- Whether the headers of the file are those of a format.  A file whose headers
cannot be read is not of the format. -/
def detect (format : Format) : Scan Bool :=
  Scan.recover format.hasIdentity false

/-- The first of the given formats that the file is of. -/
def firstDetected (formats : List Format) : Scan (Option Format) :=
  formats.findM? detect

/-- Whether the file starts like one of the formats and stops too early to tell. -/
def isCutOff : Scan Bool := do
  if ← Elf.isCutOff then
    return true
  if ← Pe.isCutOff then
    return true
  MachO.isCutOff

/-- The error for a file that no format fits.  Where even that cannot be told
apart, the file is simply of no format. -/
def unrecognized : Scan Error := do
  if ← Scan.recover isCutOff false then
    return .malformedBinary .truncatedHeader
  else
    return .unsupportedFormat

end Format

end SharedObject
