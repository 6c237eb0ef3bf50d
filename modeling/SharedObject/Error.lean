import SharedObject.Malformed
import SharedObject.Path.Basic

/-!
# Errors and log lines

Every failure of the library is one `Error`.  Its `kind` says which of eleven
things went wrong and its `message` is the text shown to the user; a detail that
the system gave is appended unless it is empty.  Beside its answers the library
tells what it does in log lines.
-/

namespace SharedObject

/-- Why a symbol could not be had from a library. -/
inductive LookupFailure
  | libraryNotLoaded
  | nulInName
  | nullAlias
  /-- The system loader refused, with this text. -/
  | reported (text : String)
  deriving DecidableEq, Repr

/-- The text of a lookup failure; the system may give an empty one. -/
def LookupFailure.message : LookupFailure → String
  | .libraryNotLoaded => "library is not loaded"
  | .nulInName => "name contains a nul byte"
  | .nullAlias => "alias is a null pointer"
  | .reported text => text

/-- Everything that can go wrong while loading a library, resolving a symbol or
reading a library file. -/
inductive Error
  /-- A path that cannot be loaded at all. -/
  | invalidPath
  /-- The system loader refused the library. -/
  | loadFailed (path : Path) (detail : String)
  /-- The decorated library file is there but cannot be loaded. -/
  | invalidImage (path : Path) (detail : String)
  /-- The operation needs a loaded library. -/
  | notLoaded
  | symbolNotFound (name : String) (cause : LookupFailure)
  /-- No format recognises the file. -/
  | unsupportedFormat
  /-- The format is recognised but cannot be loaded on this host. -/
  | notNativeFormat (detail : String)
  /-- The format is recognised but the file is inconsistent or cut short. -/
  | malformedBinary (cause : Malformed)
  /-- A null address was given to be located. -/
  | nullAddress
  | addressNotMapped (detail : String)
  /-- A file could not be opened, read or asked about. -/
  | io (detail : String)
  deriving DecidableEq, Repr

/-- The kind of an error, without what it is about. -/
inductive ErrorKind
  | invalidPath
  | loadFailed
  | invalidImage
  | notLoaded
  | symbolNotFound
  | unsupportedFormat
  | notNativeFormat
  | malformedBinary
  | nullAddress
  | addressNotMapped
  | io
  deriving DecidableEq, Repr

namespace Error

def kind : Error → ErrorKind
  | .invalidPath => .invalidPath
  | .loadFailed _ _ => .loadFailed
  | .invalidImage _ _ => .invalidImage
  | .notLoaded => .notLoaded
  | .symbolNotFound _ _ => .symbolNotFound
  | .unsupportedFormat => .unsupportedFormat
  | .notNativeFormat _ => .notNativeFormat
  | .malformedBinary _ => .malformedBinary
  | .nullAddress => .nullAddress
  | .addressNotMapped _ => .addressNotMapped
  | .io _ => .io

/-- A detail between two texts, or nothing when there is no detail. -/
private def detailBetween (opening detail closing : String) : String :=
  if detail.isEmpty then "" else opening ++ detail ++ closing

def message : Error → String
  | .invalidPath => "Invalid path"
  | .loadFailed path detail =>
      s!"failed to load [{path.text}]" ++ detailBetween ": " detail ""
  | .invalidImage path detail =>
      s!"[{path.text}] exists but is not a loadable image" ++ detailBetween ": " detail ""
  | .notLoaded => "library is not loaded"
  | .symbolNotFound name cause =>
      s!"can not find symbol:{name}" ++ detailBetween " (" cause.message ")"
  | .unsupportedFormat => "Unsupported binary format"
  | .notNativeFormat detail => s!"Not native format: {detail}"
  | .malformedBinary cause => s!"Malformed binary: {cause.message}"
  | .nullAddress => "Null address"
  | .addressNotMapped detail => s!"Address not mapped: {detail}"
  | .io detail => s!"I/O error: {detail}"

end Error

inductive LogLevel
  | warn
  | info
  | debug
  | trace
  deriving DecidableEq, Repr

def LogLevel.name : LogLevel → String
  | .warn => "WARN"
  | .info => "INFO"
  | .debug => "DEBUG"
  | .trace => "TRACE"

structure LogEntry where
  level : LogLevel
  message : String
  deriving DecidableEq, Repr

def LogEntry.line (entry : LogEntry) : String :=
  s!"{entry.level.name} {entry.message}"

end SharedObject
