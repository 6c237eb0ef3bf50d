import SharedObject.Loader
import SharedObject.Path.Decoration

/-!
# Shared libraries

A shared library owns at most one handle of the loader.  Loading it closes the
handle it has and then tries, in this order, the decorated name if the mode asks
for it, the path itself, and the running program if that is what the path names.
-/

namespace SharedObject

/-- The owner of at most one handle. -/
structure SharedLibrary where
  handle : Option Handle := none
  deriving DecidableEq, Repr, Inhabited

namespace SharedLibrary

open Loading

def unloaded : SharedLibrary := {}

def isLoaded (library : SharedLibrary) : Bool :=
  library.handle.isSome

/-- The handle of a library as text, that of an unloaded one being null. -/
def nativeText (library : SharedLibrary) : String :=
  hexText (library.handle.elim 0 Handle.value)

def text (library : SharedLibrary) : String :=
  let handle := library.handle.elim "None" fun handle => s!"Some({handle.text})"
  "SharedLibrary \x7b handle: " ++ handle ++ " \x7d"

/-- Close the handle of a library, if it has one. -/
def unload (library : SharedLibrary) : Loading Unit := do
  if let some handle := library.handle then
    record .info s!"Unloading library handle [{handle.text}]"
    close handle

/-- The path that is tried for a given one: a bare name is taken to be in the
current directory unless the mode lets the system search for it. -/
def searchPath (path : Path) (mode : LoadMode) : Path :=
  if mode.contains .searchSystemFolders then path else path.localize

/-- The flags of a mode that the system loader is told. -/
def loaderMode (mode : LoadMode) : LoadMode :=
  mode.difference (.union .searchSystemFolders .appendDecorations)

/-- Open a path and say so. -/
def openLogged (path : Path) (mode : LoadMode) : Loading (Except String Handle) := do
  let outcome ← openPath path mode
  if let .ok _ := outcome then
    record .info s!"Loaded [{path.text}]"
  return outcome

/-- Try the decorated name of a path.  The attempt settles the load when it
succeeds, or when the decorated file exists and the path is not the running
program's. -/
def loadDecorated (path : Path) (mode : LoadMode) :
    Loading (Option (Except Error SharedLibrary)) := do
  let candidate := path.decorate
  match ← openLogged candidate mode with
  | .ok handle => return some (.ok ⟨some handle⟩)
  | .error text =>
      record .debug s!"Decorated load of [{candidate.text}] failed: {text}"
      let system ← read
      if system.pathExists candidate && !system.isProgram path then
        return some (.error (.invalidImage candidate text))
      return none

/-- Try a path itself and then, if it is that of the running program, the program. -/
def loadPlain (path : Path) (mode : LoadMode) : Loading (Except Error SharedLibrary) := do
  match ← openLogged path mode with
  | .ok handle => return .ok ⟨some handle⟩
  | .error text =>
      if (← read).isProgram path then
        record .debug s!"[{path.text}] is the running program, loading it as a library"
        if let .ok handle ← openProgram mode then
          return .ok ⟨some handle⟩
      return .error (.loadFailed path text)

/-- Load a library from a path in place of what it holds.  It is left unloaded when
this fails. -/
def load (library : SharedLibrary) (path : Path) (mode : LoadMode) :
    Loading (Except Error SharedLibrary) := do
  library.unload
  if path.isEmpty then
    clearPending
    return .error .invalidPath
  let mode := mode.normalized
  let path := searchPath path mode
  if mode.contains .appendDecorations then
    if let some settled ← loadDecorated path (loaderMode mode) then
      return settled
  loadPlain path (loaderMode mode)

def openAt (path : Path) (mode : LoadMode) : Loading (Except Error SharedLibrary) :=
  unloaded.load path mode

def openSelf (mode : LoadMode) : Loading (Except Error SharedLibrary) := do
  match ← openProgram mode.normalized with
  | .ok handle =>
      record .info "Loaded the running program itself"
      return .ok ⟨some handle⟩
  | .error text =>
      return .error (.loadFailed ((← read).program.getD Path.empty) text)

def symbolAddress (library : SharedLibrary) (name : String) :
    Loading (Except Error Address) := do
  match library.handle with
  | none => return .error (.symbolNotFound name .libraryNotLoaded)
  | some handle =>
      if name.toList.contains (Char.ofNat 0) then
        return .error (.symbolNotFound name .nulInName)
      record .trace s!"Get the symbol [{name}] in [{handle.text}]"
      match ← lookUp handle name with
      | .ok address => return .ok address
      | .error text => return .error (.symbolNotFound name (.reported text))

def has (library : SharedLibrary) (name : String) : Loading Bool := do
  match ← library.symbolAddress name with
  | .ok _ => return true
  | .error _ => return false

/-- The address of the object that an exported pointer variable points to. -/
def aliasAddress (library : SharedLibrary) (name : String) :
    Loading (Except Error Address) := do
  match ← library.symbolAddress name with
  | .ok variableAddress =>
      match variableAddress.target? with
      | some target => return .ok target
      | none => return .error (.symbolNotFound name .nullAlias)
  | .error error => return .error error

/-- The file that a loaded library was opened from. -/
def location (library : SharedLibrary) : Loading (Except Error Path) :=
  match library.handle with
  | some handle => fileOf handle
  | none => return .error .notLoaded

end SharedLibrary

end SharedObject
