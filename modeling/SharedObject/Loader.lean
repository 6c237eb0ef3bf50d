import SharedObject.LoadMode
import SharedObject.System

/-!
# The loader

The loader counts the references to each image and keeps at most one pending
text.  A call that fails with a text leaves it pending; whoever reports the
failure takes it.  Logging is on, warnings included: a handle that cannot be closed
is reported by a warning and by nothing else, so that its text is taken only to be
logged.  Every operation here therefore takes the text of the calls it makes, and no
text is left for a later one.
-/

namespace SharedObject

inductive Call
  /-- Opening a path, or the running program, gave a handle or failed. -/
  | opened (target : Option Path) (flags : UInt32) (handle : Option Handle)
  /-- A symbol of an image was looked up. -/
  | lookedUp (handle : Handle) (name : String) (found : Bool)
  /-- A handle was closed and this many references were left. -/
  | closed (handle : Handle) (left : Nat)
  deriving DecidableEq, Repr

/-- The state of the system loader, with the calls made and the lines logged. -/
structure Loader where
  references : Handle → Nat := fun _ => 0
  pending : Option String := none
  calls : List Call := []
  log : List LogEntry := []

/-- A computation that calls the loader of a system. -/
abbrev Loading := ReaderT System (StateM Loader)

namespace Loading

section Running

variable {α β : Type} (system : System) (loader : Loader)

@[simp]
theorem run_pure (value : α) : (pure value : Loading α) system loader = (value, loader) :=
  rfl

@[simp]
theorem run_bind (operation : Loading α) (next : α → Loading β) :
    (operation >>= next) system loader =
      next (operation system loader).1 system (operation system loader).2 :=
  rfl

@[simp]
theorem run_map (function : α → β) (operation : Loading α) :
    (function <$> operation) system loader =
      (function (operation system loader).1, (operation system loader).2) :=
  rfl

@[simp]
theorem run_read : (read : Loading System) system loader = (system, loader) :=
  rfl

@[simp]
theorem run_modify (change : Loader → Loader) :
    (modify change : Loading PUnit) system loader = (.unit, change loader) :=
  rfl

@[simp]
theorem run_modifyGet (change : Loader → α × Loader) :
    (modifyGet change : Loading α) system loader = change loader :=
  rfl

end Running

def note (call : Call) : Loading Unit :=
  modify fun loader => { loader with calls := loader.calls ++ [call] }

def record (level : LogLevel) (message : String) : Loading Unit :=
  modify fun loader => { loader with log := loader.log ++ [⟨level, message⟩] }

/-- A call failed: its text, if it has one, is pending. -/
def setPending (text : Option String) : Loading Unit :=
  modify fun loader => { loader with pending := text.or loader.pending }

/-- The pending text, empty if there is none; nothing is pending afterwards. -/
def takePending : Loading String :=
  modifyGet fun loader => (loader.pending.getD "", { loader with pending := none })

def clearPending : Loading Unit :=
  modify ({ · with pending := none })

def addReference (handle : Handle) : Loading Unit :=
  modify fun loader =>
    { loader with
      references := fun other =>
        if other = handle then loader.references other + 1 else loader.references other }

/-- Take one reference from an image; the number of those left. -/
def removeReference (handle : Handle) : Loading Nat :=
  modifyGet fun loader =>
    (loader.references handle - 1,
      { loader with
        references := fun other =>
          if other = handle then loader.references other - 1 else loader.references other })

/-- Open a path, or the running program, with the flags of a mode. -/
def openTarget (target : Option Path) (mode : LoadMode) :
    Loading (Except String Handle) := do
  let flags := mode.nativeFlags
  match (← read).opening target with
  | .ok handle =>
      addReference handle
      note (.opened target flags (some handle))
      clearPending
      return .ok handle
  | .error text =>
      setPending text
      note (.opened target flags none)
      return .error (← takePending)

/-- Open a path.  A path with a NUL byte never reaches the loader. -/
def openPath (path : Path) (mode : LoadMode) : Loading (Except String Handle) := do
  if path.hasNul then
    return .error s!"{path.text} contains an interior nul byte"
  openTarget (some path) mode

def openProgram (mode : LoadMode) : Loading (Except String Handle) :=
  openTarget none mode

/-- Close a handle.  A failure is only logged, and it is the warning that takes its
text, which without logging would stay pending. -/
def close (handle : Handle) : Loading Unit := do
  let left ← removeReference handle
  note (.closed handle left)
  if let some text := (← read).closing handle then
    setPending (some text)
    let reported ← takePending
    record .warn s!"dlclose failed: {reported}"

/-- The address of a symbol of an image.  A null address counts as not found. -/
def lookUp (handle : Handle) (name : String) : Loading (Except String Address) := do
  clearPending
  match (← read).symbol handle name with
  | .ok address =>
      note (.lookedUp handle name true)
      if address.isNull then
        return .error (← takePending)
      return .ok address
  | .error text =>
      setPending text
      note (.lookedUp handle name false)
      return .error (← takePending)

def fileOf (handle : Handle) : Loading (Except Error Path) := do
  let system ← read
  match system.linkMap handle with
  | .present file => return system.locationOfName file
  | .absent =>
      let reported ← takePending
      return .error (.io s!"dlinfo failed: {reported}")
  | .failed text =>
      setPending (some text)
      let reported ← takePending
      return .error (.io s!"dlinfo failed: {reported}")

end Loading

end SharedObject
