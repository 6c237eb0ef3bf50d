import SharedObject.IoFailure
import SharedObject.Path.Components

/-!
# The system that loads libraries

A system is everything about the operating system that loading and locating
libraries depends on and that does not change meanwhile: which files exist, what
each path opens, which symbols an image has, which modules are in memory.  What
does change is the `Loader` that is kept beside it.
-/

namespace SharedObject

/-- The handle of an image that was opened; images are numbered from 0. -/
structure Handle where
  image : Nat
  deriving DecidableEq, Repr, Inhabited

namespace Handle

/-- The number that the system gives out for a handle. -/
def value (handle : Handle) : Nat :=
  (handle.image + 1) * 0x10000

def text (handle : Handle) : String :=
  hexText handle.value

end Handle

/-- The functions that images export, on numbers of 32 bits that wrap around. -/
inductive Routine
  | add
  | sub
  deriving DecidableEq, Repr

def Routine.call (routine : Routine) (first second : Int32) : Int32 :=
  match routine with
  | .add => first + second
  | .sub => first - second

/-- What is found at an address in the memory of an image. -/
inductive Content
  | object (value : Int32)
  /-- A variable that points to an object, or holds null. -/
  | pointer (target : Option Int32)
  | routine (routine : Routine)
  deriving DecidableEq, Repr

/-- An address: a bare number whose memory is never looked at, or a place in real
memory of which only the content matters. -/
inductive Address
  | number (value : UInt64)
  | memory (content : Content)
  deriving DecidableEq, Repr

namespace Address

def isNull : Address → Bool
  | .number value => value == 0
  | .memory _ => false

/-- What the pointer variable at an address points to; null if it holds null or is
no pointer variable. -/
def target? : Address → Option Address
  | .memory (.pointer (some value)) => some (.memory (.object value))
  | _ => none

def objectValue? : Address → Option Int32
  | .memory (.object value) => some value
  | _ => none

def routine? : Address → Option Routine
  | .memory (.routine routine) => some routine
  | _ => none

end Address

/-- What the system knows about the file of a handle. -/
inductive LinkMap
  /-- The question fails, with a text. -/
  | failed (text : String)
  /-- The question is answered by nothing. -/
  | absent
  /-- The file, which the running program has none of. -/
  | present (file : Option Path)
  deriving DecidableEq, Repr

/-- A piece of a module in memory, relative to the base of the module. -/
structure Segment where
  kind : UInt32
  address : UInt64
  size : UInt64
  deriving DecidableEq, Repr

/-- A module in memory: the running program, which has no name, or a library. -/
structure Module where
  name : Option Path
  base : UInt64
  segments : Option (List Segment)
  deriving DecidableEq, Repr

/-- The parts of an operating system that loading and locating depend on.  A call
that fails may give a text or none. -/
structure System where
  /-- The file of the running program. -/
  program : Option Path
  fileExists : Path → Bool
  canonical : Path → Option Path
  /-- What opening a path, or the running program, gives. -/
  opening : Option Path → Except (Option String) Handle
  symbol : Handle → String → Except (Option String) Address
  linkMap : Handle → LinkMap
  /-- The failure of closing a handle, which gives it up all the same. -/
  closing : Handle → Option String
  /-- The modules in memory, in the order of the loader. -/
  modules : List Module
  /-- A number for the places in real memory. -/
  memory : UInt64

namespace System

/-- Whether there is a file at a path; a path with a NUL byte names none. -/
def pathExists (system : System) (path : Path) : Bool :=
  !path.hasNul && system.fileExists path

/-- The canonical form of a path that names a file. -/
def canonicalPath? (system : System) (path : Path) : Option Path :=
  if path.hasNul then none else system.canonical path

/-- Whether the canonical forms of two paths consist of the same components; files
that are missing are never the same. -/
def sameFile (system : System) (first second : Path) : Bool :=
  match system.canonicalPath? first, system.canonicalPath? second with
  | some first, some second => first.sameComponents second
  | _, _ => false

/-- The file of the running program, or the failure to find it. -/
def programLocation (system : System) : Except Error Path :=
  match system.program with
  | some path => .ok path
  | none =>
      .error (IoFailure.toError ⟨.notFound, some "No such file or directory (os error 2)"⟩)

def isProgram (system : System) (path : Path) : Bool :=
  system.program.any (system.sameFile path)

/-- The file of a name that the system gave; no name, or an empty one, is that of
the running program. -/
def locationOfName (system : System) (name : Option Path) : Except Error Path :=
  match name with
  | some path => if path.isEmpty then system.programLocation else .ok path
  | none => system.programLocation

end System

end SharedObject
