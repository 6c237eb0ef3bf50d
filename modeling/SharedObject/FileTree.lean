import SharedObject.IoFailure
import SharedObject.LibraryFile
import SharedObject.Path.Components

/-!
# Opening files by path

A tree of directories and files answers paths in the way of a system call: it is
walked one segment at a time, and the first step that cannot be taken says why.
-/

namespace SharedObject

/-- A file with its bytes, or a directory with its named entries. -/
inductive FileTree
  | file (bytes : Array UInt8)
  | directory (entries : List (List UInt8 × FileTree))

/-- The reasons for which a path cannot be opened. -/
inductive PathFailure
  | nulByte
  | tooLong
  | missing
  | notDirectory
  | isDirectory
  deriving DecidableEq, Repr

def PathFailure.toIoFailure : PathFailure → IoFailure
  | .nulByte => ⟨.invalidInput, some "file name contained an unexpected NUL byte"⟩
  | .tooLong => ⟨.other, some "File name too long (os error 36)"⟩
  | .missing => ⟨.notFound, some "No such file or directory (os error 2)"⟩
  | .notDirectory => ⟨.other, some "Not a directory (os error 20)"⟩
  | .isDirectory => ⟨.other, some "Is a directory (os error 21)"⟩

namespace FileTree

/-- The greatest length of a directory entry's name. -/
def nameLimit : Nat := 255

/-- The length from which on a path is refused unseen. -/
def pathLimit : Nat := 4096

/-- The tree reached from `place` by the segments, where `above` are the
directories that `..` goes back to. -/
def walk (above : List FileTree) (place : FileTree) :
    List (List UInt8) → Except PathFailure FileTree
  | [] => .ok place
  | segment :: segments =>
      match place with
      | .file _ => .error .notDirectory
      | .directory entries =>
          if segment = [] ∨ segment = [Path.dot] then
            walk above place segments
          else if segment = [Path.dot, Path.dot] then
            match above with
            | [] => walk [] place segments
            | outer :: further => walk further outer segments
          else if nameLimit < segment.length then
            .error .tooLong
          else
            match entries.lookup segment with
            | some inner => walk (place :: above) inner segments
            | none => .error .missing

/-- The bytes of the file at a path; relative paths start at `current`. -/
def read (root current : FileTree) (path : Path) : Except PathFailure (Array UInt8) :=
  if path.hasNul then .error .nulByte
  else if path.isEmpty then .error .missing
  else if pathLimit ≤ path.bytes.length then .error .tooLong
  else
    let start := if path.isAbsolute then root else current
    match walk [] start (Path.segments path.bytes) with
    | .ok (.file bytes) => .ok bytes
    | .ok (.directory _) => .error .isDirectory
    | .error failure => .error failure

end FileTree

def LibraryFile.ofPath (root current : FileTree) (path : Path) (nativeOnly : Bool) : Opening :=
  let inspecting : LogEntry := ⟨.debug, s!"Inspecting [{path.text}]"⟩
  match FileTree.read root current path with
  | .error failure => ⟨.error (.reported failure.toIoFailure.toError), [inspecting]⟩
  | .ok bytes =>
      let opening := LibraryFile.ofSource { bytes } nativeOnly
      { opening with log := inspecting :: opening.log }

end SharedObject
