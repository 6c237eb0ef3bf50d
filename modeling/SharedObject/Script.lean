import SharedObject.System

/-!
# Scripted systems

A script lists what a system does, image by image and path by path.  What it does
not list fails in the way in which a system without that file or symbol would.
-/

namespace SharedObject

/-- An image that a scripted system can open. -/
structure ScriptedImage where
  symbols : List (String × Address)
  linkMap : LinkMap
  closeError : Option String
  deriving DecidableEq, Repr

/-- The tables of a scripted system. -/
structure Script where
  program : Option Path
  files : List Path
  canonical : List (Path × Path)
  images : List ScriptedImage
  /-- Paths that fail to open, with a text or without; they come first. -/
  openErrors : List (Path × Option String)
  /-- Paths that open an image. -/
  paths : List (Path × Nat)
  /-- The image of the running program. -/
  self : Option Nat
  modules : List Module
  deriving Repr

namespace Script

def image? (script : Script) (handle : Handle) : Option ScriptedImage :=
  script.images[handle.image]?

/-- What opening a path, or the running program, gives. -/
def opening (script : Script) : Option Path → Except (Option String) Handle
  | none =>
      match script.self with
      | some image => .ok ⟨image⟩
      | none => .error (some "cannot open the program")
  | some path =>
      match script.openErrors.lookup path with
      | some text => .error text
      | none =>
          match script.paths.lookup path with
          | some image => .ok ⟨image⟩
          | none => .error (some s!"{path.text}: no such file")

def symbol (script : Script) (handle : Handle) (name : String) :
    Except (Option String) Address :=
  match (script.image? handle).bind (fun image => image.symbols.lookup name) with
  | some address => .ok address
  | none => .error (some s!"undefined symbol: {name}")

/-- A number for all real memory, away from where programs and libraries start. -/
def memory : UInt64 := 0x7F0000000000

def system (script : Script) : System where
  program := script.program
  fileExists path := script.files.contains path
  canonical path := script.canonical.lookup path
  opening := script.opening
  symbol := script.symbol
  linkMap handle := (script.image? handle).elim .absent (·.linkMap)
  closing handle := (script.image? handle).bind (·.closeError)
  modules := script.modules
  memory := memory

end Script

end SharedObject
