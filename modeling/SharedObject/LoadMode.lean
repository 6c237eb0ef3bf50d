import SharedObject.Text

/-!
# Load modes

A load mode is a set of flags in a word of 32 bits.  Bits that belong to no flag
are kept when a mode is made from a word, and shown after the names of its flags.
-/

namespace SharedObject

structure LoadMode where
  bits : UInt32
  deriving DecidableEq, Repr, Inhabited

namespace LoadMode

/-- No flag at all: let the system decide. -/
def empty : LoadMode := ⟨0⟩

/-- Do not load dependencies. -/
def dontResolveReferences : LoadMode := ⟨0x1⟩

/-- Do not check software restriction policies. -/
def ignoreAuthorization : LoadMode := ⟨0x10⟩

/-- Search dependencies from the folder of the library. -/
def alteredSearchPath : LoadMode := ⟨0x8⟩

/-- Resolve undefined symbols only when they are used. -/
def lazy : LoadMode := ⟨0x100⟩

/-- Resolve all undefined symbols before the load returns. -/
def now : LoadMode := ⟨0x200⟩

/-- Make the symbols available to libraries loaded later. -/
def globalScope : LoadMode := ⟨0x400⟩

/-- Keep the symbols private to the library. -/
def localScope : LoadMode := ⟨0x800⟩

/-- Prefer the library's own symbols. -/
def deepBind : LoadMode := ⟨0x1000⟩

/-- Try the decorated file name first. -/
def appendDecorations : LoadMode := ⟨0x800000⟩

/-- Let the system search its folders for a bare file name. -/
def searchSystemFolders : LoadMode := ⟨0x1000000⟩

/-- The flags with their names, in the order in which they are declared. -/
def named : List (String × LoadMode) :=
  [("DEFAULT_MODE", empty),
    ("DONT_RESOLVE_DLL_REFERENCES", dontResolveReferences),
    ("LOAD_IGNORE_CODE_AUTHZ_LEVEL", ignoreAuthorization),
    ("LOAD_WITH_ALTERED_SEARCH_PATH", alteredSearchPath),
    ("RTLD_LAZY", lazy),
    ("RTLD_NOW", now),
    ("RTLD_GLOBAL", globalScope),
    ("RTLD_LOCAL", localScope),
    ("RTLD_DEEPBIND", deepBind),
    ("APPEND_DECORATIONS", appendDecorations),
    ("SEARCH_SYSTEM_FOLDERS", searchSystemFolders)]

def union (first second : LoadMode) : LoadMode :=
  ⟨first.bits ||| second.bits⟩

def inter (first second : LoadMode) : LoadMode :=
  ⟨first.bits &&& second.bits⟩

def symmetricDifference (first second : LoadMode) : LoadMode :=
  ⟨first.bits ^^^ second.bits⟩

/-- The flags of the first mode that the second does not have. -/
def difference (first second : LoadMode) : LoadMode :=
  ⟨first.bits &&& ~~~second.bits⟩

def all : LoadMode :=
  named.foldl (fun mode flag => mode.union flag.2) empty

/-- The flags of a mode, other bits left out. -/
def truncate (mode : LoadMode) : LoadMode :=
  mode.inter all

def complement (mode : LoadMode) : LoadMode :=
  truncate ⟨~~~mode.bits⟩

/-- The mode of a word, if every bit of the word belongs to a flag. -/
def ofBits? (bits : UInt32) : Option LoadMode :=
  if bits &&& all.bits = bits then some ⟨bits⟩ else none

def ofName? (name : String) : Option LoadMode :=
  named.lookup name

def contains (mode flags : LoadMode) : Bool :=
  mode.bits &&& flags.bits == flags.bits

def intersects (first second : LoadMode) : Bool :=
  first.bits &&& second.bits != 0

def isEmpty (mode : LoadMode) : Bool :=
  mode.bits == 0

def isAll (mode : LoadMode) : Bool :=
  mode.contains all

/-- The names of the flags of a mode, in the order of declaration. -/
def names (mode : LoadMode) : List String :=
  (named.filter fun flag => flag.2.bits != 0 && mode.contains flag.2).map (·.1)

/-- The bits of a mode that belong to no flag. -/
def unnamedBits (mode : LoadMode) : UInt32 :=
  mode.bits &&& ~~~all.bits

/-- A mode as text: the names of its flags, then its other bits. -/
def text (mode : LoadMode) : String :=
  let rest := if mode.unnamedBits = 0 then [] else [hexText mode.unnamedBits.toNat]
  let parts := mode.names ++ rest
  let inner := if parts.isEmpty then hexText 0 else String.intercalate " | " parts
  s!"LoadMode({inner})"

/-- The mode with the choices made that the system wants made: lazy unless `now`,
private unless `globalScope`. -/
def normalized (mode : LoadMode) : LoadMode :=
  let bound := if mode.contains now then mode else mode.union lazy
  if bound.contains globalScope then bound else bound.union localScope

/-- The flags of the system loader for a mode.  Privacy is its default and has no
flag. -/
def nativeFlags (mode : LoadMode) : UInt32 :=
  [(lazy, 0x1), (now, 0x2), (globalScope, 0x100), (localScope, 0), (deepBind, 0x8)].foldl
    (fun flags choice => if mode.contains choice.1 then flags ||| choice.2 else flags) 0

end LoadMode

end SharedObject
