import SharedObject.Text

/-!
# Paths

A path is a byte string, not necessarily UTF-8, and is shown as text with ill-formed
bytes replaced.  Two paths are equal when their bytes are; that they consist of the
same components is a weaker relation, `Path.sameComponents`.
-/

namespace SharedObject

/-- A path of the file system, as its bytes. -/
structure Path where
  bytes : List UInt8
  deriving DecidableEq, Repr, Inhabited

namespace Path

def separator : UInt8 := 0x2F

def dot : UInt8 := 0x2E

def ofString (text : String) : Path :=
  ⟨text.toUTF8.data.toList⟩

def empty : Path := ⟨[]⟩

def isEmpty (path : Path) : Bool :=
  path.bytes.isEmpty

/-- A path holding a NUL byte cannot be handed to the system. -/
def hasNul (path : Path) : Bool :=
  path.bytes.contains 0

def isAbsolute (path : Path) : Bool :=
  path.bytes.head? == some separator

/-- The path as shown in messages. -/
def text (path : Path) : String :=
  decodeLossy path.bytes

end Path

end SharedObject
