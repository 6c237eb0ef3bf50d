import SharedObject.Path.Components

/-!
# Library file names

A logical library name such as `foo` is stored in a file called `libfoo.so`.
`decorate` supplies whichever of the two parts is missing, and `localize` makes a
bare name refer to the current directory, so that the system folders are not
searched for it.
-/

namespace SharedObject

namespace Path

def libraryPrefix : List UInt8 := [0x6C, 0x69, 0x62]

def librarySuffix : List UInt8 := [0x2E, 0x73, 0x6F]

/-- The library file name of a logical name: each part is added unless it is there. -/
def decoratedName (name : List UInt8) : List UInt8 :=
  (if libraryPrefix.isPrefixOf name then [] else libraryPrefix) ++ name ++
    (if librarySuffix.isSuffixOf name then [] else librarySuffix)

/-- The path with its file name made into a library file name. -/
def decorate (path : Path) : Path :=
  match path.fileName with
  | some name => path.withFileName (decoratedName name)
  | none => path

/-- The path, or the path in the current directory when it has no directory part. -/
def localize (path : Path) : Path :=
  if path.parent.any (!·.isEmpty) then path
  else Path.join ⟨[dot]⟩ path

end Path

end SharedObject
