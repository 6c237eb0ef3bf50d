import SharedObject.SharedLibrary

/-!
# Imported symbols

A symbol is imported as an object, as a function, or as the object that an
exported pointer variable points to.  What is imported is an object or a function
at an address.
-/

namespace SharedObject

inductive ImportKind
  | object
  | function
  | aliased
  deriving DecidableEq, Repr

def ImportKind.message (kind : ImportKind) (name : String) : String :=
  match kind with
  | .object => s!"Imported [{name}]"
  | .function => s!"Imported function [{name}]"
  | .aliased => s!"Imported alias [{name}]"

/-- An object or a function of a library. -/
structure ImportedSymbol where
  isFunction : Bool
  address : Address
  deriving DecidableEq, Repr

namespace ImportedSymbol

def objectValue? (symbol : ImportedSymbol) : Option Int32 :=
  if symbol.isFunction then none else symbol.address.objectValue?

def routine? (symbol : ImportedSymbol) : Option Routine :=
  if symbol.isFunction then symbol.address.routine? else none

/-- An imported symbol as text, with the library it keeps.  There is none for an
object in real memory. -/
def text? (symbol : ImportedSymbol) (library : SharedLibrary) : Option String :=
  if symbol.isFunction then
    some ("ImportedFn \x7b library: " ++ library.text ++ ", .. \x7d")
  else
    match symbol.address with
    | .number value =>
        some ("Imported \x7b library: " ++ library.text ++ ", ptr: " ++ hexText value.toNat
          ++ " \x7d")
    | .memory _ => none

end ImportedSymbol

namespace SharedLibrary

/-- The address of what is imported. -/
def importAddress (library : SharedLibrary) (kind : ImportKind) (name : String) :
    Loading (Except Error Address) :=
  match kind with
  | .aliased => library.aliasAddress name
  | .object | .function => library.symbolAddress name

def importSymbol (library : SharedLibrary) (kind : ImportKind) (name : String) :
    Loading (Except Error ImportedSymbol) := do
  match ← library.importAddress kind name with
  | .ok address =>
      Loading.record .info (kind.message name)
      return .ok { isFunction := kind == .function, address }
  | .error error => return .error error

end SharedLibrary

end SharedObject
