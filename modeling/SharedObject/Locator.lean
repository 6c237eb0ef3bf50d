import SharedObject.Loader

/-!
# Locating addresses

The module that contains an address is the first one with a loaded segment that
covers it.  The running program has no name of its own; its file is asked for
separately.
-/

namespace SharedObject

/-- The kind of a segment that is loaded into memory. -/
def Segment.loadKind : UInt32 := 1

/-- Whether a segment of a module based at `base` covers an address; sums wrap
around at 64 bits. -/
def Segment.covers (segment : Segment) (base address : UInt64) : Bool :=
  let start := base + segment.address
  start ≤ address && address < start + segment.size

/-- Whether a loaded segment of a module covers an address. -/
def Module.covers (candidate : Module) (address : UInt64) : Bool :=
  (candidate.segments.getD []).any fun segment =>
    segment.kind == Segment.loadKind && segment.covers candidate.base address

namespace System

/-- The file of the first module that covers an address. -/
def moduleOf (system : System) (address : UInt64) : Except Error Path :=
  match system.modules.find? (·.covers address) with
  | some found => system.locationOfName found.name
  | none => .error (.addressNotMapped s!"no loaded module contains {hexText address.toNat}")

def addressValue (system : System) : Address → UInt64
  | .number value => value
  | .memory _ => system.memory

end System

/-- The file of the module that contains an address. -/
def Loading.locate (address : UInt64) : Loading (Except Error Path) := do
  if address = 0 then
    return .error .nullAddress
  record .trace s!"symbol_location: addr [{hexText address.toNat}]"
  return (← read).moduleOf address

end SharedObject
