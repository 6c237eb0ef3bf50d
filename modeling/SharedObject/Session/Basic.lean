import SharedObject.Import
import SharedObject.Locator
import SharedObject.Session.Slots

/-!
# Sessions

A session keeps libraries and imported symbols in named slots.  A library is held
by every slot that refers to it and by every imported symbol that came from it;
it lives while it has a holder and is unloaded when it loses the last one.
-/

namespace SharedObject

/-- An imported symbol together with the library that it holds. -/
structure HeldSymbol where
  library : Nat
  symbol : ImportedSymbol
  deriving DecidableEq, Repr

/-- The live libraries by their number, and the slots that hold them. -/
structure Session where
  loader : Loader := {}
  libraries : Slots Nat SharedLibrary := {}
  nextNumber : Nat := 0
  librarySlots : Slots String Nat := {}
  symbolSlots : Slots String HeldSymbol := {}

namespace Session

def library (session : Session) (number : Nat) : SharedLibrary :=
  (session.libraries.get? number).getD .unloaded

/-- How many slots and symbols hold a library. -/
def holders (session : Session) (number : Nat) : Nat :=
  session.librarySlots.values.count number +
    (session.symbolSlots.values.map (·.library)).count number

end Session

/-- A computation on a session over a system. -/
abbrev Running := ReaderT System (StateM Session)

namespace Running

section Running

variable {α β : Type} (system : System) (session : Session)

@[simp]
theorem run_pure (value : α) : (pure value : Running α) system session = (value, session) :=
  rfl

@[simp]
theorem run_bind (action : Running α) (next : α → Running β) :
    (action >>= next) system session =
      next (action system session).1 system (action system session).2 :=
  rfl

@[simp]
theorem run_map (function : α → β) (action : Running α) :
    (function <$> action) system session =
      (function (action system session).1, (action system session).2) :=
  rfl

@[simp]
theorem run_read : (read : Running System) system session = (system, session) :=
  rfl

@[simp]
theorem run_get : (get : Running Session) system session = (session, session) :=
  rfl

@[simp]
theorem run_modify (change : Session → Session) :
    (modify change : Running PUnit) system session = (.unit, change session) :=
  rfl

@[simp]
theorem run_modifyGet (change : Session → α × Session) :
    (modifyGet change : Running α) system session = change session :=
  rfl

end Running

def perform {α : Type} (operation : Loading α) : Running α := fun system session =>
  let (result, loader) := operation system session.loader
  (result, { session with loader })

@[simp]
theorem run_perform {α : Type} (operation : Loading α) (system : System) (session : Session) :
    perform operation system session =
      ((operation system session.loader).1,
        { session with loader := (operation system session.loader).2 }) :=
  rfl

/-- Give a library a number; it has no holder yet. -/
def adopt (library : SharedLibrary) : Running Nat :=
  modifyGet fun session =>
    (session.nextNumber,
      { session with
        libraries := session.libraries.put session.nextNumber library
        nextNumber := session.nextNumber + 1 })

def setLibrary (number : Nat) (library : SharedLibrary) : Running Unit :=
  modify fun session => { session with libraries := session.libraries.put number library }

/-- A holder of a library is gone: without any other, the library is unloaded. -/
def release (number : Nat) : Running Unit := do
  let session ← get
  if session.holders number = 0 then
    perform (session.library number).unload
    modify fun session => { session with libraries := session.libraries.erase number }

theorem release_of_held {number : Nat} {session : Session} (isHeld : session.holders number ≠ 0)
    (system : System) : release number system session = ((), session) := by
  show (if session.holders number = 0 then _ else _ : Running Unit) system session = _
  rw [if_neg isHeld]
  rfl

theorem release_of_abandoned {number : Nat} {session : Session}
    (abandoned : session.holders number = 0) (system : System) :
    release number system session =
      ((), { session with
        loader := ((session.library number).unload system session.loader).2
        libraries := session.libraries.erase number }) := by
  show (if session.holders number = 0 then _ else _ : Running Unit) system session = _
  rw [if_pos abandoned]
  rfl

theorem slots_release (number : Nat) (system : System) (session : Session) :
    (release number system session).2.librarySlots = session.librarySlots ∧
      (release number system session).2.symbolSlots = session.symbolSlots := by
  by_cases abandoned : session.holders number = 0
  · simp [release_of_abandoned abandoned]
  · simp [release_of_held abandoned]

/-- The slots do not notice that the holders of a library are counted. -/
theorem slots_forM_release (lost : Option Nat) (system : System) (session : Session) :
    (lost.forM release system session).2.librarySlots = session.librarySlots ∧
      (lost.forM release system session).2.symbolSlots = session.symbolSlots := by
  cases lost with
  | none => exact ⟨rfl, rfl⟩
  | some number => exact slots_release number system session

/-- Put a library in a slot; the one held there before is released. -/
def putLibrary (slot : String) (number : Nat) : Running Unit := do
  let before := (← get).librarySlots.get? slot
  modify fun session => { session with librarySlots := session.librarySlots.put slot number }
  before.forM release

/-- Empty a library slot without releasing what it held. -/
def eraseLibrary (slot : String) : Running Unit :=
  modify fun session => { session with librarySlots := session.librarySlots.erase slot }

def dropLibrary (slot : String) : Running Unit := do
  let before := (← get).librarySlots.get? slot
  eraseLibrary slot
  before.forM release

/-- Put a symbol in a slot; the library of the one held there before is released. -/
def putSymbol (slot : String) (held : HeldSymbol) : Running Unit := do
  let before := (← get).symbolSlots.get? slot
  modify fun session => { session with symbolSlots := session.symbolSlots.put slot held }
  (before.map (·.library)).forM release

def dropSymbol (slot : String) : Running Unit := do
  let before := (← get).symbolSlots.get? slot
  modify fun session => { session with symbolSlots := session.symbolSlots.erase slot }
  (before.map (·.library)).forM release

/-- Empty all slots, the symbols first, each kind in the order of the names. -/
def dropAll : Running Unit := do
  (← get).symbolSlots.names.forM dropSymbol
  (← get).librarySlots.names.forM dropLibrary

end Running

end SharedObject
