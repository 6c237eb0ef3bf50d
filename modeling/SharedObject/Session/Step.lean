import SharedObject.Session.Basic

/-!
# Steps of a session

A step is one operation on the slots of a session.  Its answer is a value, an
error of the library, or a refusal of the session itself: a slot is empty, a
library that is about to change is shared, or a value is not of the right sort.
Slots are looked at before anything else happens.
-/

namespace SharedObject

/-- One operation on the slots of a session. -/
inductive Step
  | create (slot : String)
  | openAt (slot : String) (path : Path) (mode : LoadMode)
  | openSelf (slot : String) (mode : LoadMode)
  | load (slot : String) (path : Path) (mode : LoadMode)
  | unload (slot : String)
  /-- Move a library to another slot; an unloaded one stays behind. -/
  | take (slot target : String)
  | share (slot target : String)
  | drop (slot : String)
  | state (slot : String)
  | describe (slot : String)
  | symbolAddress (slot name : String)
  | has (slot name : String)
  | readObject (slot name : String)
  | callFunction (slot name : String) (first second : Int32)
  | readAlias (slot name : String)
  | location (slot : String)
  | importAt (symbol : String) (kind : ImportKind) (path : Path) (name : String)
      (mode : LoadMode)
  /-- Import from the library in a slot, which is emptied with `move`. -/
  | importFrom (symbol : String) (kind : ImportKind) (slot name : String) (move : Bool)
  | cloneSymbol (symbol target : String)
  | dropSymbol (symbol : String)
  | symbolState (symbol : String)
  | symbolLibrary (symbol target : String)
  | readImported (symbol : String)
  | callImported (symbol : String) (first second : Int32)
  | describeSymbol (symbol : String)
  /-- Locate an address, which may be given as one that is never null. -/
  | locate (address : UInt64) (nonNull : Bool)
  | locateSymbol (symbol : String)
  /-- Locate something of the running program. -/
  | locateHere
  | programLocation
  deriving DecidableEq, Repr

/-- Why a session does not carry out a step. -/
inductive Refusal
  | noLibrarySlot
  | noSymbolSlot
  | libraryShared
  | notReadable
  | notCallable
  | notPrintable
  | nullPointer
  deriving DecidableEq, Repr

def Refusal.message : Refusal → String
  | .noLibrarySlot => "no such library slot"
  | .noSymbolSlot => "no such symbol slot"
  | .libraryShared => "library is shared"
  | .notReadable => "not a readable object"
  | .notCallable => "not a callable function"
  | .notPrintable => "address is not printable"
  | .nullPointer => "null NonNull"

/-- What a step is answered with. -/
inductive Answer
  | done
  | failed (error : Error)
  | refused (refusal : Refusal)
  | state (library : SharedLibrary) (holders : Nat)
  | symbolState (address : Address) (library : SharedLibrary) (holders : Nat)
  | imported (address : Address)
  | address (address : Address)
  | text (text : String)
  | flag (flag : Bool)
  | number (value : Int32)
  | path (path : Path)
  deriving DecidableEq, Repr

namespace Running

/-- Go on with the number of the library in a slot. -/
def withLibrary (slot : String) (next : Nat → Running Answer) : Running Answer := do
  match (← get).librarySlots.get? slot with
  | some number => next number
  | none => return .refused .noLibrarySlot

/-- Go on with the number of the library in a slot if that is its only holder. -/
def withOwnLibrary (slot : String) (next : Nat → Running Answer) : Running Answer :=
  withLibrary slot fun number => do
    if (← get).holders number = 1 then next number else return .refused .libraryShared

/-- Go on with the symbol in a slot. -/
def withSymbol (slot : String) (next : HeldSymbol → Running Answer) : Running Answer := do
  match (← get).symbolSlots.get? slot with
  | some held => next held
  | none => return .refused .noSymbolSlot

section Cases

variable {slot : String} {system : System} {session : Session} {motive : Answer × Session → Prop}

theorem withLibrary_cases {next : Nat → Running Answer}
    (absent : session.librarySlots.get? slot = none → motive (.refused .noLibrarySlot, session))
    (present : ∀ number, session.librarySlots.get? slot = some number →
      motive (next number system session)) :
    motive (withLibrary slot next system session) := by
  simp only [withLibrary, run_bind, run_get]
  cases found : session.librarySlots.get? slot with
  | none => exact absent found
  | some number => exact present number found

theorem withOwnLibrary_cases {next : Nat → Running Answer}
    (absent : session.librarySlots.get? slot = none → motive (.refused .noLibrarySlot, session))
    (shared : ∀ number, session.librarySlots.get? slot = some number →
      session.holders number ≠ 1 → motive (.refused .libraryShared, session))
    (present : ∀ number, session.librarySlots.get? slot = some number →
      session.holders number = 1 → motive (next number system session)) :
    motive (withOwnLibrary slot next system session) := by
  refine withLibrary_cases absent fun number found => ?_
  by_cases alone : session.holders number = 1
  · simpa [alone] using present number found alone
  · simpa [alone] using shared number found alone

theorem withSymbol_cases {next : HeldSymbol → Running Answer}
    (absent : session.symbolSlots.get? slot = none → motive (.refused .noSymbolSlot, session))
    (present : ∀ held, session.symbolSlots.get? slot = some held →
      motive (next held system session)) :
    motive (withSymbol slot next system session) := by
  simp only [withSymbol, run_bind, run_get]
  cases found : session.symbolSlots.get? slot with
  | none => exact absent found
  | some held => exact present held found

end Cases

/-- Carry out an operation on the library in a slot and answer with its result. -/
def askLibrary {α : Type} (slot : String)
    (operation : SharedLibrary → Loading (Except Error α)) (answer : α → Answer) :
    Running Answer :=
  withLibrary slot fun number => do
    match ← perform (operation ((← get).library number)) with
    | .ok value => return answer value
    | .error error => return .failed error

/-- Put a library that was opened in a slot. -/
def store (slot : String) (outcome : Except Error SharedLibrary) : Running Answer := do
  match outcome with
  | .ok library =>
      putLibrary slot (← adopt library)
      return .done
  | .error error => return .failed error

/-- Import a symbol of a library that is opened for it and closed again if the
symbol cannot be had. -/
def importAt (symbol : String) (kind : ImportKind) (path : Path) (name : String)
    (mode : LoadMode) : Running Answer := do
  match ← perform (SharedLibrary.openAt path mode) with
  | .error error => return .failed error
  | .ok library =>
      match ← perform (library.importSymbol kind name) with
      | .ok resolved =>
          putSymbol symbol { library := ← adopt library, symbol := resolved }
          return .imported resolved.address
      | .error error =>
          perform library.unload
          return .failed error

/-- Import a symbol of the library in a slot.  With `move` the slot gives its
library up, also when the symbol cannot be had. -/
def importFrom (symbol : String) (kind : ImportKind) (slot name : String) (move : Bool) :
    Running Answer :=
  withLibrary slot fun number => do
    if move then
      eraseLibrary slot
    match ← perform (((← get).library number).importSymbol kind name) with
    | .ok resolved =>
        putSymbol symbol { library := number, symbol := resolved }
        return .imported resolved.address
    | .error error =>
        if move then
          release number
        return .failed error

def locate (address : UInt64) : Running Answer := do
  match ← perform (Loading.locate address) with
  | .ok path => return .path path
  | .error error => return .failed error

def programLocation : Running Answer := do
  match (← read).programLocation with
  | .ok path => return .path path
  | .error error => return .failed error

theorem programLocation_frame (system : System) (session : Session) :
    (programLocation system session).2 = session := by
  simp only [programLocation, run_bind, run_read]
  cases system.programLocation <;> rfl

end Running

open Running

def Step.run : Step → Running Answer
  | .create slot => store slot (.ok .unloaded)
  | .openAt slot path mode => do store slot (← perform (SharedLibrary.openAt path mode))
  | .openSelf slot mode => do store slot (← perform (SharedLibrary.openSelf mode))
  | .load slot path mode =>
      withOwnLibrary slot fun number => do
        match ← perform (((← get).library number).load path mode) with
        | .ok library =>
            setLibrary number library
            return .done
        | .error error =>
            setLibrary number .unloaded
            return .failed error
  | .unload slot =>
      withOwnLibrary slot fun number => do
        perform ((← get).library number).unload
        setLibrary number .unloaded
        return .done
  | .take slot target =>
      withOwnLibrary slot fun number => do
        let library := (← get).library number
        setLibrary number .unloaded
        putLibrary target (← adopt library)
        return .done
  | .share slot target =>
      withLibrary slot fun number => do
        putLibrary target number
        return .done
  | .drop slot =>
      withLibrary slot fun _ => do
        dropLibrary slot
        return .done
  | .state slot =>
      withLibrary slot fun number => do
        let session ← get
        return .state (session.library number) (session.holders number)
  | .describe slot =>
      withLibrary slot fun number => do
        return .text ((← get).library number).text
  | .symbolAddress slot name => askLibrary slot (·.symbolAddress name) .address
  | .has slot name =>
      withLibrary slot fun number => do
        return .flag (← perform (((← get).library number).has name))
  | .readObject slot name =>
      askLibrary slot (·.symbolAddress name) fun address =>
        address.objectValue?.elim (.refused .notReadable) .number
  | .callFunction slot name first second =>
      askLibrary slot (·.symbolAddress name) fun address =>
        address.routine?.elim (.refused .notCallable) fun routine =>
          .number (routine.call first second)
  | .readAlias slot name =>
      askLibrary slot (·.aliasAddress name) fun address =>
        address.objectValue?.elim (.refused .notReadable) .number
  | .location slot => askLibrary slot (·.location) .path
  | .importAt symbol kind path name mode => Running.importAt symbol kind path name mode
  | .importFrom symbol kind slot name move => Running.importFrom symbol kind slot name move
  | .cloneSymbol symbol target =>
      withSymbol symbol fun held => do
        putSymbol target held
        return .done
  | .dropSymbol symbol =>
      withSymbol symbol fun _ => do
        Running.dropSymbol symbol
        return .done
  | .symbolState symbol =>
      withSymbol symbol fun held => do
        let session ← get
        return .symbolState held.symbol.address (session.library held.library)
          (session.holders held.library)
  | .symbolLibrary symbol target =>
      withSymbol symbol fun held => do
        putLibrary target held.library
        return .done
  | .readImported symbol =>
      withSymbol symbol fun held =>
        return held.symbol.objectValue?.elim (.refused .notReadable) .number
  | .callImported symbol first second =>
      withSymbol symbol fun held =>
        return held.symbol.routine?.elim (.refused .notCallable) fun routine =>
          .number (routine.call first second)
  | .describeSymbol symbol =>
      withSymbol symbol fun held => do
        let library := (← get).library held.library
        return (held.symbol.text? library).elim (.refused .notPrintable) .text
  | .locate address nonNull =>
      if nonNull && address == 0 then return .refused .nullPointer
      else Running.locate address
  | .locateSymbol symbol =>
      withSymbol symbol fun held => do
        Running.locate ((← read).addressValue held.symbol.address)
  | .locateHere => do Running.locate (← read).memory
  | .programLocation => Running.programLocation

/-- What happened in a session: each step's answer with the calls it made, the
calls made at the end when all slots were emptied, and the lines logged. -/
structure Transcript where
  steps : List (Answer × List Call)
  ending : List Call
  log : List LogEntry

namespace Session

/-- A session before its first step, with a text that may be pending. -/
def start (pending : Option String) : Session :=
  { loader := { pending } }

/-- The session with the calls made so far forgotten. -/
def forgetCalls (session : Session) : Session :=
  { session with loader := { session.loader with calls := [] } }

/-- The answers to the steps, each with the calls it made, and the session after
them. -/
def runSteps (system : System) : Session → List Step → List (Answer × List Call) × Session
  | session, [] => ([], session)
  | session, step :: steps =>
      let (answer, after) := step.run system session.forgetCalls
      let (answers, final) := runSteps system after steps
      ((answer, after.loader.calls) :: answers, final)

theorem runSteps_cons (system : System) (session : Session) (step : Step) (steps : List Step) :
    runSteps system session (step :: steps) =
      (((step.run system session.forgetCalls).1,
          (step.run system session.forgetCalls).2.loader.calls) ::
        (runSteps system (step.run system session.forgetCalls).2 steps).1,
      (runSteps system (step.run system session.forgetCalls).2 steps).2) :=
  rfl

/-- Carry out steps from a fresh session and empty all slots afterwards. -/
def transcript (system : System) (pending : Option String) (steps : List Step) : Transcript :=
  let (answers, after) := runSteps system (start pending) steps
  let ((), final) := dropAll system after.forgetCalls
  { steps := answers, ending := final.loader.calls, log := final.loader.log }

end Session

end SharedObject
