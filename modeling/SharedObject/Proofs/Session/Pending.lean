import SharedObject.Proofs.Loader.Diagnosis
import SharedObject.Session.Step

/-!
# No text is stale

In a session that logs and starts with no text pending, none is pending between its steps.
Every error that a step is answered with over a call of the loader thus carries the text
that this call has set.
-/

namespace SharedObject

open Loading (Resolving)

/-- The session with another text pending, or none. -/
def Session.withPending (session : Session) (pending : Option String) : Session :=
  { session with loader := session.loader.withPending pending }

namespace Running

variable {α β : Type} {allowed : (α : Type) → Loading α → Prop}

/-- The actions that are put together of allowed operations on the loader and of looks at
the slots and the libraries and changes to them. -/
inductive Performs (allowed : (α : Type) → Loading α → Prop) : {α : Type} → Running α → Prop
  | pure {α : Type} (value : α) : Performs allowed (pure value)
  | bind {α β : Type} {action : Running α} {next : α → Running β}
      (first : Performs allowed action) (rest : ∀ value, Performs allowed (next value)) :
      Performs allowed (action >>= next)
  | read : Performs allowed read
  /-- The pending text is not looked at. -/
  | inspect {α : Type} {next : Session → Running α}
      (blind : ∀ session pending, next (session.withPending pending) = next session)
      (rest : ∀ session, Performs allowed (next session)) : Performs allowed (get >>= next)
  | modify {change : Session → Session}
      (apart : ∀ session pending,
        change (session.withPending pending) = (change session).withPending pending)
      (same : ∀ session, (change session).loader = session.loader) :
      Performs allowed (modify change : Running PUnit)
  | adopt (library : SharedLibrary) : Performs allowed (adopt library)
  | perform {α : Type} {operation : Loading α} (isAllowed : allowed α operation) :
      Performs allowed (perform operation)

/-- The action leaves no text pending of the calls it makes. -/
def Tidy (action : Running α) : Prop :=
  ∀ system session, Loader.Tidied session.loader (action system session).2.loader

/-- Another text that is pending before the action changes neither its result nor anything
else but the text that is pending afterwards. -/
def Oblivious (action : Running α) : Prop :=
  ∀ system session pending, ∃ left,
    action system (session.withPending pending) =
      ((action system session).1, (action system session).2.withPending left)

namespace Performs

variable {action : Running α}

theorem mono {weaker : (α : Type) → Loading α → Prop} (performs : Performs allowed action)
    (weaken : ∀ {α : Type} {operation : Loading α}, allowed α operation → weaker α operation) :
    Performs weaker action := by
  induction performs with
  | pure value => exact .pure value
  | bind _ _ first rest => exact .bind first rest
  | read => exact .read
  | inspect blind _ rest => exact .inspect blind rest
  | modify apart same => exact .modify apart same
  | adopt library => exact .adopt library
  | perform isAllowed => exact .perform (weaken isAllowed)

theorem tidy (performs : Performs (fun _ => Loading.Tidy) action) : Tidy action := by
  induction performs with
  | pure value => exact fun system session => .refl session.loader
  | bind _ _ first rest =>
      exact fun system session => (first system session).trans (rest _ system _)
  | read => exact fun system session => .refl session.loader
  | inspect _ _ rest => exact fun system session => rest session system session
  | modify _ same =>
      intro system session
      rw [run_modify, same]
      exact .refl session.loader
  | adopt library => exact fun system session => .refl session.loader
  | perform tidy => exact fun system session => tidy system session.loader

theorem oblivious (performs : Performs (fun _ => Loading.Oblivious) action) : Oblivious action := by
  induction performs with
  | pure value => exact fun system session pending => ⟨pending, rfl⟩
  | @bind _ _ action next _ _ first rest =>
      intro system session pending
      obtain ⟨between, alike⟩ := first system session pending
      obtain ⟨left, alikeAfter⟩ := rest (action system session).1 system
        (action system session).2 between
      exact ⟨left, by rw [run_bind, run_bind, alike, alikeAfter]⟩
  | read => exact fun system session pending => ⟨pending, rfl⟩
  | inspect blind _ rest =>
      intro system session pending
      rw [run_bind, run_bind, run_get, run_get, blind]
      exact rest session system session pending
  | modify apart _ =>
      intro system session pending
      rw [run_modify, run_modify, apart]
      exact ⟨pending, rfl⟩
  | adopt library => exact fun system session pending => ⟨pending, rfl⟩
  | @perform _ operation oblivious =>
      intro system session pending
      obtain ⟨left, alike⟩ := oblivious system session.loader pending
      have performed : operation system (session.withPending pending).loader = _ := alike
      refine ⟨left, ?_⟩
      rw [run_perform, run_perform, performed]
      rfl

end Performs

section Slots

theorem performs_release (number : Nat) : Performs (fun _ => Resolving) (release number) := by
  apply Performs.inspect
  · exact fun session pending => rfl
  · intro session
    split
    · apply (Performs.perform (session.library number).resolving_unload).bind
      exact fun _ => .modify (fun _ _ => rfl) fun _ => rfl
    · exact .pure ()

/-- The slots change, and a library that may have lost a holder is released. -/
theorem performs_exchange (lost : Slots String Nat → Slots String HeldSymbol → Option Nat)
    (libraries : Slots String Nat → Slots String Nat)
    (symbols : Slots String HeldSymbol → Slots String HeldSymbol) :
    Performs (fun _ => Resolving) (do
      let before ← get
      modify fun session =>
        { session with
          librarySlots := libraries session.librarySlots
          symbolSlots := symbols session.symbolSlots }
      (lost before.librarySlots before.symbolSlots).forM release) := by
  apply Performs.inspect
  · exact fun session pending => rfl
  · intro session
    apply Performs.bind
    · exact .modify (fun _ _ => rfl) fun _ => rfl
    · intro _
      cases lost session.librarySlots session.symbolSlots with
      | none => exact .pure ()
      | some number => exact performs_release number

theorem performs_putLibrary (slot : String) (number : Nat) :
    Performs (fun _ => Resolving) (putLibrary slot number) :=
  performs_exchange (fun libraries _ => libraries.get? slot) (·.put slot number) id

theorem performs_eraseLibrary (slot : String) :
    Performs (fun _ => Resolving) (eraseLibrary slot) :=
  .modify (fun _ _ => rfl) fun _ => rfl

theorem performs_dropLibrary (slot : String) :
    Performs (fun _ => Resolving) (dropLibrary slot) :=
  performs_exchange (fun libraries _ => libraries.get? slot) (·.erase slot) id

theorem performs_putSymbol (slot : String) (held : HeldSymbol) :
    Performs (fun _ => Resolving) (putSymbol slot held) :=
  performs_exchange (fun _ symbols => (symbols.get? slot).map HeldSymbol.library) id
    (·.put slot held)

theorem performs_dropSymbol (slot : String) :
    Performs (fun _ => Resolving) (dropSymbol slot) :=
  performs_exchange (fun _ symbols => (symbols.get? slot).map HeldSymbol.library) id
    (·.erase slot)

theorem performs_forM {action : α → Running Unit}
    (each : ∀ item, Performs allowed (action item)) (items : List α) :
    Performs allowed (items.forM action) := by
  induction items with
  | nil => exact .pure ()
  | cons item items ih => exact (each item).bind fun _ => ih

theorem performs_dropAll : Performs (fun _ => Resolving) dropAll := by
  apply Performs.inspect
  · exact fun session pending => rfl
  · intro session
    apply (performs_forM performs_dropSymbol _).bind
    intro _
    apply Performs.inspect
    · exact fun session pending => rfl
    · exact fun session => performs_forM performs_dropLibrary _

end Slots

section Steps

theorem performs_withLibrary {slot : String} {next : Nat → Running Answer}
    (rest : ∀ number, Performs allowed (next number)) :
    Performs allowed (withLibrary slot next) := by
  apply Performs.inspect
  · exact fun session pending => rfl
  · intro session
    split
    · exact rest _
    · exact .pure _

theorem performs_withOwnLibrary {slot : String} {next : Nat → Running Answer}
    (rest : ∀ number, Performs allowed (next number)) :
    Performs allowed (withOwnLibrary slot next) := by
  apply performs_withLibrary
  intro number
  apply Performs.inspect
  · exact fun session pending => rfl
  · intro session
    split
    · exact rest number
    · exact .pure _

theorem performs_withSymbol {slot : String} {next : HeldSymbol → Running Answer}
    (rest : ∀ held, Performs allowed (next held)) :
    Performs allowed (withSymbol slot next) := by
  apply Performs.inspect
  · exact fun session pending => rfl
  · intro session
    split
    · exact rest _
    · exact .pure _

/-- Carry out an operation on one of the libraries and go on with its result. -/
def onLibrary (number : Nat) (operation : SharedLibrary → Loading α) (next : α → Running β) :
    Running β := do
  next (← perform (operation ((← get).library number)))

theorem performs_onLibrary {operation : SharedLibrary → Loading α} {next : α → Running β}
    (isAllowed : ∀ library, allowed α (operation library))
    (rest : ∀ value, Performs allowed (next value)) (number : Nat) :
    Performs allowed (onLibrary number operation next) := by
  apply Performs.inspect
  · exact fun session pending => rfl
  · exact fun session => (Performs.perform (isAllowed _)).bind rest

theorem performs_askLibrary {operation : SharedLibrary → Loading (Except Error α)}
    (isAllowed : ∀ library, allowed _ (operation library)) (slot : String)
    (answer : α → Answer) : Performs allowed (askLibrary slot operation answer) := by
  apply performs_withLibrary
  apply performs_onLibrary isAllowed
  intro outcome
  cases outcome with
  | ok value => exact .pure _
  | error error => exact .pure _

/-- What becomes of the symbol that was to be imported from a library. -/
def settleImport (symbol : String) (number : Nat) (move : Bool) :
    Except Error ImportedSymbol → Running Answer
  | .ok resolved => do
      putSymbol symbol { library := number, symbol := resolved }
      return .imported resolved.address
  | .error error => do
      if move then
        release number
      return .failed error

theorem performs_settleImport (symbol : String) (number : Nat) (move : Bool)
    (outcome : Except Error ImportedSymbol) :
    Performs (fun _ => Resolving) (settleImport symbol number move outcome) := by
  cases outcome with
  | ok resolved => exact (performs_putSymbol _ _).bind fun _ => .pure _
  | error error =>
      cases move with
      | true => exact (performs_release number).bind fun _ => .pure _
      | false => exact .pure _

theorem performs_importFrom (symbol : String) (kind : ImportKind) (slot name : String)
    (move : Bool) : Performs (fun _ => Resolving) (importFrom symbol kind slot name move) := by
  apply performs_withLibrary
  intro number
  have imports : Performs (fun _ => Resolving)
      (onLibrary number (·.importSymbol kind name) (settleImport symbol number move)) :=
    performs_onLibrary (fun library => library.resolving_importSymbol kind name)
      (performs_settleImport symbol number move) number
  cases move with
  | true => exact (performs_eraseLibrary slot).bind fun _ => imports
  | false => exact imports

theorem performs_importAt (symbol : String) (kind : ImportKind) (path : Path) (name : String)
    (mode : LoadMode) :
    Performs (fun _ => Loading.Tidy) (importAt symbol kind path name mode) := by
  apply (Performs.perform (SharedLibrary.unloaded.tidy_load path mode)).bind
  intro opened
  cases opened with
  | error error => exact .pure _
  | ok library =>
      apply (Performs.perform (library.resolving_importSymbol kind name).tidy).bind
      intro outcome
      cases outcome with
      | ok resolved =>
          apply (Performs.adopt library).bind
          intro number
          exact ((performs_putSymbol _ _).mono Resolving.tidy).bind fun _ => .pure _
      | error error =>
          exact (Performs.perform library.resolving_unload.tidy).bind fun _ => .pure _

theorem performs_store (slot : String) (outcome : Except Error SharedLibrary) :
    Performs (fun _ => Resolving) (store slot outcome) := by
  cases outcome with
  | error error => exact .pure _
  | ok library =>
      apply (Performs.adopt library).bind
      exact fun number => (performs_putLibrary slot number).bind fun _ => .pure _

theorem performs_locate (address : UInt64) :
    Performs (fun _ => Loading.Tidy) (locate address) := by
  apply (Performs.perform (Loading.Tidy.locate address)).bind
  intro outcome
  cases outcome with
  | ok path => exact .pure _
  | error error => exact .pure _

theorem performs_setLibrary (number : Nat) (library : SharedLibrary) :
    Performs allowed (setLibrary number library) :=
  .modify (fun _ _ => rfl) fun _ => rfl

theorem performs_programLocation : Performs allowed programLocation := by
  apply Performs.read.bind
  intro system
  cases system.programLocation with
  | ok path => exact .pure _
  | error error => exact .pure _

end Steps

end Running

open Running

/-- The slot of the library and the name that a step looks up. -/
def Step.lookup? : Step → Option (String × String)
  | .symbolAddress slot name | .has slot name | .readObject slot name
  | .callFunction slot name _ _ | .readAlias slot name | .importFrom _ _ slot name _ =>
      some (slot, name)
  | _ => none

/-- A lookup makes no calls but lookups, and closes what has lost its last holder. -/
theorem Step.performs_lookup {step : Step} (looksUp : step.lookup?.isSome = true) :
    Performs (fun _ => Resolving) step.run := by
  cases step with
  | symbolAddress slot name =>
      exact performs_askLibrary (fun library => library.resolving_symbolAddress name) slot _
  | has slot name =>
      apply performs_withLibrary
      apply performs_onLibrary fun library => library.resolving_has name
      exact fun found => .pure _
  | readObject slot name =>
      exact performs_askLibrary (fun library => library.resolving_symbolAddress name) slot _
  | callFunction slot name first second =>
      exact performs_askLibrary (fun library => library.resolving_symbolAddress name) slot _
  | readAlias slot name =>
      exact performs_askLibrary (fun library => library.resolving_aliasAddress name) slot _
  | importFrom symbol kind slot name move => exact performs_importFrom symbol kind slot name move
  | _ => cases looksUp

theorem Step.performs_load (slot : String) (path : Path) (mode : LoadMode) :
    Performs (fun _ => Loading.Tidy) (Step.load slot path mode).run := by
  apply performs_withOwnLibrary
  intro number
  apply performs_onLibrary (fun library => library.tidy_load path mode) _ number
  intro outcome
  cases outcome with
  | ok library => exact (performs_setLibrary number library).bind fun _ => .pure _
  | error error => exact (performs_setLibrary number .unloaded).bind fun _ => .pure _

theorem Step.performs_unload (slot : String) :
    Performs (fun _ => Loading.Tidy) (Step.unload slot).run := by
  apply performs_withOwnLibrary
  intro number
  apply performs_onLibrary (fun library => library.resolving_unload.tidy) _ number
  exact fun _ => (performs_setLibrary number .unloaded).bind fun _ => .pure _

theorem Step.performs_take (slot target : String) :
    Performs (fun _ => Resolving) (Step.take slot target).run := by
  apply performs_withOwnLibrary
  intro number
  apply Performs.inspect
  · exact fun session pending => rfl
  · intro session
    apply (performs_setLibrary number .unloaded).bind
    intro _
    apply (Performs.adopt _).bind
    exact fun number => (performs_putLibrary target number).bind fun _ => .pure _

/-- Every operation of a step takes the texts of its calls. -/
theorem Step.performs_run (step : Step) : Performs (fun _ => Loading.Tidy) step.run := by
  have slots {action : Running Answer} (performs : Performs (fun _ => Resolving) action) :
      Performs (fun _ => Loading.Tidy) action :=
    performs.mono Resolving.tidy
  cases step with
  | symbolAddress | has | readObject | callFunction | readAlias | importFrom =>
      exact slots (performs_lookup rfl)
  | create slot => exact slots (performs_store slot (.ok .unloaded))
  | openAt slot path mode =>
      exact (Performs.perform (SharedLibrary.unloaded.tidy_load path mode)).bind fun outcome =>
        slots (performs_store slot outcome)
  | openSelf slot mode =>
      exact (Performs.perform (SharedLibrary.tidy_openSelf mode)).bind fun outcome =>
        slots (performs_store slot outcome)
  | load slot path mode => exact performs_load slot path mode
  | unload slot => exact performs_unload slot
  | take slot target => exact slots (performs_take slot target)
  | share slot target =>
      exact slots (performs_withLibrary fun number =>
        (performs_putLibrary target number).bind fun _ => .pure _)
  | drop slot =>
      exact slots (performs_withLibrary fun _ => (performs_dropLibrary slot).bind fun _ => .pure _)
  | state slot =>
      exact performs_withLibrary fun number => .inspect (fun _ _ => rfl) fun _ => .pure _
  | describe slot =>
      exact performs_withLibrary fun number => .inspect (fun _ _ => rfl) fun _ => .pure _
  | location slot => exact performs_askLibrary (fun library => library.tidy_location) slot _
  | importAt symbol kind path name mode => exact performs_importAt symbol kind path name mode
  | cloneSymbol symbol target =>
      exact slots (performs_withSymbol fun held =>
        (performs_putSymbol target held).bind fun _ => .pure _)
  | dropSymbol symbol =>
      exact slots (performs_withSymbol fun _ =>
        (performs_dropSymbol symbol).bind fun _ => .pure _)
  | symbolState symbol =>
      exact performs_withSymbol fun held => .inspect (fun _ _ => rfl) fun _ => .pure _
  | symbolLibrary symbol target =>
      exact slots (performs_withSymbol fun held =>
        (performs_putLibrary target held.library).bind fun _ => .pure _)
  | readImported symbol => exact performs_withSymbol fun held => .pure _
  | callImported symbol first second => exact performs_withSymbol fun held => .pure _
  | describeSymbol symbol =>
      exact performs_withSymbol fun held => .inspect (fun _ _ => rfl) fun _ => .pure _
  | locate address nonNull =>
      change Performs _ (if (nonNull && address == 0) = true then _ else Running.locate address)
      split
      · exact .pure _
      · exact performs_locate address
  | locateSymbol symbol =>
      exact performs_withSymbol fun held => Performs.read.bind fun _ => performs_locate _
  | locateHere => exact Performs.read.bind fun _ => performs_locate _
  | programLocation => exact performs_programLocation

/-- The library in a slot, if there is one. -/
def Session.libraryIn? (session : Session) (slot : String) : Option SharedLibrary :=
  (session.librarySlots.get? slot).map session.library

section Lookups

variable {α β : Type} {system : System} {session : Session} {slot name : String} {number : Nat}

theorem Running.withLibrary_of_present (present : session.librarySlots.get? slot = some number)
    (next : Nat → Running Answer) :
    withLibrary slot next system session = next number system session := by
  unfold withLibrary
  rw [run_bind, run_get, present]

theorem Running.pending_onLibrary {operation : SharedLibrary → Loading α} {next : α → Running β}
    (clears : Loading.Clears (operation (session.library number)))
    (rest : ∀ value, Performs (fun _ => Resolving) (next value)) :
    (onLibrary number operation next system session).2.loader.pending = none :=
  (((rest _).mono Resolving.tidy).tidy system _).pending (clears system session.loader)

theorem Running.pending_askLibrary {operation : SharedLibrary → Loading (Except Error α)}
    (present : session.librarySlots.get? slot = some number)
    (clears : Loading.Clears (operation (session.library number))) (answer : α → Answer) :
    (askLibrary slot operation answer system session).2.loader.pending = none := by
  unfold askLibrary
  rw [withLibrary_of_present present]
  apply pending_onLibrary clears
  intro outcome
  cases outcome with
  | ok value => exact .pure _
  | error error => exact .pure _

/-- The slot may have been emptied when the symbol is looked up. -/
theorem Running.importFrom_of_present (present : session.librarySlots.get? slot = some number)
    (symbol : String) (kind : ImportKind) (name : String) (move : Bool) (system : System) :
    ∃ between : Session, between.loader = session.loader ∧
      between.library number = session.library number ∧
      importFrom symbol kind slot name move system session =
        onLibrary number (·.importSymbol kind name) (settleImport symbol number move) system
          between := by
  unfold importFrom
  rw [withLibrary_of_present present]
  cases move with
  | true =>
      exact ⟨{ session with librarySlots := session.librarySlots.erase slot }, rfl, rfl, rfl⟩
  | false => exact ⟨session, rfl, rfl, rfl⟩

theorem Running.pending_importFrom (present : session.librarySlots.get? slot = some number)
    (loaded : (session.library number).isLoaded = true) (noNul : Char.ofNat 0 ∉ name.toList)
    (symbol : String) (kind : ImportKind) (move : Bool) :
    (importFrom symbol kind slot name move system session).2.loader.pending = none := by
  obtain ⟨between, _, same, runs⟩ := importFrom_of_present present symbol kind name move system
  rw [runs]
  apply pending_onLibrary
  · rw [same]
    exact SharedLibrary.clears_importSymbol loaded noNul kind
  · exact performs_settleImport symbol number move

/-- A lookup that reaches the loader leaves nothing pending. -/
theorem Step.pending_lookup {step : Step} (looksUp : step.lookup? = some (slot, name))
    {library : SharedLibrary} (inSlot : session.libraryIn? slot = some library)
    (loaded : library.isLoaded = true) (noNul : Char.ofNat 0 ∉ name.toList) (system : System) :
    (step.run system session).2.loader.pending = none := by
  obtain ⟨number, present, rfl⟩ := Option.map_eq_some_iff.mp inSlot
  cases step with
  | symbolAddress _ _ | readObject _ _ | callFunction _ _ _ _ =>
      cases looksUp
      exact pending_askLibrary present (SharedLibrary.clears_symbolAddress loaded noNul) _
  | readAlias _ _ =>
      cases looksUp
      exact pending_askLibrary present (SharedLibrary.clears_aliasAddress loaded noNul) _
  | has _ _ =>
      cases looksUp
      change (withLibrary slot (fun number => onLibrary number (·.has name) _) system
        session).2.loader.pending = none
      rw [withLibrary_of_present present]
      exact pending_onLibrary (SharedLibrary.clears_has loaded noNul) fun found => .pure _
  | importFrom symbol kind _ _ move =>
      cases looksUp
      exact pending_importFrom present loaded noNul symbol kind move
  | _ => cases looksUp

end Lookups

end SharedObject
