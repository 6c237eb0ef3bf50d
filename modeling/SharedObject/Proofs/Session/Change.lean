import SharedObject.Proofs.Session.Accounts
import Mathlib.Data.Finset.Option

/-!
# What a step changes

Every step of a session is a change of one of five kinds: only the loader may be
different, a library may have exchanged its handle, holders may have come and
gone, a new library may have been taken in as well, or a library may have moved
to a new number.  A change lets go of at most one library.
-/

namespace SharedObject

namespace Session

/-- The library of a slot that is its only holder. -/
def ownLibrary? (session : Session) (slot : String) : Option Nat :=
  (session.librarySlots.get? slot).filter (session.holders · = 1)

theorem ownLibrary?_eq_some_iff (session : Session) (slot : String) (number : Nat) :
    session.ownLibrary? slot = some number ↔
      session.librarySlots.get? slot = some number ∧ session.holders number = 1 := by
  simp [ownLibrary?, Option.filter_eq_some_iff]

end Session

/-- The library that a step loads or unloads. -/
def Step.reloaded? (session : Session) : Step → Option Nat
  | .load slot _ _ | .unload slot => session.ownLibrary? slot
  | _ => none

/-- The library that a step moves out of its place. -/
def Step.moved? (session : Session) : Step → Option Nat
  | .take slot _ => session.ownLibrary? slot
  | _ => none

namespace Session

/-- The slots of `after` hold what those of `before` do and `gained`, except
possibly `lost`. -/
structure Reheld (before after : Session) (gained : Finset Nat) (lost : Option Nat) :
    Prop where
  within : after.held ⊆ before.held ∪ gained
  covers : before.held ∪ gained ⊆ after.held ∪ lost.toFinset

/-- The changes that a step may make to a session, with the library that it has
loaded or unloaded and the one that it has moved. -/
inductive Change (system : System) (before : Session) :
    Option Nat → Option Nat → Session → Prop
  /-- The loader has given up what it gained. -/
  | loading {loader : Loader} {closed : List Handle}
      (exchanged : Loader.Exchange none none closed before.loader loader) :
      Change system before none none { before with loader }
  /-- The library of a slot that holds it alone has been loaded or unloaded. -/
  | reloading {slot : String} {number : Nat} {library : SharedLibrary} {loader : Loader}
      {closed : List Handle} (own : before.ownLibrary? slot = some number)
      (exchanged : Loader.Exchange (before.library number).handle library.handle closed
        before.loader loader) :
      Change system before (some number) none
        { before with loader, libraries := before.libraries.put number library }
  /-- Holders have come and gone. -/
  | reholding {loader : Loader} {librarySlots : Slots String Nat}
      {symbolSlots : Slots String HeldSymbol} {lost : Option Nat}
      (exchanged : Loader.Exchange none none [] before.loader loader)
      (reheld : Reheld before { before with librarySlots, symbolSlots } ∅ lost) :
      Change system before none none
        (lost.forM Running.release system
          { before with loader, librarySlots, symbolSlots }).2
  /-- A library has been taken in under the next number. -/
  | adopting {loader : Loader} {library : SharedLibrary} {librarySlots : Slots String Nat}
      {symbolSlots : Slots String HeldSymbol} {lost : Option Nat}
      (exchanged : Loader.Exchange none library.handle [] before.loader loader)
      (reheld : Reheld before { before with librarySlots, symbolSlots }
        {before.nextNumber} lost) :
      Change system before none none
        (lost.forM Running.release system
          { before with
            loader, librarySlots, symbolSlots
            libraries := before.libraries.put before.nextNumber library
            nextNumber := before.nextNumber + 1 }).2
  /-- The library of a slot that holds it alone has moved to the next number. -/
  | moving {slot : String} {number : Nat} {librarySlots : Slots String Nat}
      {lost : Option Nat} (own : before.ownLibrary? slot = some number)
      (reheld : Reheld before { before with librarySlots } {before.nextNumber} lost) :
      Change system before none (some number)
        (lost.forM Running.release system
          { before with
            librarySlots
            libraries := (before.libraries.put number .unloaded).put before.nextNumber
              (before.library number)
            nextNumber := before.nextNumber + 1 }).2

section Slots

variable (session : Session)

theorem reheld_putLibrary (slot : String) (number : Nat) :
    Reheld session { session with librarySlots := session.librarySlots.put slot number }
      {number} (session.librarySlots.get? slot) := by
  constructor <;> intro other member <;>
    simp only [mem_held_iff, Slots.get?_put, Finset.mem_union, Finset.mem_singleton,
      Option.mem_toFinset, Option.mem_def] at member ⊢ <;> grind

theorem reheld_dropLibrary (slot : String) :
    Reheld session { session with librarySlots := session.librarySlots.erase slot }
      ∅ (session.librarySlots.get? slot) := by
  constructor <;> intro other member <;>
    simp only [mem_held_iff, Slots.get?_erase, Finset.mem_union, Finset.notMem_empty,
      Option.mem_toFinset, Option.mem_def] at member ⊢ <;> grind

theorem reheld_putSymbol (slot : String) (symbol : HeldSymbol) :
    Reheld session { session with symbolSlots := session.symbolSlots.put slot symbol }
      {symbol.library} ((session.symbolSlots.get? slot).map (·.library)) := by
  constructor <;> intro other member <;>
    simp only [mem_held_iff, Slots.get?_put, Finset.mem_union, Finset.mem_singleton,
      Option.mem_toFinset, Option.mem_def] at member ⊢ <;> grind

theorem reheld_dropSymbol (slot : String) :
    Reheld session { session with symbolSlots := session.symbolSlots.erase slot }
      ∅ ((session.symbolSlots.get? slot).map (·.library)) := by
  constructor <;> intro other member <;>
    simp only [mem_held_iff, Slots.get?_erase, Finset.mem_union, Finset.notMem_empty,
      Option.mem_toFinset, Option.mem_def] at member ⊢ <;> grind

/-- A library that goes from its slot to a symbol keeps a holder. -/
theorem reheld_moveToSymbol {slot : String} {symbol : HeldSymbol} (target : String)
    (present : session.librarySlots.get? slot = some symbol.library) :
    Reheld session
      { session with
        librarySlots := session.librarySlots.erase slot
        symbolSlots := session.symbolSlots.put target symbol }
      ∅ ((session.symbolSlots.get? target).map (·.library)) := by
  constructor <;> intro other member <;>
    simp only [mem_held_iff, Slots.get?_put, Slots.get?_erase, Finset.mem_union,
      Finset.notMem_empty, Option.mem_toFinset, Option.mem_def] at member ⊢ <;> grind

end Slots

variable {system : System} {before : Session}

theorem mem_held_of_slot {slot : String} {number : Nat}
    (present : before.librarySlots.get? slot = some number) : number ∈ before.held :=
  (mem_held_iff before number).mpr (Or.inl ⟨slot, present⟩)

theorem mem_held_of_symbol {slot : String} {symbol : HeldSymbol}
    (present : before.symbolSlots.get? slot = some symbol) : symbol.library ∈ before.held :=
  (mem_held_iff before symbol.library).mpr (Or.inr ⟨slot, symbol, present, rfl⟩)

/-- A library that is held already is no gain. -/
theorem Reheld.of_mem_held {after : Session} {number : Nat} {lost : Option Nat}
    (isHeld : number ∈ before.held) (reheld : Reheld before after {number} lost) :
    Reheld before after ∅ lost := by
  have same : before.held ∪ {number} = before.held ∪ ∅ := by
    simp [isHeld]
  exact ⟨same ▸ reheld.within, same ▸ reheld.covers⟩

theorem mem_held_of_own {slot : String} {number : Nat}
    (own : before.ownLibrary? slot = some number) : number ∈ before.held :=
  mem_held_of_slot ((ownLibrary?_eq_some_iff before slot number).mp own).1

namespace Change

theorem refl : Change system before none none before :=
  .loading (.refl before.loader)

theorem withLibrary {slot : String} {next : Nat → Running Answer}
    (change : ∀ number, before.librarySlots.get? slot = some number →
      Change system before none none (next number system before).2) :
    Change system before none none (Running.withLibrary slot next system before).2 :=
  Running.withLibrary_cases (motive := fun result => Change system before none none result.2)
    (fun _ => refl) change

theorem withOwnLibrary {slot : String} {next : Nat → Running Answer}
    {reloaded moved : Option Nat}
    (refused : before.ownLibrary? slot = none → reloaded = none ∧ moved = none)
    (change : ∀ number, before.ownLibrary? slot = some number →
      Change system before reloaded moved (next number system before).2) :
    Change system before reloaded moved
      (Running.withOwnLibrary slot next system before).2 := by
  have unchanged (absent : before.ownLibrary? slot = none) :
      Change system before reloaded moved before := by
    obtain ⟨rfl, rfl⟩ := refused absent
    exact refl
  refine Running.withOwnLibrary_cases
    (motive := fun result => Change system before reloaded moved result.2) ?_ ?_ ?_
  · exact fun absent => unchanged (by simp [ownLibrary?, absent])
  · exact fun number present shared => unchanged (by simp [ownLibrary?, present, shared])
  · exact fun number present alone =>
      change number ((ownLibrary?_eq_some_iff before slot number).mpr ⟨present, alone⟩)

theorem withSymbol {slot : String} {next : HeldSymbol → Running Answer}
    (change : ∀ held, before.symbolSlots.get? slot = some held →
      Change system before none none (next held system before).2) :
    Change system before none none (Running.withSymbol slot next system before).2 :=
  Running.withSymbol_cases (motive := fun result => Change system before none none result.2)
    (fun _ => refl) change

theorem askLibrary {α : Type} {operation : SharedLibrary → Loading (Except Error α)}
    (transfers : ∀ library, (operation library).Transfers none (fun _ => none) [])
    (slot : String) (answer : α → Answer) :
    Change system before none none (Running.askLibrary slot operation answer system before).2 := by
  refine withLibrary fun number _ => ?_
  simp only [Running.run_bind, Running.run_get, Running.run_perform]
  have exchanged := transfers (before.library number) system before.loader (by simp)
  cases (operation (before.library number) system before.loader).1 with
  | ok value => exact .loading exchanged
  | error error => exact .loading exchanged

theorem store {outcome : Except Error SharedLibrary} {loader : Loader}
    (exchanged : Loader.Exchange none (SharedLibrary.handleOf outcome) [] before.loader loader)
    (slot : String) :
    Change system before none none
      (Running.store slot outcome system { before with loader }).2 := by
  cases outcome with
  | ok library => exact .adopting exchanged (reheld_putLibrary before slot before.nextNumber)
  | error error => exact .loading exchanged

theorem locate (address : UInt64) :
    Change system before none none (Running.locate address system before).2 := by
  have exchanged : Loader.Exchange none none [] before.loader
      (Loading.locate address system before.loader).2 :=
    Loading.transfers_locate address system before.loader (by simp)
  simp only [Running.locate, Running.run_bind, Running.run_perform]
  cases (Loading.locate address system before.loader).1 with
  | ok path => exact .loading exchanged
  | error error => exact .loading exchanged

/-- A symbol that is imported from a library opened for it holds that library; if
it cannot be had, the library is closed again. -/
theorem importAt (symbol : String) (kind : ImportKind) (path : Path) (name : String)
    (mode : LoadMode) :
    Change system before none none
      (Running.importAt symbol kind path name mode system before).2 := by
  have opened := SharedLibrary.transfers_openAt path mode system before.loader (by simp)
  have covered := opened.references_pos (by simp)
  simp only [Running.importAt, Running.run_bind, Running.run_perform]
  generalize SharedLibrary.openAt path mode system before.loader = attempt at opened covered ⊢
  obtain ⟨outcome, loader⟩ := attempt
  cases outcome with
  | error error => exact .loading opened
  | ok library =>
      have resolved := library.transfers_importSymbol kind name system loader covered
      simp only [Running.run_bind, Running.run_perform]
      generalize library.importSymbol kind name system loader = lookup at resolved ⊢
      obtain ⟨found, after⟩ := lookup
      cases found with
      | ok symbol => exact .adopting (opened.trans resolved) (reheld_putSymbol before _ _)
      | error error =>
          have covered := resolved.references_pos covered
          have closed := library.transfers_unload system after covered
          exact .loading ((opened.trans resolved).trans closed)

/-- A symbol that is imported from the library of a slot holds it beside the slot
or in place of it. -/
theorem importFrom (symbol : String) (kind : ImportKind) (slot name : String) (move : Bool) :
    Change system before none none
      (Running.importFrom symbol kind slot name move system before).2 := by
  refine withLibrary fun number present => ?_
  have resolved : Loader.Exchange none none [] before.loader
      ((before.library number).importSymbol kind name system before.loader).2 :=
    (before.library number).transfers_importSymbol kind name system before.loader (by simp)
  cases move with
  | true =>
      have erased : ({ before with librarySlots := before.librarySlots.erase slot } :
          Session).library number = before.library number := rfl
      simp only [if_true, Running.run_bind, Running.eraseLibrary, Running.run_modify,
        Running.run_get, Running.run_perform, erased]
      generalize (before.library number).importSymbol kind name system before.loader = lookup
        at resolved ⊢
      obtain ⟨found, after⟩ := lookup
      cases found with
      | ok found => exact .reholding resolved (reheld_moveToSymbol before symbol present)
      | error error =>
          have reheld := reheld_dropLibrary before slot
          rw [present] at reheld
          exact .reholding resolved reheld
  | false =>
      simp only [Bool.false_eq_true, if_false, Running.run_bind, Running.run_get,
        Running.run_perform]
      generalize (before.library number).importSymbol kind name system before.loader = lookup
        at resolved ⊢
      obtain ⟨found, after⟩ := lookup
      cases found with
      | ok found =>
          have reheld := reheld_putSymbol before symbol { library := number, symbol := found }
          exact .reholding resolved (reheld.of_mem_held (mem_held_of_slot present))
      | error error => exact .loading resolved

end Change

variable (system before)

theorem change_load (slot : String) (path : Path) (mode : LoadMode)
    (owned : ∀ number handle, (before.library number).handle = some handle →
      0 < before.loader.references handle) :
    Change system before (before.ownLibrary? slot) none
      ((Step.load slot path mode).run system before).2 := by
  refine Change.withOwnLibrary (fun absent => ⟨absent, rfl⟩) fun number own => ?_
  rw [own]
  have exchanged := (before.library number).transfers_load path mode system before.loader
    (owned number)
  simp only [Running.run_bind, Running.run_get, Running.run_perform]
  generalize (before.library number).load path mode system before.loader = attempt
    at exchanged ⊢
  obtain ⟨outcome, loader⟩ := attempt
  cases outcome with
  | ok library => exact .reloading own exchanged
  | error error =>
      have failed : Loader.Exchange (before.library number).handle
        SharedLibrary.unloaded.handle _ before.loader loader := exchanged
      exact .reloading own failed

theorem change_unload (slot : String)
    (owned : ∀ number handle, (before.library number).handle = some handle →
      0 < before.loader.references handle) :
    Change system before (before.ownLibrary? slot) none
      ((Step.unload slot).run system before).2 := by
  refine Change.withOwnLibrary (fun absent => ⟨absent, rfl⟩) fun number own => ?_
  rw [own]
  have exchanged : Loader.Exchange (before.library number).handle
      SharedLibrary.unloaded.handle _ before.loader
      ((before.library number).unload system before.loader).2 :=
    (before.library number).transfers_unload system before.loader (owned number)
  exact .reloading own exchanged

theorem change_take (slot target : String) :
    Change system before none (before.ownLibrary? slot)
      ((Step.take slot target).run system before).2 := by
  refine Change.withOwnLibrary (fun absent => ⟨rfl, absent⟩) fun number own => ?_
  rw [own]
  exact .moving own (reheld_putLibrary before target before.nextNumber)

/-- Every step is a change of one of the five kinds, provided that libraries have
the references that their handles stand for. -/
theorem change_run (step : Step)
    (owned : ∀ number handle, (before.library number).handle = some handle →
      0 < before.loader.references handle) :
    Change system before (step.reloaded? before) (step.moved? before)
      (step.run system before).2 := by
  cases step with
  | create slot => exact Change.store (.refl before.loader) slot
  | openAt slot path mode =>
      exact Change.store
        (SharedLibrary.transfers_openAt path mode system before.loader (by simp)) slot
  | openSelf slot mode =>
      exact Change.store
        (SharedLibrary.transfers_openSelf mode system before.loader (by simp)) slot
  | load slot path mode => exact change_load system before slot path mode owned
  | unload slot => exact change_unload system before slot owned
  | take slot target => exact change_take system before slot target
  | share slot target =>
      refine Change.withLibrary fun number present => ?_
      exact .reholding (.refl before.loader)
        ((reheld_putLibrary before target number).of_mem_held (mem_held_of_slot present))
  | drop slot =>
      refine Change.withLibrary fun number present => ?_
      exact .reholding (.refl before.loader) (reheld_dropLibrary before slot)
  | state slot => exact Change.withLibrary fun _ _ => .refl
  | describe slot => exact Change.withLibrary fun _ _ => .refl
  | symbolAddress slot name =>
      exact Change.askLibrary (fun library => library.transfers_symbolAddress name) slot _
  | has slot name =>
      refine Change.withLibrary fun number _ => ?_
      exact .loading ((before.library number).transfers_has name system before.loader (by simp))
  | readObject slot name =>
      exact Change.askLibrary (fun library => library.transfers_symbolAddress name) slot _
  | callFunction slot name first second =>
      exact Change.askLibrary (fun library => library.transfers_symbolAddress name) slot _
  | readAlias slot name =>
      exact Change.askLibrary (fun library => library.transfers_aliasAddress name) slot _
  | location slot => exact Change.askLibrary (fun library => library.transfers_location) slot _
  | importAt symbol kind path name mode => exact Change.importAt symbol kind path name mode
  | importFrom symbol kind slot name move => exact Change.importFrom symbol kind slot name move
  | cloneSymbol symbol target =>
      refine Change.withSymbol fun held present => ?_
      exact .reholding (.refl before.loader)
        ((reheld_putSymbol before target held).of_mem_held (mem_held_of_symbol present))
  | dropSymbol symbol =>
      refine Change.withSymbol fun held present => ?_
      exact .reholding (.refl before.loader) (reheld_dropSymbol before symbol)
  | symbolState symbol => exact Change.withSymbol fun _ _ => .refl
  | symbolLibrary symbol target =>
      refine Change.withSymbol fun held present => ?_
      exact .reholding (.refl before.loader)
        ((reheld_putLibrary before target held.library).of_mem_held
          (mem_held_of_symbol present))
  | readImported symbol => exact Change.withSymbol fun _ _ => .refl
  | callImported symbol first second => exact Change.withSymbol fun _ _ => .refl
  | describeSymbol symbol => exact Change.withSymbol fun _ _ => .refl
  | locate address nonNull =>
      by_cases null : nonNull && address == 0
      · simpa [Step.run, Step.reloaded?, Step.moved?, null] using Change.refl
      · simpa [Step.run, Step.reloaded?, Step.moved?, null] using Change.locate address
  | locateSymbol symbol => exact Change.withSymbol fun _ _ => Change.locate _
  | locateHere => exact Change.locate _
  | programLocation =>
      show Change system before none none (Running.programLocation system before).2
      rw [Running.programLocation_frame]
      exact .refl

end Session

end SharedObject
