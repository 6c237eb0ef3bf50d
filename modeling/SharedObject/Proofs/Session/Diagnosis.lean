import SharedObject.Proofs.Loader.Diagnosis
import SharedObject.Proofs.Session.Pending

/-!
# Texts of the errors of a session

In a session that logs and starts with no text pending, none is pending between its steps.
An error that a step is answered with over a call of the loader thus carries the text that
this call has set, and never one that was left by another.
-/

namespace SharedObject

/-- What a step asks of the system when it names no path and no symbol. -/
def Step.asked (session : Session) : Step → Option System.Inquiry
  | .openSelf _ _ => some .program
  | .location slot => ((session.libraryIn? slot).bind (·.handle)).map .fileOf
  | _ => none

/-- If the answer is an error, that error is explained. -/
def System.Justifies (system : System) (asked : Option System.Inquiry)
    (result : Answer × Session) : Prop :=
  ∀ error, result.1 = .failed error → system.Explains asked result.2.loader.calls error

namespace Running

variable {α : Type} {system : System} {asked : Option System.Inquiry} {session : Session}

theorem justifies_of_ne {result : Answer × Session}
    (unfailing : ∀ error, result.1 ≠ .failed error) : system.Justifies asked result :=
  fun error failed => absurd failed (unfailing error)

section Slots

variable {slot : String}

theorem justifies_withLibrary {next : Nat → Running Answer}
    (rest : ∀ number, session.librarySlots.get? slot = some number →
      system.Justifies asked (next number system session)) :
    system.Justifies asked (withLibrary slot next system session) :=
  withLibrary_cases (motive := fun result => system.Justifies asked result)
    (fun _ => justifies_of_ne nofun) rest

theorem justifies_withOwnLibrary {next : Nat → Running Answer}
    (rest : ∀ number, system.Justifies asked (next number system session)) :
    system.Justifies asked (withOwnLibrary slot next system session) :=
  withOwnLibrary_cases (motive := fun result => system.Justifies asked result)
    (fun _ => justifies_of_ne nofun) (fun _ _ _ => justifies_of_ne nofun)
    fun number _ _ => rest number

theorem justifies_withSymbol {next : HeldSymbol → Running Answer}
    (rest : ∀ held, system.Justifies asked (next held system session)) :
    system.Justifies asked (withSymbol slot next system session) :=
  withSymbol_cases (motive := fun result => system.Justifies asked result)
    (fun _ => justifies_of_ne nofun) fun held _ => rest held

end Slots

/-- What is not there is refused. -/
theorem elim_ne_failed {answer : α → Answer}
    (unfailing : ∀ value error, answer value ≠ .failed error)
    (found : Option α) (refusal : Refusal) (error : Error) :
    found.elim (.refused refusal) answer ≠ .failed error := by
  cases found with
  | none => exact nofun
  | some value => exact unfailing value error

section Operations

variable {operation : Loading (Except Error α)} {next : Except Error α → Running Answer}

/-- The error of an operation is the answer, whatever is closed before it is given. -/
theorem justifies_perform (nothing : session.loader.pending = none) (tidy : operation.Tidy)
    (diagnoses : operation.Diagnoses asked)
    (settles : ∀ error, Performs (fun _ => Loading.Tidy) (next (.error error)))
    (passes : ∀ error later, (next (.error error) system later).1 = .failed error)
    (rest : ∀ value later, later.loader.pending = none →
      system.Justifies asked (next (.ok value) system later)) :
    system.Justifies asked ((perform operation >>= next) system session) := by
  rw [run_bind, run_perform]
  have explained := diagnoses system session.loader nothing
  have emptied := (tidy system session.loader).pending nothing
  cases outcome : (operation system session.loader).1 with
  | ok value => exact rest value _ emptied
  | error cause =>
      intro error failed
      rw [passes] at failed
      cases failed
      have settled := (settles cause).tidy system
        { session with loader := (operation system session.loader).2 }
      exact (explained cause outcome).mono settled.calls

theorem justifies_onLibrary {operation : SharedLibrary → Loading (Except Error α)}
    (nothing : session.loader.pending = none) (tidy : ∀ library, (operation library).Tidy)
    {number : Nat} (diagnoses : (operation (session.library number)).Diagnoses asked)
    (settles : ∀ error, Performs (fun _ => Loading.Tidy) (next (.error error)))
    (passes : ∀ error later, (next (.error error) system later).1 = .failed error)
    (rest : ∀ value later, later.loader.pending = none →
      system.Justifies asked (next (.ok value) system later)) :
    system.Justifies asked (onLibrary number operation next system session) :=
  justifies_perform nothing (tidy _) diagnoses settles passes rest

theorem justifies_askLibrary {operation : SharedLibrary → Loading (Except Error α)}
    {slot : String} {answer : α → Answer} (nothing : session.loader.pending = none)
    (tidy : ∀ library, (operation library).Tidy)
    (diagnoses : ∀ library, session.libraryIn? slot = some library →
      (operation library).Diagnoses asked)
    (unfailing : ∀ value error, answer value ≠ .failed error) :
    system.Justifies asked (askLibrary slot operation answer system session) := by
  apply justifies_withLibrary
  intro number present
  have inSlot : session.libraryIn? slot = some (session.library number) := by
    rw [Session.libraryIn?, present]
    rfl
  apply justifies_onLibrary nothing tidy (diagnoses _ inSlot)
  · exact fun error => .pure _
  · exact fun error later => rfl
  · exact fun value later _ => justifies_of_ne (unfailing value)

theorem justifies_store {operation : Loading (Except Error SharedLibrary)} (slot : String)
    (nothing : session.loader.pending = none) (tidy : operation.Tidy)
    (diagnoses : operation.Diagnoses asked) :
    system.Justifies asked ((do store slot (← perform operation)) system session) := by
  apply justifies_perform nothing tidy diagnoses
  · exact fun error => .pure _
  · exact fun error later => rfl
  · exact fun library later _ => justifies_of_ne nofun

theorem justifies_locate (address : UInt64) (nothing : session.loader.pending = none) :
    system.Justifies asked (locate address system session) := by
  apply justifies_perform nothing (Loading.Tidy.locate address) (Loading.diagnoses_locate address)
  · exact fun error => .pure _
  · exact fun error later => rfl
  · exact fun path later _ => justifies_of_ne nofun

theorem justifies_programLocation :
    system.Justifies asked (programLocation system session) := by
  intro error failed
  unfold programLocation at failed
  rw [run_bind, run_read] at failed
  dsimp only at failed
  cases unknown : system.programLocation with
  | ok path =>
      rw [unknown] at failed
      cases failed
  | error cause =>
      rw [unknown] at failed
      cases failed
      exact .inr (.noProgram unknown)

theorem justifies_importAt (symbol : String) (kind : ImportKind) (path : Path) (name : String)
    (mode : LoadMode) (nothing : session.loader.pending = none) :
    system.Justifies asked (importAt symbol kind path name mode system session) := by
  apply justifies_perform nothing (SharedLibrary.unloaded.tidy_load path mode)
    (SharedLibrary.unloaded.diagnoses_load path mode)
  · exact fun error => .pure _
  · exact fun error later => rfl
  · intro library opened emptied
    apply justifies_perform emptied (library.resolving_importSymbol kind name).tidy
      (library.diagnoses_importSymbol kind name)
    · exact fun error => (Performs.perform library.resolving_unload.tidy).bind fun _ => .pure _
    · exact fun error later => rfl
    · exact fun resolved later _ => justifies_of_ne nofun

theorem justifies_importFrom (symbol : String) (kind : ImportKind) (slot name : String)
    (move : Bool) (nothing : session.loader.pending = none) :
    system.Justifies asked (importFrom symbol kind slot name move system session) := by
  cases present : session.librarySlots.get? slot with
  | none =>
      apply justifies_withLibrary
      intro number other
      rw [present] at other
      cases other
  | some number =>
      obtain ⟨between, same, _, runs⟩ :=
        importFrom_of_present present symbol kind name move system
      rw [runs]
      rw [← same] at nothing
      apply justifies_onLibrary nothing
        (fun library => (library.resolving_importSymbol kind name).tidy)
        ((between.library number).diagnoses_importSymbol kind name)
      · exact fun error => (performs_settleImport _ _ _ (.error error)).mono Loading.Resolving.tidy
      · intro error later
        cases move with
        | true => rfl
        | false => rfl
      · exact fun resolved later _ => justifies_of_ne nofun

end Operations

end Running

open Running

theorem Step.justifies_load (slot : String) (path : Path) (mode : LoadMode) {system : System}
    {session : Session} {asked : Option System.Inquiry} (nothing : session.loader.pending = none) :
    system.Justifies asked ((Step.load slot path mode).run system session) := by
  apply justifies_withOwnLibrary
  intro number
  apply justifies_onLibrary nothing (fun library => library.tidy_load path mode)
    ((session.library number).diagnoses_load path mode)
  · exact fun error => (performs_setLibrary number .unloaded).bind fun _ => .pure _
  · exact fun error later => rfl
  · exact fun library later _ => justifies_of_ne nofun

theorem Session.asked_of_libraryIn? {session : Session} {slot : String} {library : SharedLibrary}
    (inSlot : session.libraryIn? slot = some library) :
    (Step.location slot).asked session = library.handle.map .fileOf := by
  rw [Step.asked, inSlot]
  rfl

/-- Whatever a step does, the error that it is answered with is explained. -/
theorem Step.justifies_run (step : Step) {system : System} {session : Session}
    (nothing : session.loader.pending = none) :
    system.Justifies (step.asked session) (step.run system session) := by
  have finding (name : String) (library : SharedLibrary) : (library.symbolAddress name).Tidy :=
    (library.resolving_symbolAddress name).tidy
  cases step with
  | create slot => exact justifies_of_ne nofun
  | openAt slot path mode =>
      exact justifies_store slot nothing (SharedLibrary.unloaded.tidy_load path mode)
        (SharedLibrary.unloaded.diagnoses_load path mode)
  | openSelf slot mode =>
      exact justifies_store slot nothing (SharedLibrary.tidy_openSelf mode)
        (SharedLibrary.diagnoses_openSelf mode)
  | load slot path mode => exact justifies_load slot path mode nothing
  | unload slot | take slot target =>
      exact justifies_withOwnLibrary fun number => justifies_of_ne nofun
  | share slot target | drop slot | state slot | describe slot | has slot name =>
      exact justifies_withLibrary fun number _ => justifies_of_ne nofun
  | symbolAddress slot name =>
      exact justifies_askLibrary nothing (finding name)
        (fun library _ => library.diagnoses_symbolAddress name) nofun
  | readObject slot name =>
      exact justifies_askLibrary nothing (finding name)
        (fun library _ => library.diagnoses_symbolAddress name)
        fun address => elim_ne_failed nofun _ _
  | callFunction slot name first second =>
      exact justifies_askLibrary nothing (finding name)
        (fun library _ => library.diagnoses_symbolAddress name)
        fun address => elim_ne_failed nofun _ _
  | readAlias slot name =>
      exact justifies_askLibrary nothing (fun library => (library.resolving_aliasAddress name).tidy)
        (fun library _ => library.diagnoses_aliasAddress name)
        fun address => elim_ne_failed nofun _ _
  | location slot =>
      apply justifies_askLibrary nothing fun library => library.tidy_location
      · intro library inSlot
        rw [Session.asked_of_libraryIn? inSlot]
        exact library.diagnoses_location
      · exact nofun
  | importAt symbol kind path name mode =>
      exact justifies_importAt symbol kind path name mode nothing
  | importFrom symbol kind slot name move =>
      exact justifies_importFrom symbol kind slot name move nothing
  | cloneSymbol symbol target | dropSymbol symbol | symbolState symbol
  | symbolLibrary symbol target =>
      exact justifies_withSymbol fun held => justifies_of_ne nofun
  | readImported symbol =>
      exact justifies_withSymbol fun held => justifies_of_ne (elim_ne_failed nofun _ _)
  | callImported symbol first second =>
      exact justifies_withSymbol fun held => justifies_of_ne (elim_ne_failed nofun _ _)
  | describeSymbol symbol =>
      exact justifies_withSymbol fun held => justifies_of_ne (elim_ne_failed nofun _ _)
  | locate address nonNull =>
      change system.Justifies _ ((if (nonNull && address == 0) = true then _ else
        Running.locate address : Running Answer) system session)
      split
      · exact justifies_of_ne nofun
      · exact justifies_locate address nothing
  | locateSymbol symbol => exact justifies_withSymbol fun held => justifies_locate _ nothing
  | locateHere => exact justifies_locate _ nothing
  | programLocation => exact justifies_programLocation

namespace Session

/-- Nothing is pending between the steps of a session that starts with nothing pending. -/
theorem pending_runSteps (system : System) {session : Session}
    (nothing : session.loader.pending = none) (steps : List Step) :
    (runSteps system session steps).2.loader.pending = none := by
  induction steps generalizing session with
  | nil => exact nothing
  | cons step steps ih =>
      have tidied := step.performs_run.tidy system session.forgetCalls
      exact ih (tidied.pending nothing)

/-- A lookup does the same whatever is pending before it; if it reaches the loader, nothing
is pending afterwards. -/
theorem run_withPending (system : System) {step : Step} {slot name : String}
    (looksUp : step.lookup? = some (slot, name)) (session : Session) (pending : Option String) :
    ∃ left,
      step.run system (session.withPending pending) =
          ((step.run system session).1, (step.run system session).2.withPending left) ∧
        ∀ library, session.libraryIn? slot = some library → library.isLoaded = true →
          Char.ofNat 0 ∉ name.toList → left = none := by
  have resolving : Performs (fun _ => Loading.Resolving) step.run :=
    Step.performs_lookup (by rw [looksUp]; rfl)
  have oblivious := (resolving.mono Loading.Resolving.oblivious).oblivious
  obtain ⟨left, alike⟩ := oblivious system session pending
  refine ⟨left, alike, ?_⟩
  intro library inSlot loaded noNul
  have sameSlot : (session.withPending pending).libraryIn? slot = some library := inSlot
  have cleared := Step.pending_lookup looksUp sameSlot loaded noNul system
  rw [alike] at cleared
  exact cleared

/-- With logging on, a step leaves no text pending unless one was pending before it, and
emptying the slots leaves none either.  After any steps of a session that starts with none,
every error over a call of the loader has the text that this call has set, or none.  What a
lookup does depends on no text, and it leaves none pending when it reaches the loader. -/
theorem text_of_own_call (system : System) :
    (∀ session : Session, session.loader.pending = none →
      (∀ step : Step, (step.run system session).2.loader.pending = none) ∧
        (dropAll system session).2.loader.pending = none) ∧
    (∀ (steps : List Step) (step : Step) (error : Error),
      let before := (runSteps system (start none) steps).2.forgetCalls
      (step.run system before).1 = .failed error →
        system.Explains (step.asked before) (step.run system before).2.loader.calls error) ∧
    (∀ (step : Step) (slot name : String), step.lookup? = some (slot, name) →
      ∀ (session : Session) (pending : Option String), ∃ left,
        step.run system (session.withPending pending) =
            ((step.run system session).1, (step.run system session).2.withPending left) ∧
          ∀ library, session.libraryIn? slot = some library → library.isLoaded = true →
            Char.ofNat 0 ∉ name.toList → left = none) := by
  refine ⟨?_, ?_, ?_⟩
  · intro session nothing
    constructor
    · exact fun step => (step.performs_run.tidy system session).pending nothing
    · have tidy := (performs_dropAll.mono Loading.Resolving.tidy).tidy
      exact (tidy system session).pending nothing
  · intro steps step error before failed
    have clean : (start none).loader.pending = none := rfl
    have nothing : before.loader.pending = none := pending_runSteps system clean steps
    exact step.justifies_run nothing error failed
  · exact fun step slot name looksUp => run_withPending system looksUp

/-- A system where nothing but the running program can be opened, no symbol is found, and
closing fails. -/
def reluctant : System where
  program := none
  fileExists := fun _ => false
  canonical := fun _ => none
  opening := fun target => if target.isNone then .ok ⟨0⟩ else .error (some "no such file")
  symbol := fun _ _ => .error (some "undefined symbol")
  linkMap := fun _ => .absent
  closing := fun _ => some "still in use"
  modules := []
  memory := 0

/-- A symbol is looked up in vain after another call has failed. -/
theorem text_of_own_call_of_lookup :
    let steps : List Step := [.openAt "file" ⟨[0x78]⟩ .empty, .openSelf "program" .empty]
    let before := (runSteps reluctant (start none) steps).2.forgetCalls
    let step := Step.symbolAddress "program" "f"
    let after := step.run reluctant before
    let error := Error.symbolNotFound "f" (.reported "undefined symbol")
    before.loader.pending = none ∧ after.2.loader.pending = none ∧
      after.1 = .failed error ∧ reluctant.Explains none after.2.loader.calls error ∧
      step.lookup? = some ("program", "f") ∧
      before.libraryIn? "program" = some ⟨some ⟨0⟩⟩ ∧ Char.ofNat 0 ∉ "f".toList ∧
      step.run reluctant (before.withPending (some "old")) =
        (after.1, after.2.withPending none) := by
  intro steps before step after error
  obtain ⟨taken, explained, alike⟩ := text_of_own_call reluctant
  have nothing : before.loader.pending = none := by decide +kernel
  have failed : after.1 = .failed error := by decide +kernel
  have looksUp : step.lookup? = some ("program", "f") := rfl
  have inSlot : before.libraryIn? "program" = some ⟨some ⟨0⟩⟩ := by decide +kernel
  have noNul : Char.ofNat 0 ∉ "f".toList := by decide
  obtain ⟨left, same, cleared⟩ := alike step "program" "f" looksUp before (some "old")
  obtain rfl := cleared _ inSlot rfl noNul
  exact ⟨nothing, (taken before nothing).1 step, failed, explained steps step error failed,
    looksUp, inSlot, noNul, same⟩

/-- A library that is not loaded is asked for a symbol without the loader being told. -/
theorem pending_of_not_loaded :
    let before := ((Step.create "empty").run reluctant (start (some "old"))).2
    let after := (Step.symbolAddress "empty" "f").run reluctant before
    (Step.symbolAddress "empty" "f").lookup? = some ("empty", "f") ∧
      after.1 = .failed (.symbolNotFound "f" .libraryNotLoaded) ∧
      after.2.loader.pending = some "old" := by
  decide +kernel

end Session

end SharedObject
