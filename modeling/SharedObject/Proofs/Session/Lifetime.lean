import SharedObject.Proofs.Session.Origins

/-!
# Libraries that imported symbols keep

A library that an imported symbol has held stays loaded with the handle in which
the symbol was found, whatever happens to other libraries and symbols.  Unless it
is loaded or unloaded after the symbol is gone, its handle is closed once, by the
step that takes its last holder.
-/

namespace SharedObject

/-- The origins of the symbols in the slots after steps with their answers and calls. -/
def Step.originsAfter (steps : List Step) (answers : List (Answer × List Call))
    (before : String → Option Handle) : String → Option Handle :=
  (steps.zip answers).foldl
    (fun origins (step, answer, calls) => step.origins answer calls origins) before

namespace Session

/-- The number that a library has after steps. -/
def numberAfter (system : System) : Session → Nat → List Step → Nat
  | _, number, [] => number
  | session, number, step :: steps =>
      numberAfter system (step.run system session.forgetCalls).2
        (step.successor session number) steps

/-- None of the steps loads or unloads a library. -/
def NeverReloaded (system : System) : Session → Nat → List Step → Prop
  | _, _, [] => True
  | session, number, step :: steps =>
      step.reloaded? session ≠ some number ∧
        NeverReloaded system (step.run system session.forgetCalls).2
          (step.successor session number) steps

variable {system : System} {session : Session} {counts : Handle → Nat} {number : Nat}
variable {handle : Handle}

theorem originsKept_runSteps {origins : String → Option Handle}
    (accounted : Accounted counts session none ∅) (kept : OriginsKept origins session)
    (system : System) (steps : List Step) :
    OriginsKept (Step.originsAfter steps (runSteps system session steps).1 origins)
      (runSteps system session steps).2 := by
  induction steps generalizing session origins counts with
  | nil => exact kept
  | cons step steps ih =>
      have first : OriginsKept origins session.forgetCalls := kept
      exact ih (accounted.step system step)
        (first.step accounted.forgetCalls rfl system step)

/-- A number that was given to a library with a handle; the library has that handle
as long as it is held. -/
structure Traced (handle : Handle) (session : Session) (number : Nat) : Prop where
  given : number < session.nextNumber
  owned : number ∈ session.held → (session.library number).handle = some handle

namespace Traced

variable (traced : Traced handle session number) (accounted : Accounted counts session none ∅)

include traced accounted

/-- A number that is not held is not held after a step either. -/
theorem gone (step : Step) (gone : number ∉ session.held) :
    step.successor session number ∉ (step.run system session.forgetCalls).2.held := by
  have changed := accounted.changeOfStep system step
  rw [Step.successor, if_neg (changed.moved_ne gone)]
  exact changed.notMem_held traced.given gone

theorem keptOrClosed (step : Step) (untouched : step.reloaded? session ≠ some number)
    (isHeld : number ∈ session.held) :
    KeptOrClosed (some handle) (step.successor session number)
      (step.run system session.forgetCalls).2 := by
  have changed := accounted.changeOfStep system step
  rw [← traced.owned isHeld]
  exact changed.keptOrClosed traced.given isHeld untouched rfl

theorem step (step : Step) (untouched : step.reloaded? session ≠ some number) :
    Traced handle (step.run system session.forgetCalls).2 (step.successor session number) := by
  have changed := accounted.changeOfStep system step
  refine ⟨changed.successor_lt traced.given, fun stays => ?_⟩
  by_cases isHeld : number ∈ session.held
  · rcases traced.keptOrClosed accounted step untouched isHeld with ⟨_, same⟩ | ⟨lost, _⟩
    · exact same
    · exact absurd stays lost
  · exact absurd stays (traced.gone accounted step isHeld)

theorem run (steps : List Step) (untouched : NeverReloaded system session number steps) :
    Traced handle (runSteps system session steps).2 (numberAfter system session number steps) := by
  induction steps generalizing session number counts with
  | nil => exact traced
  | cons step steps ih =>
      exact ih (traced.step accounted step untouched.1) (accounted.step system step) untouched.2

omit accounted in
/-- The owners of a handle are the library, while it is held, and the others. -/
theorem card_owners :
    (session.owners handle).card =
      ((session.owners handle).erase number).card + if number ∈ session.held then 1 else 0 := by
  by_cases isHeld : number ∈ session.held
  · have isOwner : number ∈ session.owners handle :=
      Finset.mem_filter.mpr ⟨isHeld, traced.owned isHeld⟩
    rw [if_pos isHeld, Finset.card_erase_add_one isOwner]
  · have noOwner : number ∉ session.owners handle :=
      fun isOwner => isHeld (Finset.mem_filter.mp isOwner).1
    rw [if_neg isHeld, Finset.erase_eq_of_notMem noOwner, Nat.add_zero]

/-- All closings and openings but one are those of other libraries: that one is the
closing of the library when it loses its last holder. -/
theorem counted (steps : List Step) (untouched : NeverReloaded system session number steps) :
    let after := (runSteps system session steps).2
    let calls := (runSteps system session steps).1.flatMap (·.2)
    let last := numberAfter system session number steps
    calls.countP (Call.closes handle) + ((after.owners handle).erase last).card +
        (if last ∈ after.held then 1 else 0) =
      calls.countP (Call.opens handle) + ((session.owners handle).erase number).card +
        if number ∈ session.held then 1 else 0 := by
  obtain ⟨⟨_, ended⟩, replayed⟩ := accounted_runSteps system accounted steps
  have balanced := Call.replay_count replayed handle
  rw [accounted.references_eq_card, ended.references_eq_card, traced.card_owners,
    (traced.run accounted steps untouched).card_owners] at balanced
  dsimp only
  omega

end Traced

/-- A library that is held and has a handle: it has the handle as long as it is held
and not loaded or unloaded.  The step that takes its last holder closes the handle,
and nothing holds it again.  Every other closing of the handle is for another
library, opened since or one of those that had the handle too. -/
structure ClosedOnce (system : System) (session : Session) (number : Nat) (handle : Handle) :
    Prop where
  kept : ∀ steps, NeverReloaded system session number steps →
    let after := (runSteps system session steps).2
    let last := numberAfter system session number steps
    last ∈ after.held →
      (after.library last).handle = some handle ∧ 0 < after.loader.references handle
  closed : ∀ (steps : List Step) (next : Step), NeverReloaded system session number steps →
    let between := (runSteps system session steps).2
    let last := numberAfter system session number steps
    let after := (next.run system between.forgetCalls).2
    next.reloaded? between ≠ some last → last ∈ between.held →
      next.successor between last ∉ after.held →
        after.loader.calls.filterMap Call.closedHandle? = [handle]
  gone : ∀ (steps : List Step) (next : Step), NeverReloaded system session number steps →
    let between := (runSteps system session steps).2
    let last := numberAfter system session number steps
    last ∉ between.held →
      next.successor between last ∉ (next.run system between.forgetCalls).2.held
  counted : ∀ steps, NeverReloaded system session number steps →
    let after := (runSteps system session steps).2
    let calls := (runSteps system session steps).1.flatMap (·.2)
    let last := numberAfter system session number steps
    calls.countP (Call.closes handle) + ((after.owners handle).erase last).card +
        (if last ∈ after.held then 1 else 0) =
      calls.countP (Call.opens handle) + ((session.owners handle).erase number).card + 1

theorem Traced.closedOnce (traced : Traced handle session number)
    (accounted : Accounted counts session none ∅) (isHeld : number ∈ session.held)
    (system : System) : ClosedOnce system session number handle where
  kept := by
    intro steps untouched after last stays
    obtain ⟨⟨_, ended⟩, _⟩ := accounted_runSteps system accounted steps
    have owned := (traced.run accounted steps untouched).owned stays
    exact ⟨owned, ended.references_pos last owned⟩
  closed := by
    intro steps next untouched between last after unchanged stays lost
    obtain ⟨⟨_, reached⟩, _⟩ := accounted_runSteps system accounted steps
    have later := traced.run accounted steps untouched
    rcases later.keptOrClosed reached next unchanged stays with ⟨still, _⟩ | ⟨_, closed⟩
    · exact absurd still lost
    · exact closed
  gone := by
    intro steps next untouched between last lost
    obtain ⟨⟨_, reached⟩, _⟩ := accounted_runSteps system accounted steps
    exact (traced.run accounted steps untouched).gone reached next lost
  counted := by
    intro steps untouched
    have counted := traced.counted accounted steps untouched
    rw [if_pos isHeld] at counted
    exact counted

/-- Steps that change a library in place are refused while it has other holders. -/
theorem refused_of_shared {slot : String} (present : session.librarySlots.get? slot = some number)
    (shared : session.holders number ≠ 1) (path : Path) (mode : LoadMode) (target : String)
    (system : System) :
    (Step.load slot path mode).run system session = (.refused .libraryShared, session) ∧
      (Step.unload slot).run system session = (.refused .libraryShared, session) ∧
      (Step.take slot target).run system session = (.refused .libraryShared, session) := by
  have refused (next : Nat → Running Answer) :
      Running.withOwnLibrary slot next system session =
        (.refused .libraryShared, session) := by
    simp [Running.withOwnLibrary, Running.withLibrary, present, shared]
  exact ⟨refused _, refused _, refused _⟩

/-- The library that an imported symbol holds has the handle that the symbol was found
in, and the image has a reference.  A step that does not fill or empty the symbol's
slot leaves it so; those that change a library in place are refused.  The handle is
closed once, by the step that takes the last holder of the library. -/
theorem symbol_keeps_library (system : System) (pending : Option String) (steps : List Step)
    {slot : String} {held : HeldSymbol}
    (present : (runSteps system (start pending) steps).2.symbolSlots.get? slot = some held) :
    let answers := (runSteps system (start pending) steps).1
    let session := (runSteps system (start pending) steps).2
    ∃ handle,
      Step.originsAfter steps answers (fun _ => none) slot = some handle ∧
      (session.library held.library).handle = some handle ∧
      0 < session.loader.references handle ∧
      (∀ step : Step,
        let (answer, after) := step.run system session.forgetCalls
        step.replaced? answer ≠ some slot →
          after.symbolSlots.get? slot = some held ∧
            (after.library held.library).handle = some handle ∧
            0 < after.loader.references handle) ∧
      (∀ other number path mode target, session.librarySlots.get? other = some number →
        session.holders number ≠ 1 ∨ number = held.library →
          (Step.load other path mode).run system session = (.refused .libraryShared, session) ∧
          (Step.unload other).run system session = (.refused .libraryShared, session) ∧
          (Step.take other target).run system session = (.refused .libraryShared, session)) ∧
      ClosedOnce system session held.library handle := by
  intro answers session
  obtain ⟨⟨_, accounted⟩, _⟩ := accounted_runSteps system (accounted_start pending) steps
  have nothing : OriginsKept (fun _ => none) (start pending) := by
    intro slot held absent
    cases absent
  have kept := originsKept_runSteps (accounted_start pending) nothing system steps
  obtain ⟨handle, origin, owned⟩ := kept slot held present
  have isHeld : held.library ∈ session.held := mem_held_of_symbol present
  have given : held.library < session.nextNumber :=
    accounted.numbers_lt _ (accounted.held_subset isHeld)
  refine ⟨handle, origin, owned, accounted.references_pos _ owned, ?_, ?_, ?_⟩
  · intro step other
    have stays := (untouched_run slot step other).trans present
    have same := (handle_run accounted.forgetCalls rfl present step stays).trans owned
    exact ⟨stays, same, (accounted.step system step).references_pos _ same⟩
  · rintro other number path mode target found (shared | rfl)
    · exact refused_of_shared found shared path mode target system
    · refine refused_of_shared found (fun alone => ?_) path mode target system
      exact ownLibrary?_ne present other ((ownLibrary?_eq_some_iff _ _ _).mpr ⟨found, alone⟩)
  · exact Traced.closedOnce ⟨given, fun _ => owned⟩ accounted isHeld system

/-- A symbol of the running program outlives the slot of its library; the library is
closed with it. -/
theorem symbol_keeps_library_of_program :
    let steps := [.openSelf "program" .empty, .importFrom "object" .object "program" "x" false]
    let session := (runSteps programOnly (start none) steps).2
    let dropped := (runSteps programOnly session [.drop "program"]).2
    let held := { library := 0, symbol := { isFunction := false, address := .memory (.object 7) } }
    session.symbolSlots.get? "object" = some held ∧
      (session.library 0).handle = some ⟨0⟩ ∧
      dropped.symbolSlots.get? "object" = some held ∧
      ((Step.dropSymbol "object").run programOnly dropped.forgetCalls).2.loader.calls.filterMap
        Call.closedHandle? = [⟨0⟩] := by
  intro steps session dropped held
  have present : session.symbolSlots.get? "object" = some held := by decide
  obtain ⟨handle, origin, owned, _, undisturbed, _, closedOnce⟩ :=
    symbol_keeps_library programOnly none steps present
  obtain rfl : handle = ⟨0⟩ := by
    have known : (session.library 0).handle = some ⟨0⟩ := by decide
    exact Option.some.inj (owned.symm.trans known)
  refine ⟨present, owned, ?_, ?_⟩
  · exact (undisturbed (.drop "program") (by decide)).1
  · exact closedOnce.closed [.drop "program"] (.dropSymbol "object") ⟨by decide, trivial⟩
      (by decide) (by decide) (by decide)

end Session

end SharedObject
