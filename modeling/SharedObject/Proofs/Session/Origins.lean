import SharedObject.Proofs.Session.Succession

/-!
# Where imported symbols come from

The calls of a step that imports a symbol tell the handle in which the symbol was
found.  A clone has the origin of the symbol it was made from.  As long as a slot
has a symbol, the library that the symbol holds has the handle of its origin.
-/

namespace SharedObject

/-- The handle in which a call found a symbol. -/
def Call.foundIn? : Call → Option Handle
  | .lookedUp handle _ true => some handle
  | .lookedUp _ _ false | .opened _ _ _ | .closed _ _ => none

/-- The handle in which the last of the calls that found a symbol found it. -/
def Call.resolvedIn? (calls : List Call) : Option Handle :=
  (calls.filterMap foundIn?).getLast?

/-- The symbol slot that a step with its answer has filled or emptied. -/
def Step.replaced? (step : Step) (answer : Answer) : Option String :=
  match step, answer with
  | .importAt symbol _ _ _ _, .imported _ => some symbol
  | .importFrom symbol _ _ _ _, .imported _ => some symbol
  | .cloneSymbol _ target, .done => some target
  | .dropSymbol symbol, .done => some symbol
  | _, _ => none

/-- The origins of the symbols in the slots after a step, from its answer and its
calls and the origins before. -/
def Step.origins (step : Step) (answer : Answer) (calls : List Call)
    (before : String → Option Handle) : String → Option Handle :=
  match step, answer with
  | .importAt symbol _ _ _ _, .imported _ =>
      Function.update before symbol (Call.resolvedIn? calls)
  | .importFrom symbol _ _ _ _, .imported _ =>
      Function.update before symbol (Call.resolvedIn? calls)
  | .cloneSymbol symbol target, .done => Function.update before target (before symbol)
  | .dropSymbol symbol, .done => Function.update before symbol none
  | _, _ => before

section Replaced

variable {slot symbol target name : String} {answer : Answer}

theorem Step.replaced?_importAt {kind : ImportKind} {path : Path} {mode : LoadMode}
    (replaced : (importAt symbol kind path name mode).replaced? answer = some slot) :
    symbol = slot ∧ ∃ address, answer = .imported address := by
  cases answer <;> simp_all [replaced?]

theorem Step.replaced?_importFrom {kind : ImportKind} {move : Bool}
    (replaced : (importFrom symbol kind target name move).replaced? answer = some slot) :
    symbol = slot ∧ ∃ address, answer = .imported address := by
  cases answer <;> simp_all [replaced?]

theorem Step.replaced?_cloneSymbol
    (replaced : (cloneSymbol symbol target).replaced? answer = some slot) :
    target = slot ∧ answer = .done := by
  cases answer <;> simp_all [replaced?]

theorem Step.replaced?_dropSymbol
    (replaced : (dropSymbol symbol).replaced? answer = some slot) :
    symbol = slot ∧ answer = .done := by
  cases answer <;> simp_all [replaced?]

end Replaced

theorem Step.origins_of_not_replaced {step : Step} {answer : Answer} {slot : String}
    (other : step.replaced? answer ≠ some slot) (calls : List Call)
    (before : String → Option Handle) : step.origins answer calls before slot = before slot := by
  unfold origins
  split <;> first
    | rfl
    | exact Function.update_of_ne (fun same => other (by simp [replaced?, same])) _ _

theorem Call.resolvedIn_found (earlier : List Call) (handle : Handle) (name : String) :
    resolvedIn? (earlier ++ [.lookedUp handle name true]) = some handle := by
  simp [resolvedIn?, foundIn?]

theorem Loading.symbol_of_lookUp_ok {handle : Handle} {name : String} {system : System}
    {loader : Loader} {address : Address}
    (found : (lookUp handle name system loader).1 = .ok address) :
    system.symbol handle name = .ok address := by
  cases known : system.symbol handle name with
  | ok other =>
      by_cases null : other.isNull
      · simp [lookUp, clearPending, known, note, null, takePending] at found
      · simpa [lookUp, clearPending, known, note, null] using found
  | error text =>
      simp [lookUp, clearPending, known, setPending, note, takePending] at found

namespace SharedLibrary

variable {library : SharedLibrary} {name : String} {system : System} {loader : Loader}
variable {address : Address}

/-- An address that a library gives was found in its handle. -/
theorem resolvedIn_symbolAddress
    (found : (library.symbolAddress name system loader).1 = .ok address) :
    ∃ handle, library.handle = some handle ∧
      Call.resolvedIn? (library.symbolAddress name system loader).2.calls = some handle := by
  obtain ⟨owned⟩ := library
  cases owned with
  | none => cases found
  | some handle =>
      refine ⟨handle, rfl, ?_⟩
      unfold symbolAddress at found ⊢
      dsimp only at found ⊢
      split at found
      · cases found
      · rw [if_neg ‹_›]
        simp only [Loading.run_bind] at found ⊢
        generalize (Loading.record _ _ system loader).2 = logged at found ⊢
        have looked := Loading.lookUp_run handle name system logged
        cases outcome : (Loading.lookUp handle name system logged).1 with
        | error text =>
            rw [outcome] at found
            cases found
        | ok other =>
            have known := Loading.symbol_of_lookUp_ok outcome
            dsimp only [Loading.run_pure]
            rw [looked, known]
            exact Call.resolvedIn_found logged.calls handle name

theorem resolvedIn_aliasAddress
    (found : (library.aliasAddress name system loader).1 = .ok address) :
    ∃ handle, library.handle = some handle ∧
      Call.resolvedIn? (library.aliasAddress name system loader).2.calls = some handle := by
  simp only [aliasAddress, Loading.run_bind] at found ⊢
  cases outcome : (library.symbolAddress name system loader).1 with
  | error error =>
      rw [outcome] at found
      cases found
  | ok variableAddress =>
      obtain ⟨handle, owned, resolved⟩ := resolvedIn_symbolAddress outcome
      refine ⟨handle, owned, ?_⟩
      cases target : variableAddress.target? <;> simpa [target] using resolved

theorem resolvedIn_importAddress {kind : ImportKind}
    (found : (library.importAddress kind name system loader).1 = .ok address) :
    ∃ handle, library.handle = some handle ∧
      Call.resolvedIn? (library.importAddress kind name system loader).2.calls = some handle := by
  cases kind with
  | aliased => exact resolvedIn_aliasAddress found
  | object | function => exact resolvedIn_symbolAddress found

/-- The symbol that an import gives was found in the handle of the library. -/
theorem resolvedIn_importSymbol {kind : ImportKind} {symbol : ImportedSymbol}
    (imported : (library.importSymbol kind name system loader).1 = .ok symbol) :
    ∃ handle, library.handle = some handle ∧
      Call.resolvedIn? (library.importSymbol kind name system loader).2.calls = some handle := by
  simp only [importSymbol, Loading.run_bind] at imported ⊢
  cases outcome : (library.importAddress kind name system loader).1 with
  | error error =>
      rw [outcome] at imported
      cases imported
  | ok address => exact resolvedIn_importAddress outcome

end SharedLibrary

theorem SharedLibrary.resolvedIn_unload (library : SharedLibrary) (system : System)
    (loader : Loader) :
    Call.resolvedIn? (library.unload system loader).2.calls = Call.resolvedIn? loader.calls := by
  obtain ⟨owned⟩ := library
  cases owned with
  | none => rfl
  | some handle =>
      simp [unload, Loading.record, Loading.close_run, Call.resolvedIn?, Call.foundIn?]

namespace Session

variable {system : System} {session : Session}

theorem resolvedIn_forM_release (lost : Option Nat) (system : System) (session : Session) :
    Call.resolvedIn? (lost.forM Running.release system session).2.loader.calls =
      Call.resolvedIn? session.loader.calls := by
  cases lost with
  | none => rfl
  | some number =>
      by_cases abandoned : session.holders number = 0
      · simp [Option.forM, Running.release_of_abandoned abandoned,
          SharedLibrary.resolvedIn_unload]
      · simp [Option.forM, Running.release_of_held abandoned]

/-- A slot that a step does not fill or empty is left as it is. -/
def Untouched (slot : String) (step : Step) (before : Session) (result : Answer × Session) :
    Prop :=
  step.replaced? result.1 ≠ some slot →
    result.2.symbolSlots.get? slot = before.symbolSlots.get? slot

theorem Untouched.of_eq {slot : String} {step : Step} {result : Answer × Session}
    (same : result.2.symbolSlots = session.symbolSlots) : Untouched slot step session result :=
  fun _ => by rw [same]

/-- An import leaves all symbols as they are, or it fills a slot with a symbol of a
library that has the handle in which the symbol was found. -/
inductive Imports (slot : String) (before : Session) : Answer × Session → Prop
  | failed {answer : Answer} {after : Session} (noSymbol : ∀ address, answer ≠ .imported address)
      (same : after.symbolSlots = before.symbolSlots) : Imports slot before (answer, after)
  | imported {address : Address} {after : Session} {held : HeldSymbol} {handle : Handle}
      (filled : after.symbolSlots = before.symbolSlots.put slot held)
      (owned : (after.library held.library).handle = some handle)
      (resolved : Call.resolvedIn? after.loader.calls = some handle) :
      Imports slot before (.imported address, after)

theorem Imports.untouched {symbol slot : String} {step : Step} {result : Answer × Session}
    (imports : Imports symbol session result)
    (fills : ∀ address, step.replaced? (.imported address) = some symbol) :
    Untouched slot step session result := by
  cases imports with
  | failed noSymbol same => exact .of_eq same
  | imported filled owned resolved =>
      intro other
      have different : slot ≠ symbol := fun same => other (by rw [same]; exact fills _)
      dsimp only
      rw [filled, Slots.get?_put, if_neg different]

theorem symbolSlots_putSymbol (slot : String) (held : HeldSymbol) (system : System)
    (session : Session) :
    (Running.putSymbol slot held system session).2.symbolSlots =
      session.symbolSlots.put slot held :=
  (Running.slots_forM_release _ system
    { session with symbolSlots := session.symbolSlots.put slot held }).2

theorem symbolSlots_putLibrary (slot : String) (number : Nat) (system : System)
    (session : Session) :
    (Running.putLibrary slot number system session).2.symbolSlots = session.symbolSlots :=
  (Running.slots_forM_release _ system
    { session with librarySlots := session.librarySlots.put slot number }).2

theorem symbolSlots_store (slot : String) (outcome : Except Error SharedLibrary)
    (system : System) (session : Session) :
    (Running.store slot outcome system session).2.symbolSlots = session.symbolSlots := by
  cases outcome with
  | ok library => exact symbolSlots_putLibrary slot _ system _
  | error error => rfl

theorem symbolSlots_locate (address : UInt64) (system : System) (session : Session) :
    (Running.locate address system session).2.symbolSlots = session.symbolSlots := by
  simp only [Running.locate, Running.run_bind, Running.run_perform]
  cases (Loading.locate address system session.loader).1 <;> rfl

theorem symbolSlots_askLibrary {α : Type} (slot : String)
    (operation : SharedLibrary → Loading (Except Error α)) (answer : α → Answer)
    (system : System) (session : Session) :
    (Running.askLibrary slot operation answer system session).2.symbolSlots =
      session.symbolSlots := by
  refine Running.withLibrary_cases
    (motive := fun result => result.2.symbolSlots = session.symbolSlots) (fun _ => rfl)
    fun number _ => ?_
  simp only [Running.run_bind, Running.run_get, Running.run_perform]
  cases (operation (session.library number) system session.loader).1 <;> rfl

theorem symbolSlots_load (slot : String) (path : Path) (mode : LoadMode) (system : System)
    (session : Session) :
    ((Step.load slot path mode).run system session).2.symbolSlots = session.symbolSlots := by
  refine Running.withOwnLibrary_cases
    (motive := fun result => result.2.symbolSlots = session.symbolSlots) (fun _ => rfl)
    (fun _ _ _ => rfl) fun number _ _ => ?_
  simp only [Running.run_bind, Running.run_get, Running.run_perform]
  cases ((session.library number).load path mode system session.loader).1 <;> rfl

/-- Letting go of the symbol that was in a slot does not touch the one put there. -/
theorem imports_putSymbol {slot : String} {before : Session} {held : HeldSymbol}
    {handle : Handle} (address : Address)
    (same : session.symbolSlots = before.symbolSlots)
    (owned : (session.library held.library).handle = some handle)
    (resolved : Call.resolvedIn? session.loader.calls = some handle) :
    Imports slot before (.imported address, (Running.putSymbol slot held system session).2) := by
  set filled : Session := { session with symbolSlots := session.symbolSlots.put slot held }
  have isHeld : held.library ∈ filled.held :=
    mem_held_of_symbol (Slots.get?_put_self session.symbolSlots slot held)
  have kept := library_forM_release isHeld
    ((session.symbolSlots.get? slot).map (·.library)) system
  have placed : (Running.putSymbol slot held system session).2.symbolSlots =
      before.symbolSlots.put slot held := by
    rw [symbolSlots_putSymbol, same]
  exact .imported placed ((congrArg SharedLibrary.handle kept).trans owned)
    ((resolvedIn_forM_release _ system filled).trans resolved)

theorem imports_importAt (slot : String) (kind : ImportKind) (path : Path) (name : String)
    (mode : LoadMode) :
    Imports slot session (Running.importAt slot kind path name mode system session) := by
  simp only [Running.importAt, Running.run_bind, Running.run_perform]
  generalize SharedLibrary.openAt path mode system session.loader = attempt
  obtain ⟨outcome, loader⟩ := attempt
  cases outcome with
  | error error => exact .failed (by simp) rfl
  | ok library =>
      simp only [Running.run_bind, Running.run_perform]
      cases found : (library.importSymbol kind name system loader).1 with
      | error error => exact .failed (by simp) rfl
      | ok symbol =>
          obtain ⟨handle, owned, resolved⟩ := SharedLibrary.resolvedIn_importSymbol found
          refine imports_putSymbol symbol.address rfl ?_ resolved
          simpa [Running.adopt, Session.library] using owned

theorem imports_importFrom (symbol : String) (kind : ImportKind) (slot name : String)
    (move : Bool) :
    Imports symbol session (Running.importFrom symbol kind slot name move system session) := by
  refine Running.withLibrary_cases (fun _ => .failed (by simp) rfl) fun number present => ?_
  have erased : ({ session with librarySlots := session.librarySlots.erase slot } :
      Session).library number = session.library number := rfl
  cases found : ((session.library number).importSymbol kind name system session.loader).1 with
  | ok resolved =>
      obtain ⟨handle, owned, isResolved⟩ := SharedLibrary.resolvedIn_importSymbol found
      cases move with
      | true =>
          simp only [if_true, Running.run_bind, Running.eraseLibrary, Running.run_modify,
            Running.run_get, Running.run_perform, erased, found]
          exact imports_putSymbol resolved.address rfl owned isResolved
      | false =>
          simp only [Bool.false_eq_true, if_false, Running.run_bind, Running.run_get,
            Running.run_perform, found]
          exact imports_putSymbol resolved.address rfl owned isResolved
  | error error =>
      cases move with
      | true =>
          simp only [if_true, Running.run_bind, Running.eraseLibrary, Running.run_modify,
            Running.run_get, Running.run_perform, erased, found]
          exact .failed (by simp) (Running.slots_release number system _).2
      | false =>
          simp only [Bool.false_eq_true, if_false, Running.run_bind, Running.run_get,
            Running.run_perform, found]
          exact .failed (by simp) rfl

theorem untouched_run (slot : String) (step : Step) :
    Untouched slot step session (step.run system session) := by
  cases step with
  | create target => exact .of_eq (symbolSlots_store target _ system session)
  | openAt target path mode => exact .of_eq (symbolSlots_store target _ system _)
  | openSelf target mode => exact .of_eq (symbolSlots_store target _ system _)
  | load target path mode => exact .of_eq (symbolSlots_load target path mode system session)
  | unload target =>
      exact Running.withOwnLibrary_cases (fun _ => .of_eq rfl) (fun _ _ _ => .of_eq rfl)
        fun _ _ _ => .of_eq rfl
  | take source target =>
      exact Running.withOwnLibrary_cases (fun _ => .of_eq rfl) (fun _ _ _ => .of_eq rfl)
        fun _ _ _ => .of_eq (symbolSlots_putLibrary target _ system _)
  | share source target =>
      exact Running.withLibrary_cases (fun _ => .of_eq rfl)
        fun number _ => .of_eq (symbolSlots_putLibrary target number system session)
  | drop target =>
      exact Running.withLibrary_cases (fun _ => .of_eq rfl)
        fun _ _ => .of_eq (slots_dropLibrary system session target).2
  | state target | describe target | has target name =>
      exact Running.withLibrary_cases (fun _ => .of_eq rfl) fun _ _ => .of_eq rfl
  | symbolAddress target name | readObject target name | callFunction target name first second
  | readAlias target name | location target =>
      exact .of_eq (symbolSlots_askLibrary target _ _ system session)
  | importAt symbol kind path name mode =>
      exact (imports_importAt symbol kind path name mode).untouched fun _ => rfl
  | importFrom symbol kind source name move =>
      exact (imports_importFrom symbol kind source name move).untouched fun _ => rfl
  | cloneSymbol symbol target =>
      refine Running.withSymbol_cases (fun _ => .of_eq rfl) fun held present other => ?_
      have different : slot ≠ target := fun same => other (by rw [same]; rfl)
      exact (congrArg (·.get? slot) (symbolSlots_putSymbol target held system session)).trans
        ((Slots.get?_put _ _ _ _).trans (if_neg different))
  | dropSymbol symbol =>
      refine Running.withSymbol_cases (fun _ => .of_eq rfl) fun held present other => ?_
      have different : slot ≠ symbol := fun same => other (by rw [same]; rfl)
      exact (congrArg (·.get? slot) (slots_dropSymbol system session symbol).2).trans
        ((Slots.get?_erase _ _ _).trans (if_neg different))
  | symbolLibrary symbol target =>
      exact Running.withSymbol_cases (fun _ => .of_eq rfl)
        fun held _ => .of_eq (symbolSlots_putLibrary target held.library system session)
  | symbolState symbol | readImported symbol | callImported symbol first second
  | describeSymbol symbol =>
      exact Running.withSymbol_cases (fun _ => .of_eq rfl) fun _ _ => .of_eq rfl
  | locate address nonNull =>
      by_cases null : nonNull && address == 0
      · simpa [Step.run, null] using .of_eq rfl
      · simpa [Step.run, null] using .of_eq (symbolSlots_locate address system session)
  | locateSymbol symbol =>
      exact Running.withSymbol_cases (fun _ => .of_eq rfl)
        fun _ _ => .of_eq (symbolSlots_locate _ system session)
  | locateHere => exact .of_eq (symbolSlots_locate _ system session)
  | programLocation =>
      exact .of_eq (congrArg Session.symbolSlots (Running.programLocation_frame system session))

section Exclusive

variable {slot : String} {held : HeldSymbol}

/-- A library that a symbol holds is no slot's own. -/
theorem ownLibrary?_ne (present : session.symbolSlots.get? slot = some held) (other : String) :
    session.ownLibrary? other ≠ some held.library := by
  intro own
  obtain ⟨found, alone⟩ := (ownLibrary?_eq_some_iff session other held.library).mp own
  have inSlots : held.library ∈ session.librarySlots.values :=
    (Slots.mem_values_iff _ _).mpr ⟨other, found⟩
  have inSymbols : held.library ∈ session.symbolSlots.values.map (·.library) :=
    List.mem_map.mpr ⟨held, (Slots.mem_values_iff _ _).mpr ⟨slot, present⟩, rfl⟩
  have first := List.count_pos_iff.mpr inSlots
  have second := List.count_pos_iff.mpr inSymbols
  rw [holders] at alone
  omega

theorem reloaded?_ne (present : session.symbolSlots.get? slot = some held) (step : Step) :
    step.reloaded? session ≠ some held.library := by
  cases step with
  | load other | unload other => exact ownLibrary?_ne present other
  | _ => exact nofun

theorem moved?_ne (present : session.symbolSlots.get? slot = some held) (step : Step) :
    step.moved? session ≠ some held.library := by
  cases step with
  | take other => exact ownLibrary?_ne present other
  | _ => exact nofun

end Exclusive

/-- The library of each symbol has the handle that the symbol comes from. -/
def OriginsKept (origins : String → Option Handle) (session : Session) : Prop :=
  ∀ slot held, session.symbolSlots.get? slot = some held →
    ∃ handle, origins slot = some handle ∧ (session.library held.library).handle = some handle

section Step

variable {start : Handle → Nat} {slot other : String} {held : HeldSymbol}

/-- A library keeps its handle while a symbol holds it. -/
theorem handle_run (accounted : Accounted start session none ∅)
    (quiet : session.loader.calls = [])
    (present : session.symbolSlots.get? slot = some held) (step : Step)
    (stays : (step.run system session).2.symbolSlots.get? other = some held) :
    ((step.run system session).2.library held.library).handle =
      (session.library held.library).handle := by
  have isHeld : held.library ∈ session.held := mem_held_of_symbol present
  have given := accounted.numbers_lt _ (accounted.held_subset isHeld)
  have changed := change_run system session step fun number _ => accounted.references_pos number
  have kept := changed.keptOrClosed given isHeld (reloaded?_ne present step) quiet
  rw [if_neg (moved?_ne present step)] at kept
  rcases kept with ⟨_, same⟩ | ⟨gone, _⟩
  · exact same
  · exact absurd (mem_held_of_symbol stays) gone

/-- The symbol that an import has put in a slot comes from its library. -/
theorem Imports.origin {answer : Answer} {after : Session} {address : Address}
    (imports : Imports slot session (answer, after)) (done : answer = .imported address)
    (stays : after.symbolSlots.get? slot = some held) :
    ∃ handle, Call.resolvedIn? after.loader.calls = some handle ∧
      (after.library held.library).handle = some handle := by
  cases imports with
  | failed noSymbol same => exact absurd done (noSymbol address)
  | @imported _ _ found handle filled owned resolved =>
      rw [filled, Slots.get?_put_self, Option.some.injEq] at stays
      exact ⟨handle, resolved, stays ▸ owned⟩

theorem cloneSymbol_done {symbol target : String}
    (done : ((Step.cloneSymbol symbol target).run system session).1 = .done) :
    ∃ held, session.symbolSlots.get? symbol = some held ∧
      ((Step.cloneSymbol symbol target).run system session).2.symbolSlots =
        session.symbolSlots.put target held := by
  revert done
  exact Running.withSymbol_cases (motive := fun result => result.1 = .done →
      ∃ held, session.symbolSlots.get? symbol = some held ∧
        result.2.symbolSlots = session.symbolSlots.put target held)
    (fun _ => nofun)
    fun held present _ => ⟨held, present, symbolSlots_putSymbol target held system session⟩

theorem dropSymbol_done {symbol : String}
    (done : ((Step.dropSymbol symbol).run system session).1 = .done) :
    ((Step.dropSymbol symbol).run system session).2.symbolSlots.get? symbol = none := by
  revert done
  exact Running.withSymbol_cases (motive := fun result => result.1 = .done →
      result.2.symbolSlots.get? symbol = none)
    (fun _ => nofun) fun held present _ => by
      refine (congrArg (·.get? symbol) (slots_dropSymbol system session symbol).2).trans ?_
      exact (Slots.get?_erase _ _ _).trans (if_pos rfl)

theorem OriginsKept.step {origins : String → Option Handle} (kept : OriginsKept origins session)
    (accounted : Accounted start session none ∅) (quiet : session.loader.calls = [])
    (system : System) (step : Step) :
    OriginsKept
      (step.origins (step.run system session).1 (step.run system session).2.loader.calls origins)
      (step.run system session).2 := by
  intro slot held stays
  by_cases replaced : step.replaced? (step.run system session).1 = some slot
  · cases step with
    | importAt symbol kind path name mode =>
        obtain ⟨rfl, address, done⟩ := Step.replaced?_importAt replaced
        rw [done]
        obtain ⟨handle, resolved, owned⟩ :=
          (imports_importAt symbol kind path name mode).origin done stays
        exact ⟨handle, (Function.update_self symbol _ origins).trans resolved, owned⟩
    | importFrom symbol kind source name move =>
        obtain ⟨rfl, address, done⟩ := Step.replaced?_importFrom replaced
        rw [done]
        obtain ⟨handle, resolved, owned⟩ :=
          (imports_importFrom symbol kind source name move).origin done stays
        exact ⟨handle, (Function.update_self symbol _ origins).trans resolved, owned⟩
    | cloneSymbol symbol target =>
        obtain ⟨rfl, done⟩ := Step.replaced?_cloneSymbol replaced
        obtain ⟨original, present, filled⟩ := cloneSymbol_done done
        obtain rfl : original = held := by
          rw [filled, Slots.get?_put_self] at stays
          exact Option.some.inj stays
        obtain ⟨handle, origin, owned⟩ := kept symbol original present
        rw [done]
        refine ⟨handle, (Function.update_self target _ origins).trans origin, ?_⟩
        rw [handle_run accounted quiet present _ stays, owned]
    | dropSymbol symbol =>
        obtain ⟨rfl, done⟩ := Step.replaced?_dropSymbol replaced
        rw [dropSymbol_done done] at stays
        cases stays
    | _ => simp [Step.replaced?] at replaced
  · have before : session.symbolSlots.get? slot = some held :=
      (untouched_run slot step replaced).symm.trans stays
    obtain ⟨handle, origin, owned⟩ := kept slot held before
    refine ⟨handle, ?_, ?_⟩
    · rw [Step.origins_of_not_replaced replaced, origin]
    · rw [handle_run accounted quiet before step stays, owned]

end Step

end Session

end SharedObject
