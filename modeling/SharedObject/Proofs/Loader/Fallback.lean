import SharedObject.Proofs.Loader.Flags
import SharedObject.Proofs.Loader.Pending

/-!
# The order of the attempts of a load

A load tries the decorated name of a path if it is asked to, then the path, then the
running program.  Which of these calls are made, with which flags, and what the load comes
to is determined by what the system says about the three and about nothing else.
-/

namespace SharedObject

namespace System

/-- What comes of opening a path while a text is pending.  A call that fails without a text
of its own fails with the pending one. -/
def attempt (system : System) (pending : Option String) (path : Path) : Except String Handle :=
  if path.hasNul then .error s!"{path.text} contains an interior nul byte"
  else
    match system.opening (some path) with
    | .ok handle => .ok handle
    | .error text => .error ((text.or pending).getD "")

/-- The text that is left pending when a path has been tried. -/
def pendingAfter (pending : Option String) (path : Path) : Option String :=
  if path.hasNul then pending else none

/-- The calls of the loader that opening a path takes. -/
def callsOf (system : System) (flags : UInt32) (path : Path) : List Call :=
  if path.hasNul then []
  else [.opened (some path) flags (system.opening (some path)).toOption]

/-- What a load that has come as far as the path itself, after the calls `earlier`, comes
to: the outcome and the calls made. -/
structure LoadsPlainly (system : System) (flags : UInt32) (pending : Option String)
    (path : Path) (earlier : List Call) (outcome : Except Error SharedLibrary)
    (calls : List Call) : Prop where
  opened : ∀ handle, system.attempt pending path = .ok handle →
    outcome = .ok ⟨some handle⟩ ∧ calls = earlier ++ system.callsOf flags path
  failed : ∀ text, system.attempt pending path = .error text → system.isProgram path = false →
    outcome = .error (.loadFailed path text) ∧ calls = earlier ++ system.callsOf flags path
  programOpened : ∀ text handle, system.attempt pending path = .error text →
    system.isProgram path = true → system.opening none = .ok handle →
      outcome = .ok ⟨some handle⟩ ∧
        calls = earlier ++ system.callsOf flags path ++ [.opened none flags (some handle)]
  programFailed : ∀ text other, system.attempt pending path = .error text →
    system.isProgram path = true → system.opening none = .error other →
      outcome = .error (.loadFailed path text) ∧
        calls = earlier ++ system.callsOf flags path ++ [.opened none flags none]

end System

namespace Loading

variable (path : Path) (mode : LoadMode) (system : System) (loader : Loader)

theorem openPath_run :
    (openPath path mode system loader).1 = system.attempt loader.pending path ∧
      (openPath path mode system loader).2.calls =
        loader.calls ++ system.callsOf mode.nativeFlags path ∧
      (openPath path mode system loader).2.pending =
        System.pendingAfter loader.pending path := by
  unfold openPath System.attempt System.callsOf System.pendingAfter
  by_cases nul : path.hasNul = true
  · simp [nul]
  · cases opened : system.opening (some path) with
    | ok handle => simp [nul, openTarget_ok opened, Except.toOption]
    | error text => simp [nul, openTarget_error opened, Except.toOption]

@[simp]
theorem calls_record (level : LogLevel) (message : String) :
    (record level message system loader).2.calls = loader.calls :=
  rfl

@[simp]
theorem pending_record (level : LogLevel) (message : String) :
    (record level message system loader).2.pending = loader.pending :=
  rfl

end Loading

namespace SharedLibrary

open Loading

variable (path : Path) (mode : LoadMode) (system : System) (loader : Loader)

/-- The calls that unloading a library takes. -/
def releaseCalls (library : SharedLibrary) (loader : Loader) : List Call :=
  library.handle.toList.map fun handle => .closed handle (loader.references handle - 1)

/-- The text that is left pending when a library has been unloaded. -/
def pendingAfterRelease (library : SharedLibrary) (system : System) (pending : Option String) :
    Option String :=
  if (library.handle.bind system.closing).isSome then none else pending

theorem unload_run (library : SharedLibrary) :
    (library.unload system loader).2.calls = loader.calls ++ library.releaseCalls loader ∧
      (library.unload system loader).2.pending =
        library.pendingAfterRelease system loader.pending := by
  obtain ⟨owned⟩ := library
  cases owned with
  | none => simp [unload, releaseCalls, pendingAfterRelease]
  | some handle =>
      simp [unload, releaseCalls, pendingAfterRelease, close_run, record]

theorem openLogged_run :
    (openLogged path mode system loader).1 = system.attempt loader.pending path ∧
      (openLogged path mode system loader).2.calls =
        loader.calls ++ system.callsOf mode.nativeFlags path ∧
      (openLogged path mode system loader).2.pending =
        System.pendingAfter loader.pending path := by
  obtain ⟨outcome, calls, pending⟩ := openPath_run path mode system loader
  rw [← outcome, ← calls, ← pending]
  unfold openLogged
  rw [run_bind]
  cases (openPath path mode system loader).1 <;> simp

theorem loadPlain_of_ok {handle : Handle}
    (opened : system.attempt loader.pending path = .ok handle) :
    loadPlain path mode system loader =
      (.ok ⟨some handle⟩, (openLogged path mode system loader).2) := by
  obtain ⟨outcome, _⟩ := openLogged_run path mode system loader
  rw [loadPlain, run_bind, outcome, opened]
  rfl

theorem loadPlain_of_error {text : String}
    (failed : system.attempt loader.pending path = .error text) :
    loadPlain path mode system loader =
      retryProgram path mode text system (openLogged path mode system loader).2 := by
  obtain ⟨outcome, _⟩ := openLogged_run path mode system loader
  rw [loadPlain, run_bind, outcome, failed]
  rfl

theorem loadsPlainly_loadPlain :
    system.LoadsPlainly mode.nativeFlags loader.pending path loader.calls
      (loadPlain path mode system loader).1 (loadPlain path mode system loader).2.calls := by
  obtain ⟨_, calls, _⟩ := openLogged_run path mode system loader
  constructor
  · intro handle opened
    rw [loadPlain_of_ok path mode system loader opened]
    exact ⟨rfl, calls⟩
  · intro text failed other
    simp [loadPlain_of_error path mode system loader failed, retryProgram, other, calls]
  · intro text handle failed isProgram opened
    simp [loadPlain_of_error path mode system loader failed, retryProgram, isProgram, openProgram,
      openTarget_ok opened, calls]
  · intro text found failed isProgram unopened
    simp [loadPlain_of_error path mode system loader failed, retryProgram, isProgram, openProgram,
      openTarget_error unopened, calls]

theorem settleDecorated_run (text : String) :
    (settleDecorated path text system loader).1 =
        (if system.pathExists path.decorate && !system.isProgram path then
          some (.error (.invalidImage path.decorate text))
        else none) ∧
      (settleDecorated path text system loader).2.calls = loader.calls ∧
      (settleDecorated path text system loader).2.pending = loader.pending := by
  unfold settleDecorated
  rw [run_bind, run_bind, run_read]
  split <;> simp

theorem loadDecorated_run :
    (loadDecorated path mode system loader).1 =
        (match system.attempt loader.pending path.decorate with
        | .ok handle => some (.ok ⟨some handle⟩)
        | .error text =>
            if system.pathExists path.decorate && !system.isProgram path then
              some (.error (.invalidImage path.decorate text))
            else none) ∧
      (loadDecorated path mode system loader).2.calls =
        loader.calls ++ system.callsOf mode.nativeFlags path.decorate ∧
      (loadDecorated path mode system loader).2.pending =
        System.pendingAfter loader.pending path.decorate := by
  obtain ⟨outcome, calls, pending⟩ := openLogged_run path.decorate mode system loader
  rw [loadDecorated, run_bind, outcome]
  cases system.attempt loader.pending path.decorate with
  | ok handle => exact ⟨rfl, calls, pending⟩
  | error text =>
      obtain ⟨settled, sameCalls, samePending⟩ := settleDecorated_run path system
        (openLogged path.decorate mode system loader).2 text
      exact ⟨settled, sameCalls.trans calls, samePending.trans pending⟩

section Stages

variable (library : SharedLibrary) {path : Path} {mode : LoadMode}

/-- Without a decorated name to try, a load is a plain one after the library is unloaded. -/
theorem load_of_plain (named : path.isEmpty = false)
    (plain : mode.contains .appendDecorations = false) :
    library.load path mode system loader =
      loadPlain (searchPath path mode) (loaderMode mode.normalized) system
        (library.unload system loader).2 := by
  rw [← decorates_normalized] at plain
  rw [load, run_bind, if_neg (by simp [named])]
  dsimp only
  rw [if_neg (by simp [plain]), searchPath_normalized]

theorem load_of_decorated (named : path.isEmpty = false)
    (decorated : mode.contains .appendDecorations = true) :
    library.load path mode system loader =
      let settled := loadDecorated (searchPath path mode) (loaderMode mode.normalized) system
        (library.unload system loader).2
      match settled.1 with
      | some outcome => (outcome, settled.2)
      | none => loadPlain (searchPath path mode) (loaderMode mode.normalized) system settled.2 := by
  rw [← decorates_normalized] at decorated
  rw [load, run_bind, if_neg (by simp [named])]
  dsimp only
  rw [if_pos decorated, searchPath_normalized, run_bind]
  split
  · rename_i outcome settled
    rw [settled]
    rfl
  · rename_i settled
    rw [settled]

end Stages

/-- A load follows one chain of attempts.  It first closes the handle that the library has,
and does nothing more for an empty path.  Otherwise the decorated name is tried if the mode
asks for it: the load ends there when it opens, and also when it does not open although
there is such a file, unless the path is the running program's.  In all other cases the
path itself is tried, and after it the running program if the path is the program's; when
all fails, what is reported is the path with the text of the attempt on the path.  Every
opening of one load is told the same flags, which only the mode determines. -/
theorem load_fallback (library : SharedLibrary) (path : Path) (mode : LoadMode)
    (system : System) (loader : Loader) :
    let run := library.load path mode system loader
    let flags := (loaderMode mode.normalized).nativeFlags
    let sought := searchPath path mode
    let candidate := sought.decorate
    let pending := library.pendingAfterRelease system loader.pending
    let released := loader.calls ++ library.releaseCalls loader
    let tried := released ++ system.callsOf flags candidate
    (path.isEmpty = true → run.1 = .error .invalidPath ∧ run.2.calls = released) ∧
      (path.isEmpty = false → mode.contains .appendDecorations = true →
        (∀ handle, system.attempt pending candidate = .ok handle →
          run.1 = .ok ⟨some handle⟩ ∧ run.2.calls = tried) ∧
        ∀ text, system.attempt pending candidate = .error text →
          let isThere := system.pathExists candidate = true ∧ system.isProgram sought = false
          (isThere → run.1 = .error (.invalidImage candidate text) ∧ run.2.calls = tried) ∧
            (¬isThere → system.LoadsPlainly flags (System.pendingAfter pending candidate) sought
              tried run.1 run.2.calls)) ∧
      (path.isEmpty = false → mode.contains .appendDecorations = false →
        system.LoadsPlainly flags pending sought released run.1 run.2.calls) ∧
      flags = (if mode.contains .lazy || !mode.contains .now then 0x1 else 0) |||
        (if mode.contains .now then 0x2 else 0) |||
        (if mode.contains .globalScope then 0x100 else 0) |||
        (if mode.contains .deepBind then 0x8 else 0) := by
  intro run flags sought candidate pending released tried
  obtain ⟨sameCalls, samePending⟩ := library.unload_run system loader
  refine ⟨?empty, ?decorated, ?plain, nativeFlags_loaderMode mode⟩
  case empty =>
    intro isEmpty
    simp only [run, load, run_bind, if_pos isEmpty]
    exact ⟨rfl, sameCalls⟩
  case plain =>
    intro named plain
    have plainly := loadsPlainly_loadPlain sought (loaderMode mode.normalized) system
      (library.unload system loader).2
    rw [sameCalls, samePending] at plainly
    simp only [run]
    rw [library.load_of_plain system loader named plain]
    exact plainly
  case decorated =>
    intro named decorated
    have run_eq : run = _ := library.load_of_decorated system loader named decorated
    obtain ⟨settled, callsTried, pendingTried⟩ := loadDecorated_run sought
      (loaderMode mode.normalized) system (library.unload system loader).2
    rw [samePending] at settled pendingTried
    rw [sameCalls] at callsTried
    rw [run_eq]
    constructor
    · intro handle opened
      rw [opened] at settled
      dsimp only
      rw [settled]
      exact ⟨rfl, callsTried⟩
    · intro text failed isThere
      rw [failed] at settled
      dsimp only at settled ⊢
      constructor
      · rintro ⟨found, other⟩
        rw [found, other] at settled
        rw [settled]
        exact ⟨rfl, callsTried⟩
      · intro absent
        have passes : ¬(system.pathExists candidate && !system.isProgram sought) = true := by
          simpa [isThere] using absent
        have plainly := loadsPlainly_loadPlain sought (loaderMode mode.normalized) system
          (loadDecorated sought (loaderMode mode.normalized) system
            (library.unload system loader).2).2
        rw [if_neg passes] at settled
        rw [callsTried, pendingTried] at plainly
        rw [settled]
        exact plainly

/-- The running program is loaded by its own name, with decorations, and cannot be.  What is
reported is the text of the second of three attempts. -/
theorem load_fallback_of_program :
    let sought : Path := .ofString "./app"
    let candidate : Path := .ofString "./libapp.so"
    let system : System :=
      { program := some sought
        fileExists := fun path => path = sought
        canonical := some
        opening := fun target =>
          .error (some (if target = some sought then "wrong type" else "not found"))
        symbol := fun _ _ => .error none
        linkMap := fun _ => .absent
        closing := fun _ => none
        modules := []
        memory := 0 }
    let loader : Loader := { references := fun _ => 1, pending := some "old" }
    let run := SharedLibrary.load ⟨some ⟨0⟩⟩ (.ofString "app") .appendDecorations system loader
    run.1 = .error (.loadFailed sought "wrong type") ∧
      run.2.calls =
        [.closed ⟨0⟩ 0, .opened (some candidate) 1 none, .opened (some sought) 1 none,
          .opened none 1 none] := by
  intro sought candidate system loader run
  have same : searchPath (.ofString "app") .appendDecorations = sought := by decide +kernel
  have decorates : sought.decorate = candidate := by decide +kernel
  have absent : ¬(system.pathExists candidate = true ∧ system.isProgram sought = false) := by
    decide +kernel
  have isProgram : system.isProgram sought = true := by decide +kernel
  have differ : candidate ≠ sought := by decide +kernel
  have noNul : candidate.hasNul = false ∧ sought.hasNul = false := by decide +kernel
  have failed (pending : Option String) :
      system.attempt pending candidate = .error "not found" ∧
        system.attempt pending sought = .error "wrong type" := by
    simp [System.attempt, system, noNul, differ]
  obtain ⟨_, decorated, _⟩ :=
    load_fallback ⟨some ⟨0⟩⟩ (.ofString "app") .appendDecorations system loader
  dsimp only at decorated
  rw [same, decorates] at decorated
  have passed := ((decorated (by decide +kernel) (by decide)).2 "not found" (failed _).1).2 absent
  obtain ⟨outcome, calls⟩ := passed.programFailed "wrong type" (some "not found") (failed _).2
    isProgram rfl
  refine ⟨outcome, calls.trans ?_⟩
  decide +kernel

end SharedLibrary

end SharedObject
