import SharedObject.Proofs.Loader.Pending

/-!
# What the text of an error comes from

Where no text is pending before an operation, the text of an error that it raises over a
call of the loader is the one that this call has set, and empty when it has set none.
-/

namespace SharedObject

namespace System

/-- What is asked of the system when no path and no symbol is named. -/
inductive Inquiry
  /-- The running program is to be opened. -/
  | program
  /-- The file of a handle is to be found. -/
  | fileOf (handle : Handle)

/-- The errors raised over one of some calls that failed, or over the question for the file
of a handle: the text is the one that this call has set, or is empty. -/
inductive Raises (system : System) (asked : Option Inquiry) (calls : List Call) : Error → Prop
  | path {path : Path} {flags : UInt32} {text : Option String}
      (made : .opened (some path) flags none ∈ calls)
      (failed : system.opening (some path) = .error text) :
      Raises system asked calls (.loadFailed path (text.getD ""))
  | image {path : Path} {flags : UInt32} {text : Option String}
      (made : .opened (some path) flags none ∈ calls)
      (failed : system.opening (some path) = .error text) :
      Raises system asked calls (.invalidImage path (text.getD ""))
  | program {flags : UInt32} {text : Option String} (isAsked : asked = some .program)
      (made : .opened none flags none ∈ calls) (failed : system.opening none = .error text) :
      Raises system asked calls (.loadFailed (system.program.getD Path.empty) (text.getD ""))
  | symbol {handle : Handle} {name : String} {text : Option String}
      (made : .lookedUp handle name false ∈ calls)
      (failed : system.symbol handle name = .error text) :
      Raises system asked calls (.symbolNotFound name (.reported (text.getD "")))
  /-- A symbol was found at a null address, without a text. -/
  | null {handle : Handle} {name : String} {address : Address}
      (made : .lookedUp handle name true ∈ calls)
      (found : system.symbol handle name = .ok address) (isNull : address.isNull = true) :
      Raises system asked calls (.symbolNotFound name (.reported ""))
  | linkMap {handle : Handle} {text : String} (isAsked : asked = some (.fileOf handle))
      (failed : system.linkMap handle = .failed text) :
      Raises system asked calls (.io s!"dlinfo failed: {text}")
  /-- Nothing is known about the file, without a text. -/
  | noLinkMap {handle : Handle} (isAsked : asked = some (.fileOf handle))
      (absent : system.linkMap handle = .absent) :
      Raises system asked calls (.io "dlinfo failed: ")

theorem Raises.mono {system : System} {asked : Option Inquiry} {calls more : List Call}
    {error : Error} (raised : system.Raises asked calls error) (starts : calls <+: more) :
    system.Raises asked more error := by
  cases raised with
  | path made failed => exact .path (starts.subset made) failed
  | image made failed => exact .image (starts.subset made) failed
  | program isAsked made failed => exact .program isAsked (starts.subset made) failed
  | symbol made failed => exact .symbol (starts.subset made) failed
  | null made found isNull => exact .null (starts.subset made) found isNull
  | linkMap isAsked failed => exact .linkMap isAsked failed
  | noLinkMap isAsked absent => exact .noLinkMap isAsked absent

/-- The errors that no call of the loader is behind. -/
inductive Unprompted (system : System) : Error → Prop
  /-- The loader cannot be told a path with a NUL byte. -/
  | nulInPath {path : Path} (nul : path.hasNul = true) :
      Unprompted system (.loadFailed path s!"{path.text} contains an interior nul byte")
  /-- The loader was not asked for the symbol, or has found it. -/
  | notMissing {name : String} {cause : LookupFailure}
      (unreported : ∀ text, cause ≠ .reported text) :
      Unprompted system (.symbolNotFound name cause)
  /-- The file of the running program is not known. -/
  | noProgram {error : Error} (unknown : system.programLocation = .error error) :
      Unprompted system error
  | other {error : Error}
      (kind : error.kind ∉ [.loadFailed, .invalidImage, .symbolNotFound, .io]) :
      Unprompted system error

/-- The file of a name that the system gave is missing only when it is that of the running
program. -/
theorem Unprompted.of_locationOfName {system : System} {name : Option Path} {error : Error}
    (failed : system.locationOfName name = .error error) : system.Unprompted error := by
  unfold locationOfName at failed
  split at failed
  · split at failed
    · exact .noProgram failed
    · cases failed
  · exact .noProgram failed

/-- Where an error comes from: one of the calls that were made or what was asked beside
them, or nothing that has to do with the loader. -/
def Explains (system : System) (asked : Option Inquiry) (calls : List Call)
    (error : Error) : Prop :=
  system.Raises asked calls error ∨ system.Unprompted error

theorem Explains.mono {system : System} {asked : Option Inquiry} {calls more : List Call}
    {error : Error} (explained : system.Explains asked calls error) (starts : calls <+: more) :
    system.Explains asked more error := by
  rcases explained with raised | unprompted
  · exact .inl (raised.mono starts)
  · exact .inr unprompted

end System

namespace Loading

variable {α β : Type} {asked : Option System.Inquiry}

/-- Every error of the operation is explained, if no text is pending before. -/
def Diagnoses (asked : Option System.Inquiry) (operation : Loading (Except Error α)) : Prop :=
  ∀ system loader, loader.pending = none → ∀ error, (operation system loader).1 = .error error →
    system.Explains asked (operation system loader).2.calls error

namespace Diagnoses

theorem ok (value : α) : Diagnoses asked (pure (.ok value)) := by
  rintro system loader _ error ⟨⟩

theorem unprompted {error : Error} (unprompted : ∀ system : System, system.Unprompted error) :
    Diagnoses asked (pure (.error error) : Loading (Except Error α)) := by
  rintro system loader _ _ ⟨⟩
  exact .inr (unprompted system)

/-- What comes first leaves no text pending. -/
theorem after {operation : Loading α} {next : α → Loading (Except Error β)}
    (first : Tidy operation) (rest : ∀ value, Diagnoses asked (next value)) :
    Diagnoses asked (operation >>= next) :=
  fun system loader nothing => rest _ system _ ((first system loader).pending nothing)

/-- An error that is passed on remains explained. -/
theorem bind {operation : Loading (Except Error α)}
    {next : Except Error α → Loading (Except Error β)} (first : Diagnoses asked operation)
    (tidy : Tidy operation) (passes : ∀ error, next (.error error) = pure (.error error))
    (rest : ∀ value, Diagnoses asked (next (.ok value))) :
    Diagnoses asked (operation >>= next) := by
  intro system loader nothing error failed
  rw [run_bind] at failed ⊢
  have explained := first system loader nothing
  have emptied := (tidy system loader).pending nothing
  cases outcome : (operation system loader).1 with
  | ok value =>
      rw [outcome] at failed
      exact rest value system _ emptied error failed
  | error cause =>
      rw [outcome, passes] at failed
      rw [passes]
      cases failed
      exact explained error outcome

end Diagnoses

/-- Opening a path fails with the text that the call has set, if the path can be told to
the loader. -/
theorem openPath_error {path : Path} {mode : LoadMode} {system : System} {loader : Loader}
    {text : String} (nothing : loader.pending = none)
    (failed : (openPath path mode system loader).1 = .error text) :
    (path.hasNul = true ∧ text = s!"{path.text} contains an interior nul byte") ∨
      ∃ found flags, system.opening (some path) = .error found ∧ text = found.getD "" ∧
        .opened (some path) flags none ∈ (openPath path mode system loader).2.calls := by
  unfold openPath at failed ⊢
  by_cases nul : path.hasNul = true
  · rw [if_pos nul] at failed
    cases failed
    exact .inl ⟨nul, rfl⟩
  · rw [if_neg nul] at failed ⊢
    cases opened : system.opening (some path) with
    | ok handle =>
        rw [openTarget_ok opened] at failed
        cases failed
    | error found =>
        rw [openTarget_error opened, nothing, Option.or_none] at failed
        cases failed
        rw [openTarget_error opened]
        exact .inr ⟨found, _, rfl, rfl, List.mem_append_right _ (List.mem_singleton.mpr rfl)⟩

/-- What a lookup gives has nothing to do with what was pending before. -/
theorem lookUp_result (handle : Handle) (name : String) (system : System) (loader : Loader) :
    (lookUp handle name system loader).1 =
      match system.symbol handle name with
      | .ok address => if address.isNull then .error "" else .ok address
      | .error text => .error (text.getD "") := by
  cases found : system.symbol handle name with
  | ok address =>
      by_cases isNull : address.isNull = true
      · simp [lookUp, clearPending, found, note, isNull, takePending]
      · simp [lookUp, clearPending, found, note, isNull]
  | error text => simp [lookUp, clearPending, found, note, setPending, takePending]

/-- A lookup fails with the text that the call has set. -/
theorem lookUp_error {handle : Handle} {name : String} {system : System} {loader : Loader}
    {text : String} (failed : (lookUp handle name system loader).1 = .error text) :
    system.Raises asked (lookUp handle name system loader).2.calls
      (.symbolNotFound name (.reported text)) := by
  have made : Call.lookedUp handle name (system.symbol handle name).isOk ∈
      loader.calls ++ [.lookedUp handle name (system.symbol handle name).isOk] :=
    List.mem_append_right _ (List.mem_singleton.mpr rfl)
  rw [lookUp_result] at failed
  rw [lookUp_run]
  cases found : system.symbol handle name with
  | ok address =>
      simp only [found] at failed made
      by_cases isNull : address.isNull = true
      · rw [if_pos isNull] at failed
        cases failed
        exact .null made found isNull
      · rw [if_neg isNull] at failed
        cases failed
  | error given =>
      simp only [found] at failed made
      cases failed
      exact .symbol made found

theorem diagnoses_fileOf (handle : Handle) : Diagnoses (some (.fileOf handle)) (fileOf handle) := by
  intro system loader nothing error failed
  cases linked : system.linkMap handle with
  | failed text =>
      simp only [fileOf, run_bind, run_read, linked, setPending, takePending, run_modify,
        run_modifyGet, run_pure] at failed
      cases failed
      exact .inl (.linkMap rfl linked)
  | absent =>
      simp only [fileOf, run_bind, run_read, linked, takePending, run_modifyGet, run_pure,
        nothing] at failed
      cases failed
      exact .inl (.noLinkMap rfl linked)
  | present file =>
      simp only [fileOf, run_bind, run_read, linked, run_pure] at failed
      exact .inr (.of_locationOfName failed)

theorem diagnoses_locate (address : UInt64) : Diagnoses asked (locate address) := by
  unfold locate
  split
  · exact .unprompted fun system => .other (by simp [Error.kind])
  · apply Diagnoses.after (Tidy.record _ _)
    intro _ system loader nothing error failed
    simp only [run_bind, run_read, run_pure] at failed
    unfold System.moduleOf at failed
    split at failed
    · exact .inr (.of_locationOfName failed)
    · cases failed
      exact .inr (.other (by simp [Error.kind]))

end Loading

namespace SharedLibrary

open Loading

variable {asked : Option System.Inquiry}

theorem diagnoses_symbolAddress (library : SharedLibrary) (name : String) :
    Diagnoses asked (library.symbolAddress name) := by
  obtain ⟨owned⟩ := library
  cases owned with
  | none => exact .unprompted fun system => .notMissing nofun
  | some handle =>
      unfold symbolAddress
      dsimp only
      split
      · exact .unprompted fun system => .notMissing nofun
      · apply Diagnoses.after (Tidy.record _ _)
        intro _ system loader nothing error failed
        rw [run_bind] at failed ⊢
        cases outcome : (lookUp handle name system loader).1 with
        | ok address =>
            rw [outcome] at failed
            cases failed
        | error text =>
            rw [outcome] at failed
            cases failed
            exact .inl (lookUp_error outcome)

theorem diagnoses_aliasAddress (library : SharedLibrary) (name : String) :
    Diagnoses asked (library.aliasAddress name) := by
  apply (library.diagnoses_symbolAddress name).bind
  · exact (library.resolving_symbolAddress name).tidy
  · exact fun error => rfl
  · intro address
    dsimp only
    split
    · exact .ok _
    · exact .unprompted fun system => .notMissing nofun

theorem diagnoses_importSymbol (library : SharedLibrary) (kind : ImportKind) (name : String) :
    Diagnoses asked (library.importSymbol kind name) := by
  have found : Diagnoses asked (library.importAddress kind name) := by
    cases kind with
    | aliased => exact library.diagnoses_aliasAddress name
    | object => exact library.diagnoses_symbolAddress name
    | function => exact library.diagnoses_symbolAddress name
  apply found.bind
  · exact (library.resolving_importAddress kind name).tidy
  · exact fun error => rfl
  · exact fun address => .after (Tidy.record _ _) fun _ => .ok _

theorem diagnoses_location (library : SharedLibrary) :
    Diagnoses (library.handle.map .fileOf) library.location := by
  obtain ⟨owned⟩ := library
  cases owned with
  | none => exact .unprompted fun system => .other (by simp [Error.kind])
  | some handle => exact diagnoses_fileOf handle

theorem diagnoses_openSelf (mode : LoadMode) : Diagnoses (some .program) (openSelf mode) := by
  intro system loader nothing error failed
  simp only [openSelf, openProgram, run_bind] at failed ⊢
  cases opened : system.opening none with
  | ok handle =>
      rw [openTarget_ok opened] at failed
      cases failed
  | error text =>
      rw [openTarget_error opened, nothing, Option.or_none] at failed ⊢
      cases failed
      have made : Call.opened none mode.normalized.nativeFlags none ∈
          loader.calls ++ [.opened none mode.normalized.nativeFlags none] :=
        List.mem_append_right _ (List.mem_singleton.mpr rfl)
      exact .inl (.program rfl made opened)

theorem openLogged_error {path : Path} {mode : LoadMode} {system : System} {loader : Loader}
    {text : String} (failed : (openLogged path mode system loader).1 = .error text) :
    openLogged path mode system loader = openPath path mode system loader := by
  unfold openLogged at failed ⊢
  rw [run_bind] at failed ⊢
  cases outcome : (openPath path mode system loader).1 with
  | ok handle =>
      rw [outcome] at failed
      cases failed
  | error other => exact Prod.ext outcome.symm rfl

/-- The decorated name settles a load in vain only when there is a file of that name. -/
theorem settleDecorated_error {path : Path} {text : String} {system : System} {loader : Loader}
    {error : Error} (failed : (settleDecorated path text system loader).1 = some (.error error)) :
    system.pathExists path.decorate = true ∧ error = .invalidImage path.decorate text := by
  change ((if (system.pathExists path.decorate && !system.isProgram path) = true then _ else _ :
    Loading (Option (Except Error SharedLibrary))) system _).1 = _ at failed
  by_cases settles : (system.pathExists path.decorate && !system.isProgram path) = true
  · rw [if_pos settles] at failed
    cases failed
    exact ⟨(Bool.and_eq_true_iff.mp settles).1, rfl⟩
  · rw [if_neg settles] at failed
    cases failed

/-- The loader was told of the file whose image is found to be invalid. -/
theorem explains_loadDecorated {path : Path} {mode : LoadMode} {system : System}
    {loader : Loader} (nothing : loader.pending = none) {error : Error}
    (failed : (loadDecorated path mode system loader).1 = some (.error error)) :
    system.Explains asked (loadDecorated path mode system loader).2.calls error := by
  unfold loadDecorated at failed ⊢
  rw [run_bind] at failed ⊢
  cases outcome : (openLogged path.decorate mode system loader).1 with
  | ok handle =>
      rw [outcome] at failed
      cases failed
  | error text =>
      rw [outcome] at failed
      obtain ⟨isThere, rfl⟩ := settleDecorated_error failed
      have same := openLogged_error outcome
      rw [same] at outcome ⊢
      have later := tidy_settleDecorated path text system
        (openPath path.decorate mode system loader).2
      rcases openPath_error nothing outcome with ⟨nul, _⟩ | ⟨found, flags, opened, rfl, made⟩
      · rw [System.pathExists, nul] at isThere
        cases isThere
      · exact .inl (.image (later.calls.subset made) opened)

/-- A plain load fails with the text of the attempt on the path, whatever comes of the
attempt on the program. -/
theorem retryProgram_error {path : Path} {mode : LoadMode} {text : String} {system : System}
    {loader : Loader} {error : Error}
    (failed : (retryProgram path mode text system loader).1 = .error error) :
    error = .loadFailed path text := by
  change ((if system.isProgram path = true then _ else _ :
    Loading (Except Error SharedLibrary)) system loader).1 = _ at failed
  by_cases isProgram : system.isProgram path = true
  · rw [if_pos isProgram, run_bind, run_bind, openProgram] at failed
    cases opened : system.opening none with
    | ok handle =>
        rw [openTarget_ok opened] at failed
        cases failed
    | error other =>
        rw [openTarget_error opened] at failed
        cases failed
        rfl
  · rw [if_neg isProgram] at failed
    cases failed
    rfl

theorem diagnoses_loadPlain (path : Path) (mode : LoadMode) :
    Diagnoses asked (loadPlain path mode) := by
  intro system loader nothing error failed
  unfold loadPlain at failed ⊢
  rw [run_bind] at failed ⊢
  cases outcome : (openLogged path mode system loader).1 with
  | ok handle =>
      rw [outcome] at failed
      cases failed
  | error text =>
      rw [outcome] at failed
      obtain rfl := retryProgram_error failed
      have same := openLogged_error outcome
      rw [same] at outcome ⊢
      have later := tidy_retryProgram path mode text system (openPath path mode system loader).2
      rcases openPath_error nothing outcome with ⟨nul, rfl⟩ | ⟨found, flags, opened, rfl, made⟩
      · exact .inr (.nulInPath nul)
      · exact .inl (.path (later.calls.subset made) opened)

theorem diagnoses_load (library : SharedLibrary) (path : Path) (mode : LoadMode) :
    Diagnoses asked (library.load path mode) := by
  apply Diagnoses.after library.resolving_unload.tidy
  intro _
  split
  · exact .after .clearPending fun _ => .unprompted fun system => .other (by simp [Error.kind])
  · dsimp only
    split
    · intro system loader nothing error failed
      rw [run_bind] at failed ⊢
      have tidy := tidy_loadDecorated (searchPath path mode.normalized)
        (loaderMode mode.normalized)
      have emptied := (tidy system loader).pending nothing
      cases settled : (loadDecorated (searchPath path mode.normalized)
          (loaderMode mode.normalized) system loader).1 with
      | some outcome =>
          rw [settled] at failed
          cases failed
          exact explains_loadDecorated nothing settled
      | none =>
          rw [settled] at failed
          exact diagnoses_loadPlain _ _ system _ emptied error failed
    · exact diagnoses_loadPlain _ _

end SharedLibrary

end SharedObject
