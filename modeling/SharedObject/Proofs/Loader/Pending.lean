import SharedObject.Import
import SharedObject.Locator
import SharedObject.Proofs.Loader.Transfers

/-!
# Pending texts

With logging on, operations take the texts of the calls they make: where no text is pending
before an operation, none is pending afterwards.  What a symbol lookup does depends on no
text that is pending before it, and a lookup that reaches the loader leaves none.
-/

namespace SharedObject

/-- One loader comes from another by further calls, and no text has been left pending. -/
structure Loader.Tidied (before after : Loader) : Prop where
  calls : before.calls <+: after.calls
  pending : before.pending = none → after.pending = none

namespace Loader.Tidied

variable {before between after : Loader}

theorem refl (loader : Loader) : Tidied loader loader :=
  ⟨List.prefix_rfl, id⟩

theorem trans (earlier : Tidied before between) (later : Tidied between after) :
    Tidied before after :=
  ⟨earlier.calls.trans later.calls, later.pending ∘ earlier.pending⟩

end Loader.Tidied

/-- The loader with another text pending, or none. -/
def Loader.withPending (loader : Loader) (pending : Option String) : Loader :=
  { loader with pending }

namespace Loading

variable {α β : Type}

/-- The operation leaves no text pending of the calls it makes. -/
def Tidy (operation : Loading α) : Prop :=
  ∀ system loader, Loader.Tidied loader (operation system loader).2

namespace Tidy

theorem pure (value : α) : Tidy (pure value) :=
  fun _ loader => .refl loader

theorem bind {operation : Loading α} {next : α → Loading β} (first : Tidy operation)
    (rest : ∀ value, Tidy (next value)) : Tidy (operation >>= next) :=
  fun system loader => (first system loader).trans (rest _ system _)

theorem read : Tidy read :=
  fun _ loader => .refl loader

theorem record (level : LogLevel) (message : String) : Tidy (record level message) :=
  fun _ _ => ⟨List.prefix_rfl, id⟩

theorem clearPending : Tidy clearPending :=
  fun _ _ => ⟨List.prefix_rfl, fun _ => rfl⟩

theorem openTarget (target : Option Path) (mode : LoadMode) : Tidy (openTarget target mode) := by
  intro system loader
  cases opened : system.opening target with
  | ok handle =>
      rw [openTarget_ok opened]
      exact ⟨List.prefix_append _ _, fun _ => rfl⟩
  | error text =>
      rw [openTarget_error opened]
      exact ⟨List.prefix_append _ _, fun _ => rfl⟩

theorem openPath (path : Path) (mode : LoadMode) : Tidy (openPath path mode) := by
  unfold Loading.openPath
  split
  · exact pure _
  · exact openTarget (some path) mode

theorem close (handle : Handle) : Tidy (close handle) := by
  intro system loader
  rw [close_run]
  constructor
  · exact List.prefix_append _ _
  · intro nothing
    dsimp only
    rw [nothing, ite_self]

theorem lookUp (handle : Handle) (name : String) : Tidy (lookUp handle name) := by
  intro system loader
  rw [lookUp_run]
  exact ⟨List.prefix_append _ _, fun _ => rfl⟩

theorem fileOf (handle : Handle) : Tidy (fileOf handle) := by
  intro system loader
  cases linked : system.linkMap handle with
  | failed text =>
      simp only [Loading.fileOf, run_bind, run_read, linked, setPending, takePending, run_modify,
        run_modifyGet, run_pure]
      exact ⟨List.prefix_rfl, fun _ => rfl⟩
  | absent =>
      simp only [Loading.fileOf, run_bind, run_read, linked, takePending, run_modifyGet, run_pure]
      exact ⟨List.prefix_rfl, fun _ => rfl⟩
  | present file =>
      simp only [Loading.fileOf, run_bind, run_read, linked, run_pure]
      exact .refl loader

theorem locate (address : UInt64) : Tidy (locate address) := by
  unfold Loading.locate
  split
  · exact pure _
  · exact (record _ _).bind fun _ => read.bind fun _ => pure _

end Tidy

/-- Another text that is pending before the operation changes neither its result nor
anything else but the text that is pending afterwards. -/
def Oblivious (operation : Loading α) : Prop :=
  ∀ system loader pending, ∃ left,
    operation system (loader.withPending pending) =
      ((operation system loader).1, (operation system loader).2.withPending left)

namespace Oblivious

theorem pure (value : α) : Oblivious (pure value) :=
  fun _ _ pending => ⟨pending, rfl⟩

theorem bind {operation : Loading α} {next : α → Loading β} (first : Oblivious operation)
    (rest : ∀ value, Oblivious (next value)) : Oblivious (operation >>= next) := by
  intro system loader pending
  obtain ⟨between, alike⟩ := first system loader pending
  obtain ⟨left, alikeAfter⟩ :=
    rest (operation system loader).1 system (operation system loader).2 between
  exact ⟨left, by rw [run_bind, run_bind, alike, alikeAfter]⟩

theorem record (level : LogLevel) (message : String) : Oblivious (record level message) :=
  fun _ _ pending => ⟨pending, rfl⟩

/-- The text of a close that fails replaces the one pending before. -/
theorem close (handle : Handle) : Oblivious (close handle) := by
  intro system loader pending
  refine ⟨if (system.closing handle).isSome then none else pending, ?_⟩
  apply Prod.ext
  · rfl
  · rw [close_run, close_run]
    rfl

/-- Whatever was pending is cleared before a symbol is looked up. -/
theorem lookUp (handle : Handle) (name : String) : Oblivious (lookUp handle name) := by
  intro system loader pending
  have cleared : Loading.lookUp handle name system (loader.withPending pending) =
      Loading.lookUp handle name system loader := rfl
  refine ⟨none, ?_⟩
  rw [cleared]
  apply Prod.ext
  · rfl
  · rw [lookUp_run]
    rfl

end Oblivious

/-- The operations that are put together of symbol lookups, closes and logged lines. -/
inductive Resolving : {α : Type} → Loading α → Prop
  | pure {α : Type} (value : α) : Resolving (pure value)
  | bind {α β : Type} {operation : Loading α} {next : α → Loading β}
      (first : Resolving operation) (rest : ∀ value, Resolving (next value)) :
      Resolving (operation >>= next)
  | record (level : LogLevel) (message : String) : Resolving (record level message)
  | lookUp (handle : Handle) (name : String) : Resolving (lookUp handle name)
  | close (handle : Handle) : Resolving (close handle)

namespace Resolving

variable {operation : Loading α}

theorem tidy (resolving : Resolving operation) : Tidy operation := by
  induction resolving with
  | pure value => exact .pure value
  | bind _ _ first rest => exact first.bind rest
  | record level message => exact .record level message
  | lookUp handle name => exact .lookUp handle name
  | close handle => exact .close handle

theorem oblivious (resolving : Resolving operation) : Oblivious operation := by
  induction resolving with
  | pure value => exact .pure value
  | bind _ _ first rest => exact first.bind rest
  | record level message => exact .record level message
  | lookUp handle name => exact .lookUp handle name
  | close handle => exact .close handle

end Resolving

/-- Whatever is pending before the operation, nothing is afterwards. -/
def Clears (operation : Loading α) : Prop :=
  ∀ system loader, (operation system loader).2.pending = none

namespace Clears

theorem lookUp (handle : Handle) (name : String) : Clears (lookUp handle name) := by
  intro system loader
  rw [lookUp_run]

/-- What is cleared stays so. -/
theorem bind {operation : Loading α} {next : α → Loading β} (first : Clears operation)
    (rest : ∀ value, Resolving (next value)) : Clears (operation >>= next) :=
  fun system loader => ((rest _).tidy system _).pending (first system loader)

/-- What comes before does not matter. -/
theorem after {operation : Loading α} {next : α → Loading β}
    (rest : ∀ value, Clears (next value)) : Clears (operation >>= next) :=
  fun system _ => rest _ system _

end Clears

end Loading

namespace SharedLibrary

open Loading

theorem resolving_unload (library : SharedLibrary) : Resolving library.unload := by
  obtain ⟨owned⟩ := library
  cases owned with
  | none => exact .pure ()
  | some handle => exact (Resolving.record _ _).bind fun _ => .close handle

theorem resolving_symbolAddress (library : SharedLibrary) (name : String) :
    Resolving (library.symbolAddress name) := by
  obtain ⟨owned⟩ := library
  cases owned with
  | none => exact .pure _
  | some handle =>
      unfold symbolAddress
      dsimp only
      split
      · exact .pure _
      · apply (Resolving.record _ _).bind
        intro _
        apply (Resolving.lookUp handle name).bind
        intro outcome
        cases outcome with
        | ok address => exact .pure _
        | error text => exact .pure _

theorem resolving_has (library : SharedLibrary) (name : String) :
    Resolving (library.has name) := by
  apply (library.resolving_symbolAddress name).bind
  intro outcome
  cases outcome with
  | ok address => exact .pure _
  | error text => exact .pure _

/-- What an exported pointer variable points to, when it has been found. -/
def targetOf (name : String) : Except Error Address → Loading (Except Error Address)
  | .ok variableAddress =>
      match variableAddress.target? with
      | some target => return .ok target
      | none => return .error (.symbolNotFound name .nullAlias)
  | .error error => return .error error

theorem resolving_targetOf (name : String) (outcome : Except Error Address) :
    Resolving (targetOf name outcome) := by
  cases outcome with
  | ok address =>
      unfold targetOf
      dsimp only
      split
      · exact .pure _
      · exact .pure _
  | error text => exact .pure _

theorem resolving_aliasAddress (library : SharedLibrary) (name : String) :
    Resolving (library.aliasAddress name) :=
  (library.resolving_symbolAddress name).bind (resolving_targetOf name)

theorem resolving_importAddress (library : SharedLibrary) (kind : ImportKind) (name : String) :
    Resolving (library.importAddress kind name) := by
  cases kind with
  | aliased => exact library.resolving_aliasAddress name
  | object => exact library.resolving_symbolAddress name
  | function => exact library.resolving_symbolAddress name

/-- The symbol that is imported from an address, when there is one. -/
def symbolAt (kind : ImportKind) (name : String) :
    Except Error Address → Loading (Except Error ImportedSymbol)
  | .ok address => do
      record .info (kind.message name)
      return .ok { isFunction := kind == .function, address }
  | .error error => return .error error

theorem resolving_symbolAt (kind : ImportKind) (name : String)
    (outcome : Except Error Address) : Resolving (symbolAt kind name outcome) := by
  cases outcome with
  | ok address => exact (Resolving.record _ _).bind fun _ => .pure _
  | error error => exact .pure _

theorem resolving_importSymbol (library : SharedLibrary) (kind : ImportKind) (name : String) :
    Resolving (library.importSymbol kind name) :=
  (library.resolving_importAddress kind name).bind (resolving_symbolAt kind name)

section Clears

variable {library : SharedLibrary} {name : String}

/-- A lookup reaches the loader when the library is loaded and the name can be told to
the loader. -/
theorem clears_symbolAddress (loaded : library.isLoaded = true)
    (noNul : Char.ofNat 0 ∉ name.toList) : Clears (library.symbolAddress name) := by
  obtain ⟨owned⟩ := library
  cases owned with
  | none => cases loaded
  | some handle =>
      unfold symbolAddress
      dsimp only
      rw [if_neg (by simpa using noNul)]
      apply Clears.after
      intro _
      apply (Clears.lookUp handle name).bind
      intro outcome
      cases outcome with
      | ok address => exact .pure _
      | error text => exact .pure _

theorem clears_has (loaded : library.isLoaded = true) (noNul : Char.ofNat 0 ∉ name.toList) :
    Clears (library.has name) := by
  apply (clears_symbolAddress loaded noNul).bind
  intro outcome
  cases outcome with
  | ok address => exact .pure _
  | error text => exact .pure _

theorem clears_aliasAddress (loaded : library.isLoaded = true)
    (noNul : Char.ofNat 0 ∉ name.toList) : Clears (library.aliasAddress name) :=
  (clears_symbolAddress loaded noNul).bind (resolving_targetOf name)

theorem clears_importSymbol (loaded : library.isLoaded = true)
    (noNul : Char.ofNat 0 ∉ name.toList) (kind : ImportKind) :
    Clears (library.importSymbol kind name) := by
  have found : Clears (library.importAddress kind name) := by
    cases kind with
    | aliased => exact clears_aliasAddress loaded noNul
    | object => exact clears_symbolAddress loaded noNul
    | function => exact clears_symbolAddress loaded noNul
  exact found.bind (resolving_symbolAt kind name)

end Clears

theorem tidy_openLogged (path : Path) (mode : LoadMode) : Tidy (openLogged path mode) := by
  apply (Tidy.openPath path mode).bind
  intro outcome
  cases outcome with
  | ok handle => exact (Tidy.record _ _).bind fun _ => .pure _
  | error text => exact .pure _

/-- What follows an attempt on the decorated name of a path that has failed. -/
def settleDecorated (path : Path) (text : String) :
    Loading (Option (Except Error SharedLibrary)) := do
  record .debug s!"Decorated load of [{path.decorate.text}] failed: {text}"
  let system ← read
  if system.pathExists path.decorate && !system.isProgram path then
    return some (.error (.invalidImage path.decorate text))
  return none

theorem tidy_settleDecorated (path : Path) (text : String) : Tidy (settleDecorated path text) := by
  apply (Tidy.record _ _).bind
  intro _
  apply Tidy.read.bind
  intro system
  split
  · exact .pure _
  · exact .pure _

theorem tidy_loadDecorated (path : Path) (mode : LoadMode) : Tidy (loadDecorated path mode) := by
  apply (tidy_openLogged path.decorate mode).bind
  intro outcome
  cases outcome with
  | ok handle => exact .pure _
  | error text => exact tidy_settleDecorated path text

/-- What follows an attempt on a path that has failed: one on the program, if the path is
that of the program. -/
def retryProgram (path : Path) (mode : LoadMode) (text : String) :
    Loading (Except Error SharedLibrary) := do
  if (← read).isProgram path then
    record .debug s!"[{path.text}] is the running program, loading it as a library"
    if let .ok handle ← openProgram mode then
      return .ok ⟨some handle⟩
  return .error (.loadFailed path text)

theorem tidy_retryProgram (path : Path) (mode : LoadMode) (text : String) :
    Tidy (retryProgram path mode text) := by
  apply Tidy.read.bind
  intro system
  split
  · apply (Tidy.record _ _).bind
    intro _
    apply (Tidy.openTarget none mode).bind
    intro opened
    cases opened with
    | ok handle => exact .pure _
    | error text => exact .pure _
  · exact .pure _

theorem tidy_loadPlain (path : Path) (mode : LoadMode) : Tidy (loadPlain path mode) := by
  apply (tidy_openLogged path mode).bind
  intro outcome
  cases outcome with
  | ok handle => exact .pure _
  | error text => exact tidy_retryProgram path mode text

theorem tidy_load (library : SharedLibrary) (path : Path) (mode : LoadMode) :
    Tidy (library.load path mode) := by
  apply library.resolving_unload.tidy.bind
  intro _
  split
  · exact Tidy.clearPending.bind fun _ => .pure _
  · dsimp only
    split
    · apply (tidy_loadDecorated _ _).bind
      intro settled
      cases settled with
      | some outcome => exact .pure _
      | none => exact tidy_loadPlain _ _
    · exact tidy_loadPlain _ _

theorem tidy_openSelf (mode : LoadMode) : Tidy (openSelf mode) := by
  apply (Tidy.openTarget none mode.normalized).bind
  intro outcome
  cases outcome with
  | ok handle => exact (Tidy.record _ _).bind fun _ => .pure _
  | error text => exact Tidy.read.bind fun _ => .pure _

theorem tidy_location (library : SharedLibrary) : Tidy library.location := by
  obtain ⟨owned⟩ := library
  cases owned with
  | none => exact .pure _
  | some handle => exact .fileOf handle

end SharedLibrary

end SharedObject
