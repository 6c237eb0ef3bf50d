import SharedObject.Locator
import SharedObject.Proofs.Loader.References

/-!
# References exchanged by library operations

Opening gives a reference that goes with the handle, unloading takes the one of
the library, and looking symbols up touches none.  Only unloading closes handles.
-/

namespace SharedObject

namespace Loading

variable {given : Option Handle}

theorem transfers_record (level : LogLevel) (message : String) :
    Transfers (record level message) given (fun _ => given) [] :=
  fun _ loader _ => .of_references_eq [] (List.append_nil loader.calls).symm rfl rfl rfl

theorem transfers_clearPending : Transfers clearPending given (fun _ => given) [] :=
  fun _ loader _ => .of_references_eq [] (List.append_nil loader.calls).symm rfl rfl rfl

theorem openTarget_ok {target : Option Path} {system : System} {handle : Handle}
    (opened : system.opening target = .ok handle) (mode : LoadMode) (loader : Loader) :
    openTarget target mode system loader =
      (.ok handle,
        { loader with
          references := Function.update loader.references handle (loader.references handle + 1)
          pending := none
          calls := loader.calls ++ [.opened target mode.nativeFlags (some handle)] }) := by
  simp only [openTarget, run_bind, run_read, opened, addReference, note, clearPending,
    run_modify, run_pure]
  congr
  funext other
  by_cases same : other = handle <;> simp [same]

theorem openTarget_error {target : Option Path} {system : System} {text : Option String}
    (opened : system.opening target = .error text) (mode : LoadMode) (loader : Loader) :
    openTarget target mode system loader =
      (.error ((text.or loader.pending).getD ""),
        { loader with
          pending := none
          calls := loader.calls ++ [.opened target mode.nativeFlags none] }) := by
  simp only [openTarget, run_bind, run_read, opened, setPending, note, takePending,
    run_modify, run_modifyGet, run_pure]

theorem transfers_openTarget (target : Option Path) (mode : LoadMode) :
    Transfers (openTarget target mode) none Except.toOption [] := by
  intro system loader _
  cases opened : system.opening target with
  | ok handle =>
      rw [openTarget_ok opened]
      refine ⟨⟨_, rfl, rfl, rfl⟩, ?_⟩
      intro other
      by_cases same : other = handle
      · simp [Except.toOption, same]
      · simp [Except.toOption, share, same, Ne.symm same]
  | error text =>
      rw [openTarget_error opened]
      exact .of_references_eq _ rfl rfl rfl rfl

theorem transfers_openPath (path : Path) (mode : LoadMode) :
    Transfers (openPath path mode) none Except.toOption [] := by
  unfold openPath
  split
  · exact .pure rfl
  · exact transfers_openTarget (some path) mode

theorem close_run (handle : Handle) (system : System) (loader : Loader) :
    (close handle system loader).2 =
      { loader with
        references := Function.update loader.references handle (loader.references handle - 1)
        pending := if (system.closing handle).isSome then none else loader.pending
        calls := loader.calls ++ [.closed handle (loader.references handle - 1)]
        log := loader.log ++ (system.closing handle).toList.map fun text =>
          ⟨.warn, s!"dlclose failed: {text}"⟩ } := by
  have counts : (fun other => if other = handle then loader.references other - 1
      else loader.references other) =
        Function.update loader.references handle (loader.references handle - 1) := by
    funext other
    by_cases same : other = handle <;> simp [same]
  cases closing : system.closing handle with
  | none => simp [close, removeReference, note, closing, counts]
  | some text =>
      simp [close, removeReference, note, closing, counts, setPending, takePending, record]

theorem transfers_close (handle : Handle) :
    Transfers (close handle) (some handle) (fun _ => none) [handle] := by
  intro system loader covered
  have positive := covered handle rfl
  rw [close_run]
  refine ⟨⟨_, rfl, ?_, rfl⟩, ?_⟩
  · simp [Call.replay, Call.effect, Nat.sub_add_cancel positive]
  · intro other
    by_cases same : other = handle
    · simp [same, Nat.sub_add_cancel positive]
    · simp [share, same, Ne.symm same]

theorem lookUp_run (handle : Handle) (name : String) (system : System) (loader : Loader) :
    (lookUp handle name system loader).2 =
      { loader with
        pending := none
        calls := loader.calls ++ [.lookedUp handle name (system.symbol handle name).isOk] } := by
  cases found : system.symbol handle name with
  | ok address =>
      by_cases null : address.isNull
      · simp [lookUp, clearPending, found, note, null, takePending, Except.isOk, Except.toBool]
      · simp [lookUp, clearPending, found, note, null, Except.isOk, Except.toBool]
  | error text =>
      simp [lookUp, clearPending, found, note, setPending, takePending, Except.isOk,
        Except.toBool]

theorem transfers_lookUp (handle : Handle) (name : String) :
    Transfers (lookUp handle name) given (fun _ => given) [] := by
  intro system loader _
  rw [lookUp_run]
  exact .of_references_eq _ rfl rfl rfl rfl

theorem transfers_locate (address : UInt64) :
    Transfers (locate address) given (fun _ => given) [] := by
  unfold locate
  split
  · exact .pure rfl
  · exact (transfers_record _ _).bind_nil fun _ => Transfers.read.bind_nil fun _ => .pure rfl

end Loading

namespace SharedLibrary

open Loading

variable {given : Option Handle}

/-- The handle that goes with the outcome of loading. -/
def handleOf (outcome : Except Error SharedLibrary) : Option Handle :=
  outcome.toOption.bind (·.handle)

theorem transfers_openLogged (path : Path) (mode : LoadMode) :
    Transfers (openLogged path mode) none Except.toOption [] := by
  refine (transfers_openPath path mode).bind_nil fun outcome => ?_
  cases outcome with
  | ok handle => exact (transfers_record _ _).bind_nil fun _ => .pure rfl
  | error text => exact .pure rfl

theorem transfers_loadDecorated (path : Path) (mode : LoadMode) :
    Transfers (loadDecorated path mode) none (fun settled => settled.bind handleOf) [] := by
  refine (transfers_openLogged path.decorate mode).bind_nil fun outcome => ?_
  cases outcome with
  | ok handle => exact .pure rfl
  | error text =>
      refine (transfers_record _ _).bind_nil fun _ => Transfers.read.bind_nil fun system => ?_
      split
      · exact .pure rfl
      · exact .pure rfl

theorem transfers_loadPlain (path : Path) (mode : LoadMode) :
    Transfers (loadPlain path mode) none handleOf [] := by
  refine (transfers_openLogged path mode).bind_nil fun outcome => ?_
  cases outcome with
  | ok handle => exact .pure rfl
  | error text =>
      refine Transfers.read.bind_nil fun system => ?_
      split
      · refine (transfers_record _ _).bind_nil fun _ => ?_
        refine (transfers_openTarget none mode).bind_nil fun opened => ?_
        cases opened with
        | ok handle => exact .pure rfl
        | error text => exact .pure rfl
      · exact .pure rfl

theorem transfers_unload (library : SharedLibrary) :
    Transfers library.unload library.handle (fun _ => none) library.handle.toList := by
  obtain ⟨owned⟩ := library
  cases owned with
  | none => exact .pure rfl
  | some handle => exact (transfers_record _ _).bind_nil fun _ => transfers_close handle

/-- Loading closes the handle that the library has and leaves it the one opened. -/
theorem transfers_load (library : SharedLibrary) (path : Path) (mode : LoadMode) :
    Transfers (library.load path mode) library.handle handleOf library.handle.toList := by
  rw [← List.append_nil library.handle.toList]
  refine (transfers_unload library).bind fun _ => ?_
  split
  · exact transfers_clearPending.bind_nil fun _ => .pure rfl
  · dsimp only
    split
    · refine (transfers_loadDecorated _ _).bind_nil fun settled => ?_
      cases settled with
      | some outcome => exact .pure rfl
      | none => exact transfers_loadPlain _ _
    · exact transfers_loadPlain _ _

theorem transfers_openAt (path : Path) (mode : LoadMode) :
    Transfers (openAt path mode) none handleOf [] :=
  transfers_load unloaded path mode

theorem transfers_openSelf (mode : LoadMode) :
    Transfers (openSelf mode) none handleOf [] := by
  refine (transfers_openTarget none mode.normalized).bind_nil fun outcome => ?_
  cases outcome with
  | ok handle => exact (transfers_record _ _).bind_nil fun _ => .pure rfl
  | error text => exact Transfers.read.bind_nil fun _ => .pure rfl

theorem transfers_symbolAddress (library : SharedLibrary) (name : String) :
    Transfers (library.symbolAddress name) given (fun _ => given) [] := by
  obtain ⟨owned⟩ := library
  cases owned with
  | none => exact .pure rfl
  | some handle =>
      unfold symbolAddress
      dsimp only
      split
      · exact .pure rfl
      · refine (transfers_record _ _).bind_nil fun _ => ?_
        refine (transfers_lookUp handle name).bind_nil fun outcome => ?_
        cases outcome with
        | ok address => exact .pure rfl
        | error text => exact .pure rfl

theorem transfers_has (library : SharedLibrary) (name : String) :
    Transfers (library.has name) given (fun _ => given) [] := by
  refine (transfers_symbolAddress library name).bind_nil fun outcome => ?_
  cases outcome with
  | ok address => exact .pure rfl
  | error text => exact .pure rfl

theorem transfers_aliasAddress (library : SharedLibrary) (name : String) :
    Transfers (library.aliasAddress name) given (fun _ => given) [] := by
  refine (transfers_symbolAddress library name).bind_nil fun outcome => ?_
  cases outcome with
  | ok address => dsimp only; split <;> exact .pure rfl
  | error text => exact .pure rfl

theorem transfers_location (library : SharedLibrary) :
    Transfers library.location given (fun _ => given) [] := by
  obtain ⟨owned⟩ := library
  cases owned with
  | none => exact .pure rfl
  | some handle =>
      intro system loader _
      refine .of_references_eq [] ?_ rfl rfl ?_ <;>
        cases found : system.linkMap handle <;>
        simp [location, fileOf, found, takePending, setPending]

theorem transfers_importAddress (library : SharedLibrary) (kind : ImportKind)
    (name : String) :
    Transfers (library.importAddress kind name) given (fun _ => given) [] := by
  cases kind with
  | aliased => exact transfers_aliasAddress library name
  | object | function => exact transfers_symbolAddress library name

theorem transfers_importSymbol (library : SharedLibrary) (kind : ImportKind) (name : String) :
    Transfers (library.importSymbol kind name) given (fun _ => given) [] := by
  refine (transfers_importAddress library kind name).bind_nil fun outcome => ?_
  cases outcome with
  | ok address => exact (transfers_record _ _).bind_nil fun _ => .pure rfl
  | error error => exact .pure rfl

end SharedLibrary

end SharedObject
