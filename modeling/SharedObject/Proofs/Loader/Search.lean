import SharedObject.Proofs.Loader.Fallback
import SharedObject.Proofs.Path.Decoration

/-!
# Loading without a search

The loader searches the folders of the system for a path without a separator.  Unless the
mode asks for this, a load hands the loader no such path, so that what a search would find
has no influence on the load.
-/

namespace SharedObject

/-- A call that opens a file hands the loader a path with a separator. -/
def Call.IsLocal : Call → Prop
  | .opened (some target) _ _ => Path.separator ∈ target.bytes
  | _ => True

/-- The system in which a search of the system folders finds something else. -/
def System.withSearch (system : System) (search : Path → Except (Option String) Handle) :
    System :=
  { system with
    opening := fun target =>
      match target with
      | some path => if Path.separator ∈ path.bytes then system.opening target else search path
      | none => system.opening target }

theorem System.opening_withSearch {target : Option Path}
    (directed : ∀ path, target = some path → Path.separator ∈ path.bytes) (system : System)
    (search : Path → Except (Option String) Handle) :
    (system.withSearch search).opening target = system.opening target := by
  cases target with
  | none => rfl
  | some path => exact if_pos (directed path rfl)

namespace Loading

variable {α β : Type}

/-- The operation opens files by paths with a separator only, and does not depend on what a
search would find. -/
structure OpensLocally (operation : Loading α) : Prop where
  calls : ∀ system loader, ∃ made, (operation system loader).2.calls = loader.calls ++ made ∧
    ∀ call ∈ made, call.IsLocal
  deaf : ∀ system search loader,
    operation (system.withSearch search) loader = operation system loader

namespace OpensLocally

theorem pure (value : α) : OpensLocally (pure value) :=
  ⟨fun _ loader => ⟨[], by simp, by simp⟩, fun _ _ _ => rfl⟩

theorem bind {operation : Loading α} {next : α → Loading β} (first : OpensLocally operation)
    (rest : ∀ value, OpensLocally (next value)) : OpensLocally (operation >>= next) := by
  constructor
  · intro system loader
    obtain ⟨made, calls, areLocal⟩ := first.calls system loader
    obtain ⟨more, callsAfter, areLocalAfter⟩ :=
      (rest (operation system loader).1).calls system (operation system loader).2
    refine ⟨made ++ more, ?_, ?_⟩
    · rw [run_bind, callsAfter, calls, List.append_assoc]
    · intro call member
      rcases List.mem_append.mp member with early | late
      · exact areLocal call early
      · exact areLocalAfter call late
  · intro system search loader
    rw [run_bind, run_bind, first.deaf, (rest _).deaf]

/-- What is done with the system does not concern searches. -/
theorem read {next : System → Loading α}
    (unsearched : ∀ system search, next (system.withSearch search) = next system)
    (rest : ∀ system, OpensLocally (next system)) : OpensLocally (read >>= next) := by
  constructor
  · intro system loader
    exact (rest system).calls system loader
  · intro system search loader
    rw [run_bind, run_bind, run_read, run_read, unsearched, (rest system).deaf]

theorem note {call : Call} (isLocal : call.IsLocal) : OpensLocally (note call) :=
  ⟨fun _ _ => ⟨[call], rfl, by simpa using isLocal⟩, fun _ _ _ => rfl⟩

/-- A change of the loader that makes no call and has nothing to do with the system. -/
theorem silent {operation : Loading α}
    (calls : ∀ system loader, (operation system loader).2.calls = loader.calls)
    (alike : ∀ first second loader, operation first loader = operation second loader) :
    OpensLocally operation :=
  ⟨fun system loader => ⟨[], by simp [calls], by simp⟩, fun _ _ loader => alike _ _ loader⟩

theorem record (level : LogLevel) (message : String) : OpensLocally (record level message) :=
  silent (fun _ _ => rfl) fun _ _ _ => rfl

theorem setPending (text : Option String) : OpensLocally (setPending text) :=
  silent (fun _ _ => rfl) fun _ _ _ => rfl

theorem takePending : OpensLocally takePending :=
  silent (fun _ _ => rfl) fun _ _ _ => rfl

theorem clearPending : OpensLocally clearPending :=
  silent (fun _ _ => rfl) fun _ _ _ => rfl

theorem addReference (handle : Handle) : OpensLocally (addReference handle) :=
  silent (fun _ _ => rfl) fun _ _ _ => rfl

theorem removeReference (handle : Handle) : OpensLocally (removeReference handle) :=
  silent (fun _ _ => rfl) fun _ _ _ => rfl

theorem close (handle : Handle) : OpensLocally (close handle) := by
  apply (removeReference handle).bind
  intro left
  have isLocal : (Call.closed handle left).IsLocal := trivial
  apply (note isLocal).bind
  intro _
  apply read fun _ _ => rfl
  intro system
  split
  · exact (setPending _).bind fun _ => takePending.bind fun _ => record _ _
  · exact pure _

theorem openTarget {target : Option Path}
    (directed : ∀ path, target = some path → Path.separator ∈ path.bytes) (mode : LoadMode) :
    OpensLocally (openTarget target mode) := by
  have isLocal (opened : Option Handle) :
      (Call.opened target mode.nativeFlags opened).IsLocal := by
    cases target with
    | none => trivial
    | some path => exact directed path rfl
  apply read
  · intro system search
    rw [system.opening_withSearch directed]
  · intro system
    cases system.opening target with
    | ok handle =>
        exact (addReference handle).bind fun _ => (note (isLocal _)).bind fun _ =>
          clearPending.bind fun _ => pure _
    | error text =>
        exact (setPending text).bind fun _ => (note (isLocal _)).bind fun _ =>
          takePending.bind fun _ => pure _

theorem openPath {path : Path} (directed : Path.separator ∈ path.bytes) (mode : LoadMode) :
    OpensLocally (openPath path mode) := by
  unfold Loading.openPath
  split
  · exact pure _
  · apply openTarget
    rintro _ ⟨⟩
    exact directed

theorem openProgram (mode : LoadMode) : OpensLocally (openProgram mode) := by
  apply openTarget
  simp

end OpensLocally

end Loading

namespace SharedLibrary

open Loading

variable {path : Path}

theorem opensLocally_unload (library : SharedLibrary) : OpensLocally library.unload := by
  obtain ⟨owned⟩ := library
  cases owned with
  | none => exact .pure _
  | some handle => exact (OpensLocally.record _ _).bind fun _ => .close handle

theorem opensLocally_openLogged (directed : Path.separator ∈ path.bytes) (mode : LoadMode) :
    OpensLocally (openLogged path mode) := by
  apply (OpensLocally.openPath directed mode).bind
  intro outcome
  cases outcome with
  | ok handle => exact (OpensLocally.record _ _).bind fun _ => .pure _
  | error text => exact .pure _

theorem opensLocally_settleDecorated (path : Path) (text : String) :
    OpensLocally (settleDecorated path text) := by
  apply (OpensLocally.record _ _).bind
  intro _
  apply OpensLocally.read fun _ _ => rfl
  intro system
  split
  · exact .pure _
  · exact .pure _

theorem opensLocally_loadDecorated (directed : Path.separator ∈ path.decorate.bytes)
    (mode : LoadMode) : OpensLocally (loadDecorated path mode) := by
  apply (opensLocally_openLogged directed mode).bind
  intro outcome
  cases outcome with
  | ok handle => exact .pure _
  | error text => exact opensLocally_settleDecorated path text

theorem opensLocally_retryProgram (path : Path) (mode : LoadMode) (text : String) :
    OpensLocally (retryProgram path mode text) := by
  apply OpensLocally.read fun _ _ => rfl
  intro system
  split
  · apply (OpensLocally.record _ _).bind
    intro _
    apply (OpensLocally.openProgram mode).bind
    intro opened
    cases opened with
    | ok handle => exact .pure _
    | error text => exact .pure _
  · exact .pure _

theorem opensLocally_loadPlain (directed : Path.separator ∈ path.bytes) (mode : LoadMode) :
    OpensLocally (loadPlain path mode) := by
  apply (opensLocally_openLogged directed mode).bind
  intro outcome
  cases outcome with
  | ok handle => exact .pure _
  | error text => exact opensLocally_retryProgram path mode text

theorem opensLocally_load {mode : LoadMode}
    (unsearched : mode.contains .searchSystemFolders = false) (library : SharedLibrary)
    (path : Path) : OpensLocally (library.load path mode) := by
  have sought : searchPath path mode.normalized = path.localize := by
    rw [searchPath_normalized, searchPath, if_neg (by simp [unsearched])]
  apply library.opensLocally_unload.bind
  intro _
  split
  · exact OpensLocally.clearPending.bind fun _ => .pure _
  · dsimp only
    rw [sought]
    split
    · apply (opensLocally_loadDecorated (Path.separator_mem_decorate_localize path) _).bind
      intro settled
      cases settled with
      | some outcome => exact .pure _
      | none => exact opensLocally_loadPlain (Path.separator_mem_localize path) _
    · exact opensLocally_loadPlain (Path.separator_mem_localize path) _

/-- A load by a mode without the flag to search the system folders opens no file by a path
without a separator, decorated or not.  What a search would find makes no difference to it. -/
theorem load_unsearched (library : SharedLibrary) (path : Path) (mode : LoadMode)
    (system : System) (loader : Loader)
    (unsearched : mode.contains .searchSystemFolders = false) :
    let run := library.load path mode system loader
    (∃ made, run.2.calls = loader.calls ++ made ∧
      ∀ target flags handle, .opened (some target) flags handle ∈ made →
        Path.separator ∈ target.bytes) ∧
      ∀ search, library.load path mode (system.withSearch search) loader = run := by
  intro run
  have opensLocally := opensLocally_load unsearched library path
  obtain ⟨made, calls, areLocal⟩ := opensLocally.calls system loader
  constructor
  · refine ⟨made, calls, ?_⟩
    intro target flags handle member
    exact areLocal _ member
  · intro search
    exact opensLocally.deaf system search loader

/-- A bare name with decorations, of which the system folders have a library. -/
theorem load_unsearched_of_bareName :
    let system : System :=
      { program := none
        fileExists := fun _ => false
        canonical := some
        opening := fun target =>
          if target = some (.ofString "libfoo.so") then .ok ⟨0⟩ else .error (some "not found")
        symbol := fun _ _ => .error none
        linkMap := fun _ => .absent
        closing := fun _ => none
        modules := []
        memory := 0 }
    let run := openAt (.ofString "foo") .appendDecorations system {}
    run.2.calls = [.opened (some (.ofString "./libfoo.so")) 1 none,
      .opened (some (.ofString "./foo")) 1 none] ∧
      openAt (.ofString "foo") .appendDecorations (system.withSearch fun _ => .error none) {} =
        run := by
  intro system run
  obtain ⟨-, deaf⟩ := load_unsearched unloaded (.ofString "foo") .appendDecorations system {}
    (by decide)
  refine ⟨?_, deaf _⟩
  decide +kernel

end SharedLibrary

end SharedObject
