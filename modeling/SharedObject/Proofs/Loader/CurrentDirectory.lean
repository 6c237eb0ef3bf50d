import SharedObject.Proofs.Loader.Fallback
import SharedObject.Proofs.Path.Decoration

/-!
# Searched names and the current directory

When a load searches the system folders, the loader looks for a bare name there and not in
the current directory.  The load itself asks for a file once, after the decorated name was
not opened, and this question is about the current directory.  Which file is the running
program's is told by canonical forms; as long as these stay the same, nothing else in a load
depends on which files exist.
-/

namespace SharedObject

namespace Path

/-- A decorated bare name is bare. -/
theorem separator_notMem_decorate {path : Path} (bare : separator ∉ path.bytes) :
    separator ∉ path.decorate.bytes := by
  cases named : path.fileName with
  | none =>
      rw [decorate_of_unnamed named]
      exact bare
  | some name =>
      have proper := isFileName_decorated named
      have isParent := parent_of_fileName named
      have nothingAbove := isEmpty_of_parent bare isParent
      have alone : path.withFileName (decoratedName name) = ⟨decoratedName name⟩ := by
        rw [withFileName, named]
        simp only [isParent, Option.getD_some, join, isAbsolute_of_isFileName proper,
          nothingAbove]
        simp_all [isEmpty]
      rw [decorate_of_fileName named, alone]
      exact proper.plain

end Path

namespace System

/-- The system with other files, whose canonical forms are the same as before. -/
def withFiles (system : System) (files : Path → Bool) : System :=
  { system with fileExists := files }

/-- Whether a file that is called like the decorated path decides a load: the decorated
path is tried and can be told to the loader, does not open, and the path is not that of the
running program. -/
structure JudgesByFile (system : System) (path : Path) (mode : LoadMode) : Prop where
  named : path.isEmpty = false
  decorated : mode.contains .appendDecorations = true
  proper : path.decorate.hasNul = false
  unopened : ∀ handle, system.opening (some path.decorate) ≠ .ok handle
  foreign : system.isProgram path = false

theorem judgesByFile_withFiles {system : System} {files : Path → Bool} {path : Path}
    {mode : LoadMode} :
    (system.withFiles files).JudgesByFile path mode ↔ system.JudgesByFile path mode :=
  ⟨fun judges => ⟨judges.named, judges.decorated, judges.proper, judges.unopened, judges.foreign⟩,
    fun judges => ⟨judges.named, judges.decorated, judges.proper, judges.unopened, judges.foreign⟩⟩

theorem attempt_eq_error_iff {system : System} {pending : Option String} {path : Path} :
    (∃ text, system.attempt pending path = .error text) ↔
      path.hasNul = true ∨ ∀ handle, system.opening (some path) ≠ .ok handle := by
  unfold attempt
  by_cases nul : path.hasNul = true
  · simp [nul]
  · cases system.opening (some path) <;> simp [nul]

end System

namespace Loading

variable {α β : Type}

/-- The operation does not depend on which files exist. -/
def Blind (operation : Loading α) : Prop :=
  ∀ system files loader, operation (System.withFiles system files) loader =
    operation system loader

namespace Blind

theorem pure (value : α) : Blind (pure value) :=
  fun _ _ _ => rfl

theorem bind {operation : Loading α} {next : α → Loading β} (first : Blind operation)
    (rest : ∀ value, Blind (next value)) : Blind (operation >>= next) := by
  intro system files loader
  rw [run_bind, run_bind, first, rest]

theorem read {next : System → Loading α}
    (indifferent : ∀ system files, next (System.withFiles system files) = next system)
    (rest : ∀ system, Blind (next system)) : Blind (read >>= next) := by
  intro system files loader
  rw [run_bind, run_bind, run_read, run_read, indifferent, rest]

theorem record (level : LogLevel) (message : String) : Blind (record level message) :=
  fun _ _ _ => rfl

theorem openTarget (target : Option Path) (mode : LoadMode) : Blind (openTarget target mode) := by
  intro system files loader
  have same : (system.withFiles files).opening target = system.opening target := rfl
  cases opened : system.opening target with
  | ok handle => rw [openTarget_ok opened, openTarget_ok (same.trans opened)]
  | error text => rw [openTarget_error opened, openTarget_error (same.trans opened)]

theorem openPath (path : Path) (mode : LoadMode) : Blind (openPath path mode) := by
  unfold Loading.openPath
  split
  · exact pure _
  · exact openTarget (some path) mode

theorem close (handle : Handle) : Blind (close handle) := by
  have removes : Blind (removeReference handle) := fun _ _ _ => rfl
  apply removes.bind
  intro left
  have notes : Blind (note (.closed handle left)) := fun _ _ _ => rfl
  apply notes.bind
  intro _
  apply read fun _ _ => rfl
  intro system
  split
  · exact fun _ _ _ => rfl
  · exact pure _

end Blind

end Loading

namespace SharedLibrary

open Loading

theorem blind_unload (library : SharedLibrary) : Blind library.unload := by
  obtain ⟨owned⟩ := library
  cases owned with
  | none => exact .pure _
  | some handle => exact (Blind.record _ _).bind fun _ => .close handle

theorem blind_openLogged (path : Path) (mode : LoadMode) : Blind (openLogged path mode) := by
  apply (Blind.openPath path mode).bind
  intro outcome
  cases outcome with
  | ok handle => exact (Blind.record _ _).bind fun _ => .pure _
  | error text => exact .pure _

theorem blind_retryProgram (path : Path) (mode : LoadMode) (text : String) :
    Blind (retryProgram path mode text) := by
  apply Blind.read fun _ _ => rfl
  intro system
  split
  · apply (Blind.record _ _).bind
    intro _
    apply (Blind.openTarget none mode).bind
    intro opened
    cases opened with
    | ok handle => exact .pure _
    | error text => exact .pure _
  · exact .pure _

theorem blind_loadPlain (path : Path) (mode : LoadMode) : Blind (loadPlain path mode) := by
  apply (blind_openLogged path mode).bind
  intro outcome
  cases outcome with
  | ok handle => exact .pure _
  | error text => exact blind_retryProgram path mode text

section Searched

variable {path : Path} {mode : LoadMode} {system : System} {files : Path → Bool}

/-- What the step that asks for a file makes of the answer. -/
theorem settleDecorated_withFiles {text : String} {loader : Loader}
    (agree : path.decorate.hasNul = false → system.isProgram path = false →
      files path.decorate = system.fileExists path.decorate) :
    settleDecorated path text (system.withFiles files) loader =
      settleDecorated path text system loader := by
  have sameProgram : (system.withFiles files).isProgram path = system.isProgram path := rfl
  have sameAnswer : ((system.withFiles files).pathExists path.decorate &&
        !system.isProgram path) =
      (system.pathExists path.decorate && !system.isProgram path) := by
    cases nul : path.decorate.hasNul <;> cases isProgram : system.isProgram path <;>
      simp_all [System.pathExists, System.withFiles]
  rw [settleDecorated, run_bind, run_bind, run_bind, run_bind, run_read, run_read, sameProgram,
    sameAnswer, Blind.record]
  split <;> rfl

theorem loadDecorated_withFiles {loader : Loader} {native : LoadMode}
    (named : path.isEmpty = false) (decorated : mode.contains .appendDecorations = true)
    (agree : system.JudgesByFile path mode →
      files path.decorate = system.fileExists path.decorate) :
    loadDecorated path native (system.withFiles files) loader =
      loadDecorated path native system loader := by
  obtain ⟨outcome, -, -⟩ := openLogged_run path.decorate native system loader
  rw [loadDecorated, run_bind, run_bind, blind_openLogged, outcome]
  cases attempted : system.attempt loader.pending path.decorate with
  | ok handle => rfl
  | error text =>
      apply settleDecorated_withFiles
      intro proper foreign
      rcases System.attempt_eq_error_iff.mp ⟨text, attempted⟩ with nul | unopened
      · simp [proper] at nul
      · exact agree ⟨named, decorated, proper, unopened, foreign⟩

variable (library : SharedLibrary) (loader : Loader)

theorem load_withFiles (searched : mode.contains .searchSystemFolders = true)
    (agree : system.JudgesByFile path mode →
      files path.decorate = system.fileExists path.decorate) :
    library.load path mode (system.withFiles files) loader =
      library.load path mode system loader := by
  have sought : searchPath path mode = path := if_pos searched
  cases named : path.isEmpty with
  | true =>
      simp only [load, run_bind, named, if_true, library.blind_unload system files]
      rfl
  | false =>
      cases decorated : mode.contains .appendDecorations with
      | false =>
          rw [library.load_of_plain _ _ named decorated,
            library.load_of_plain _ _ named decorated, blind_unload, blind_loadPlain]
      | true =>
          rw [library.load_of_decorated _ _ named decorated,
            library.load_of_decorated _ _ named decorated, sought, blind_unload,
            loadDecorated_withFiles named decorated agree]
          simp only [blind_loadPlain _ _ system files]

theorem loadPlain_ne_invalidImage (path : Path) (mode : LoadMode) (system : System)
    {image : Path} {text : String} :
    (loadPlain path mode system loader).1 ≠ .error (.invalidImage image text) := by
  have plainly := loadsPlainly_loadPlain path mode system loader
  cases attempted : system.attempt loader.pending path with
  | ok handle => simp [(plainly.opened handle attempted).1]
  | error reported =>
      cases isProgram : system.isProgram path with
      | false => simp [(plainly.failed reported attempted isProgram).1]
      | true =>
          cases opened : system.opening none with
          | ok handle => simp [(plainly.programOpened _ handle attempted isProgram opened).1]
          | error other => simp [(plainly.programFailed _ other attempted isProgram opened).1]

/-- An attempt on the decorated path ends a load as an invalid image exactly when the file
decides it. -/
theorem loadDecorated_invalidImage_iff (native : LoadMode) (named : path.isEmpty = false)
    (decorated : mode.contains .appendDecorations = true) {image : Path} :
    (∃ text, (loadDecorated path native system loader).1 =
        some (.error (.invalidImage image text))) ↔
      image = path.decorate ∧ system.JudgesByFile path mode ∧
        system.fileExists path.decorate = true := by
  obtain ⟨settled, -, -⟩ := loadDecorated_run path native system loader
  rw [settled]
  constructor
  · rintro ⟨text, invalid⟩
    cases attempted : system.attempt loader.pending path.decorate with
    | ok handle => simp [attempted] at invalid
    | error reported =>
        simp only [attempted, Option.ite_none_right_eq_some, Option.some.injEq, Except.error.injEq,
          Error.invalidImage.injEq, Bool.and_eq_true, Bool.not_eq_true', System.pathExists]
          at invalid
        obtain ⟨⟨⟨proper, isThere⟩, foreign⟩, rfl, -⟩ := invalid
        rcases System.attempt_eq_error_iff.mp ⟨reported, attempted⟩ with nul | unopened
        · simp [proper] at nul
        · exact ⟨rfl, ⟨named, decorated, proper, unopened, foreign⟩, isThere⟩
  · rintro ⟨rfl, judges, isThere⟩
    obtain ⟨text, failed⟩ := System.attempt_eq_error_iff.mpr
      (Or.inr judges.unopened : path.decorate.hasNul = true ∨ _)
    refine ⟨text, ?_⟩
    rw [failed]
    simp [System.pathExists, judges.proper, judges.foreign, isThere]

theorem load_invalidImage_iff (searched : mode.contains .searchSystemFolders = true)
    {image : Path} :
    (∃ text, (library.load path mode system loader).1 = .error (.invalidImage image text)) ↔
      image = path.decorate ∧ system.JudgesByFile path mode ∧
        system.fileExists path.decorate = true := by
  have sought : searchPath path mode = path := if_pos searched
  cases named : path.isEmpty with
  | true =>
      constructor
      · rintro ⟨text, invalid⟩
        simp [load, named] at invalid
      · rintro ⟨-, judges, -⟩
        simp [judges.named] at named
  | false =>
      cases decorated : mode.contains .appendDecorations with
      | false =>
          constructor
          · rintro ⟨text, invalid⟩
            rw [library.load_of_plain system loader named decorated] at invalid
            exact absurd invalid (loadPlain_ne_invalidImage _ _ _ _)
          · rintro ⟨-, judges, -⟩
            simp [judges.decorated] at decorated
      | true =>
          rw [library.load_of_decorated system loader named decorated, sought,
            ← loadDecorated_invalidImage_iff (library.unload system loader).2
              (loaderMode mode.normalized) named decorated]
          dsimp only
          split
          · rename_i outcome settled
            simp [settled]
          · rename_i unsettled
            simp [unsettled, loadPlain_ne_invalidImage]

end Searched

/-- When a load searches the system folders for a bare name, the name that is tried first
with decorations is bare as well.  While canonical forms stay the same, it is of no
consequence to the load, its calls and its log which files exist, unless the load is decided
by a file; then it is of consequence only whether there is a file in the current directory
that is called like the decorated name.  The load fails with an invalid image exactly when
this decides it and there is such a file. -/
theorem load_searched (library : SharedLibrary) (path : Path) (mode : LoadMode)
    (system : System) (loader : Loader) (bare : Path.separator ∉ path.bytes)
    (searched : mode.contains .searchSystemFolders = true) :
    let run := library.load path mode system loader
    Path.separator ∉ path.decorate.bytes ∧
      (∀ files, library.load path mode (system.withFiles files) loader = run ↔
        (system.JudgesByFile path mode →
          files path.decorate = system.fileExists path.decorate)) ∧
      ∀ image, (∃ text, run.1 = .error (.invalidImage image text)) ↔
        image = path.decorate ∧ system.JudgesByFile path mode ∧
          system.fileExists path.decorate = true := by
  intro run
  refine ⟨Path.separator_notMem_decorate bare, ?_, fun image => ?_⟩
  · intro files
    refine ⟨?_, library.load_withFiles loader searched⟩
    intro same judges
    have isThere : (∃ text, run.1 = .error (.invalidImage path.decorate text)) ↔
        files path.decorate = true := by
      rw [← same, load_invalidImage_iff _ _ searched, System.judgesByFile_withFiles]
      simp [judges, System.withFiles]
    have wasThere : (∃ text, run.1 = .error (.invalidImage path.decorate text)) ↔
        system.fileExists path.decorate = true := by
      simp [run, load_invalidImage_iff _ _ searched, judges]
    exact Bool.eq_iff_iff.mpr (isThere.symm.trans wasThere)
  · exact library.load_invalidImage_iff loader searched

/-- A system that finds `foo` in its folders, while a file that is called `libfoo.so` is in
the current directory. -/
def namesakeSystem : System :=
  { program := none
    fileExists := fun path => path = .ofString "libfoo.so"
    canonical := fun _ => none
    opening := fun target =>
      if target = some (.ofString "foo") then .ok ⟨0⟩ else .error (some "not found")
    symbol := fun _ _ => .error none
    linkMap := fun _ => .absent
    closing := fun _ => none
    modules := []
    memory := 0 }

/-- The file in the current directory makes an invalid image of the search.  Other files in
it make no difference. -/
theorem load_searched_of_namesake :
    let mode := LoadMode.union .searchSystemFolders .appendDecorations
    let run := openAt (.ofString "foo") mode namesakeSystem {}
    (∃ text, run.1 = .error (.invalidImage (.ofString "libfoo.so") text)) ∧
      openAt (.ofString "foo") mode (namesakeSystem.withFiles fun _ => true) {} = run := by
  intro mode run
  obtain ⟨-, same, invalid⟩ := load_searched unloaded (.ofString "foo") mode namesakeSystem {}
    (by decide) (by decide)
  have decorates : (Path.ofString "foo").decorate = .ofString "libfoo.so" := by decide
  have differ : Path.ofString "libfoo.so" ≠ .ofString "foo" := by decide
  have judges : namesakeSystem.JudgesByFile (.ofString "foo") mode := by
    constructor
    · decide
    · decide
    · decide
    · simp [decorates, namesakeSystem, differ]
    · rfl
  constructor
  · refine (invalid _).mpr ⟨decorates.symm, judges, ?_⟩
    simp [decorates, namesakeSystem]
  · refine (same _).mpr fun _ => ?_
    simp [decorates, namesakeSystem]

/-- A search is judged by the current directory: without the file in it the load succeeds,
after one more call. -/
theorem load_judged_of_namesake :
    ¬∀ (library : SharedLibrary) (path : Path) (mode : LoadMode) (system : System)
        (files : Path → Bool) (loader : Loader),
      Path.separator ∉ path.bytes → mode.contains .searchSystemFolders = true →
      (∀ other : Path, other.isAbsolute = true → files other = system.fileExists other) →
        let run := library.load path mode system loader
        let runWithFiles := library.load path mode (system.withFiles files) loader
        runWithFiles.2.calls = run.2.calls ∧ runWithFiles.1 = run.1 := by
  intro unjudged
  have absolute (other : Path) (isAbsolute : other.isAbsolute = true) :
      false = namesakeSystem.fileExists other := by
    have differ : other ≠ .ofString "libfoo.so" := by
      rintro rfl
      exact absurd isAbsolute (by decide)
    simp [namesakeSystem, differ]
  obtain ⟨calls, -⟩ := unjudged unloaded (.ofString "foo")
    (.union .searchSystemFolders .appendDecorations) namesakeSystem (fun _ => false) {}
    (by decide) (by decide) absolute
  revert calls
  decide +kernel

end SharedLibrary

end SharedObject
