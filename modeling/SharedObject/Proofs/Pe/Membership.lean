import SharedObject.Proofs.Pe.Steady
import SharedObject.Proofs.Scan.Collecting

/-!
# Which names a PE file lists

Every name of the export directory is listed; of a section, the names whose functions
have an address in the span of that section.  More tables are checked for the second
listing, but the names are read from the same one.
-/

namespace SharedObject

namespace Pe

open Scan

variable {source : Source} {cursor : Cursor}

namespace Image

variable (image : Image)

/-- From the cursor, the export directory is read to hold names in a table at `namesAt`,
with their ordinals at `ordinalsAt`. -/
structure Exports (source : Source) (cursor : Cursor) (directory : ExportDirectory)
    (namesAt ordinalsAt : Nat) : Prop where
  declared : image.exportDirectory ≠ 0
  read : outcome image.readExportDirectory source cursor = .ok directory
  named : directory.nameCount.toNat ≠ 0
  names : outcome (image.fileOffset directory.names) source cursor = .ok namesAt
  ordinals : outcome (image.fileOffset directory.ordinals) source cursor = .ok ordinalsAt

theorem stays_fileOffset (address : UInt32) : Stays (image.fileOffset address) := by
  apply (Stays.findM? (fun part => (Stays.sum _ _).bind fun _ => .pure _) _).bind
  intro found
  cases found with
  | none => exact .fail _
  | some part => exact (Stays.difference _ _).bind fun _ => .sum _ _

/-- The name number `index` if its function has an address in the section. -/
def nameInSection (part : Section) (directory : ExportDirectory)
    (namesAt ordinalsAt functionsAt index : Nat) : Scan (Option String) := do
  let address ← functionAddress directory.functionCount.toNat functionsAt ordinalsAt index
  if ← part.contains address then
    return some (← image.exportName namesAt index)
  else
    return none

/-- The names of the tables at `namesAt` and `ordinalsAt`, of one section if one is
given. -/
def listNames (directory : ExportDirectory) (namesAt ordinalsAt : Nat) :
    Option Section → Scan (List String)
  | none => do
      let names ← (List.range directory.nameCount.toNat).mapM (image.exportName namesAt)
      return names.eraseDups
  | some part => do
      let functionsAt ← image.fileOffset directory.functions
      checkRange .exportAddressTable functionsAt (← product directory.functionCount.toNat 4)
      let names ← (List.range directory.nameCount.toNat).filterMapM
        (image.nameInSection part directory namesAt ordinalsAt functionsAt)
      return names.eraseDups

/-- From the cursor, the name number `index` is read to belong to what is asked for: to
the section, if one is given. -/
def Selects (source : Source) (cursor : Cursor) (directory : ExportDirectory)
    (ordinalsAt index : Nat) : Option Section → Prop
  | none => True
  | some part => ∃ functionsAt address,
      outcome (image.fileOffset directory.functions) source cursor = .ok functionsAt ∧
      outcome (functionAddress directory.functionCount.toNat functionsAt ordinalsAt index)
        source cursor = .ok address ∧
      outcome (part.contains address) source cursor = .ok true

theorem outcome_nameInSection {part : Section} {directory : ExportDirectory} {functionsAt : Nat}
    (located : outcome (image.fileOffset directory.functions) source cursor = .ok functionsAt)
    (namesAt ordinalsAt index : Nat) (name : String) :
    outcome (image.nameInSection part directory namesAt ordinalsAt functionsAt index)
        source cursor = .ok (some name) ↔
      image.Selects source cursor directory ordinalsAt index (some part) ∧
        outcome (image.exportName namesAt index) source cursor = .ok name := by
  have named := image.steady_exportName namesAt index
  have lookedUp :=
    steady_functionAddress directory.functionCount.toNat functionsAt ordinalsAt index
  have compared := steady_contains part
  have rest (address : UInt32) : Steady (do
      if ← part.contains address then
        return some (← image.exportName namesAt index)
      else
        return none) :=
    (compared address).bind fun inside => steady_select named
  constructor
  · intro given
    obtain ⟨address, found, given⟩ := outcome_bind_ok given lookedUp rest
    obtain ⟨inside, covered, given⟩ :=
      outcome_bind_ok given (compared address) fun inside => steady_select named
    obtain ⟨rfl, answered⟩ := (outcome_select name).mp given
    exact ⟨⟨functionsAt, address, located, found, covered⟩, answered⟩
  · rintro ⟨⟨functionsAt, address, alsoLocated, found, covered⟩, answered⟩
    cases located.symm.trans alsoLocated
    rw [nameInSection, outcome_bind_of_steady found lookedUp (rest address),
      outcome_bind_of_steady covered (compared address) (steady_select named)]
    exact (outcome_select name).mpr ⟨rfl, answered⟩

theorem steady_nameInSection (part : Section) (directory : ExportDirectory)
    (namesAt ordinalsAt functionsAt index : Nat) :
    Steady (image.nameInSection part directory namesAt ordinalsAt functionsAt index) := by
  apply (steady_functionAddress _ _ _ index).bind
  intro address
  exact (steady_contains part address).bind fun inside =>
    steady_select (image.steady_exportName namesAt index)

theorem steady_listNames (directory : ExportDirectory) (namesAt ordinalsAt : Nat)
    (part : Option Section) : Steady (image.listNames directory namesAt ordinalsAt part) := by
  cases part with
  | none => exact (Steady.mapM (image.steady_exportName namesAt) _).bind fun _ => .pure _
  | some part =>
      apply (image.steady_fileOffset _).bind
      intro functionsAt
      apply (Steady.product _ _).bind
      intro functionsExtent
      apply (Steady.checkRange _ _ _).bind
      intro _
      exact (Steady.filterMapM (image.steady_nameInSection part directory namesAt ordinalsAt
        functionsAt) _).bind fun _ => .pure _

/-- What is listed has been collected at the indices that are asked for, before repeated
names were dropped. -/
theorem outcome_listNames {directory : ExportDirectory} {namesAt ordinalsAt : Nat}
    {part : Option Section} {names : List String}
    (given : outcome (image.listNames directory namesAt ordinalsAt part) source cursor =
      .ok names) :
    ∃ collected : List String, collected.eraseDups = names ∧
      ∀ name, name ∈ collected ↔ ∃ index < directory.nameCount.toNat,
        image.Selects source cursor directory ordinalsAt index part ∧
        outcome (image.exportName namesAt index) source cursor = .ok name := by
  cases part with
  | none =>
      have each := image.steady_exportName namesAt
      obtain ⟨collected, listed, same⟩ :=
        outcome_bind_ok given (.mapM each _) fun _ => .pure _
      refine ⟨collected, outcome_pure.mp same, fun name => ?_⟩
      rw [mem_mapM each listed]
      simp only [List.mem_range, Selects, true_and]
  | some part =>
      obtain ⟨functionsAt, located, given⟩ := (image.stays_fileOffset _).outcome_bind_ok given
      obtain ⟨extent, _, given⟩ := (Stays.product _ _).outcome_bind_ok given
      obtain ⟨checked, _, given⟩ := (Stays.checkRange _ _ _).outcome_bind_ok given
      have each := image.steady_nameInSection part directory namesAt ordinalsAt functionsAt
      obtain ⟨collected, listed, same⟩ :=
        outcome_bind_ok given (.filterMapM each _) fun _ => .pure _
      refine ⟨collected, outcome_pure.mp same, fun name => ?_⟩
      rw [mem_filterMapM each listed]
      simp only [List.mem_range, image.outcome_nameInSection located]

/-- Listing names reads the directory and the places of its tables, or finds that there
are no names. -/
theorem exportedNames_cases {part : Option Section} {names : List String}
    (given : outcome (image.exportedNames part) source cursor = .ok names) :
    (names = [] ∧ ∀ directory namesAt ordinalsAt,
      ¬image.Exports source cursor directory namesAt ordinalsAt) ∨
    ∃ directory namesAt ordinalsAt, image.Exports source cursor directory namesAt ordinalsAt ∧
      outcome (image.listNames directory namesAt ordinalsAt part) source cursor = .ok names := by
  unfold exportedNames at given
  by_cases undeclared : image.exportDirectory = 0
  · rw [if_pos undeclared] at given
    have nothing := (outcome_pure.mp given).symm
    exact .inl ⟨nothing, fun _ _ _ exports => exports.declared undeclared⟩
  rw [if_neg undeclared] at given
  obtain ⟨directory, moved, read, sameOrder, given⟩ :=
    image.steady_readExportDirectory.keeps.outcome_bind_ok given
  by_cases unnamed : directory.nameCount.toNat = 0
  · simp only [if_pos unnamed] at given
    have nothing := (outcome_pure.mp given).symm
    refine .inl ⟨nothing, fun other _ _ exports => ?_⟩
    cases read.symm.trans exports.read
    exact exports.named unnamed
  simp only [if_neg unnamed] at given
  obtain ⟨namesAt, located, given⟩ := (image.stays_fileOffset _).outcome_bind_ok given
  obtain ⟨ordinalsAt, alsoLocated, given⟩ := (image.stays_fileOffset _).outcome_bind_ok given
  obtain ⟨namesExtent, _, given⟩ := (Stays.product _ _).outcome_bind_ok given
  obtain ⟨namesChecked, _, given⟩ := (Stays.checkRange _ _ _).outcome_bind_ok given
  obtain ⟨ordinalsExtent, _, given⟩ := (Stays.product _ _).outcome_bind_ok given
  obtain ⟨ordinalsChecked, _, given⟩ := (Stays.checkRange _ _ _).outcome_bind_ok given
  have listed : outcome (image.listNames directory namesAt ordinalsAt part) source moved =
      .ok names := by
    cases part with
    | none => exact given
    | some part => exact given
  have atCursor {α : Type} {scan : Scan α} (steady : Steady scan) :=
    steady.settled source cursor moved sameOrder.symm
  have exports : image.Exports source cursor directory namesAt ordinalsAt :=
    { declared := undeclared
      read
      named := unnamed
      names := (atCursor (image.steady_fileOffset _)).trans located
      ordinals := (atCursor (image.steady_fileOffset _)).trans alsoLocated }
  have steady := image.steady_listNames directory namesAt ordinalsAt part
  exact .inr ⟨directory, namesAt, ordinalsAt, exports, (atCursor steady).trans listed⟩

/-- The names listed are those that the tables of the export directory hold and that
belong to what is asked for. -/
theorem mem_exportedNames {part : Option Section} {names : List String}
    (given : outcome (image.exportedNames part) source cursor = .ok names) (name : String) :
    name ∈ names ↔ ∃ directory namesAt ordinalsAt,
      image.Exports source cursor directory namesAt ordinalsAt ∧
      ∃ index < directory.nameCount.toNat,
        image.Selects source cursor directory ordinalsAt index part ∧
        outcome (image.exportName namesAt index) source cursor = .ok name := by
  rcases image.exportedNames_cases given with
    ⟨rfl, nothing⟩ | ⟨directory, namesAt, ordinalsAt, exports, listed⟩
  · constructor
    · intro member
      cases member
    · rintro ⟨directory, namesAt, ordinalsAt, exports, _⟩
      exact absurd exports (nothing _ _ _)
  · obtain ⟨collected, rfl, members⟩ := image.outcome_listNames listed
    rw [List.mem_eraseDups, members]
    constructor
    · exact fun found => ⟨directory, namesAt, ordinalsAt, exports, found⟩
    · rintro ⟨other, otherNames, otherOrdinals, alsoExports, found⟩
      cases exports.read.symm.trans alsoExports.read
      cases exports.names.symm.trans alsoExports.names
      cases exports.ordinals.symm.trans alsoExports.ordinals
      exact found

theorem nodup_exportedNames {part : Option Section} {names : List String}
    (given : outcome (image.exportedNames part) source cursor = .ok names) : names.Nodup := by
  rcases image.exportedNames_cases given with ⟨rfl, _⟩ | ⟨_, _, _, _, listed⟩
  · exact List.nodup_nil
  · obtain ⟨collected, rfl, _⟩ := image.outcome_listNames listed
    exact List.nodup_eraseDups collected

/-- Whatever is asked for, it is listed as some of the symbols of the file. -/
theorem exportedNames_subset {part : Option Section} {listed names : List String}
    (all : outcome image.symbols source cursor = .ok listed)
    (given : outcome (image.exportedNames part) source cursor = .ok names) : names ⊆ listed := by
  intro name member
  obtain ⟨directory, namesAt, ordinalsAt, exports, index, inTable, _, named⟩ :=
    (image.mem_exportedNames given name).mp member
  exact (image.mem_exportedNames all name).mpr
    ⟨directory, namesAt, ordinalsAt, exports, index, inTable, trivial, named⟩

/-- The symbols of a section are none, or some of the exported ones. -/
theorem sectionSymbols_cases {name : String} {names : List String}
    (given : outcome (image.sectionSymbols name) source cursor = .ok names) :
    names = [] ∨ ∃ part, outcome (image.exportedNames part) source cursor = .ok names := by
  unfold sectionSymbols at given
  split at given
  · exact .inl (outcome_pure.mp given).symm
  · exact .inr ⟨_, given⟩

/-- A name that no section has is the name of a section without symbols. -/
theorem sectionSymbols_of_absent {name : String}
    (absent : name ∉ image.sections.map (·.name)) :
    outcome (image.sectionSymbols name) source cursor = .ok [] := by
  have missing : image.sections.find? (·.name == name) = none := by
    simpa using absent
  rw [sectionSymbols, missing]
  rfl

/-- A name of the export directory stands for a function whose address lies in the span of
the section at a position. -/
def DefinesAt (source : Source) (cursor : Cursor) (position : Nat) (name : String) : Prop :=
  ∃ part, image.sections[position]? = some part ∧ ∃ directory namesAt ordinalsAt,
    image.Exports source cursor directory namesAt ordinalsAt ∧
    ∃ index < directory.nameCount.toNat,
      image.Selects source cursor directory ordinalsAt index (some part) ∧
      outcome (image.exportName namesAt index) source cursor = .ok name

/-- The symbols of a section are those that the first section of its name defines. -/
theorem mem_sectionSymbols {name : String} {names : List String} {position : Nat}
    (first : (image.sections.map (·.name)).idxOf? name = some position)
    (given : outcome (image.sectionSymbols name) source cursor = .ok names) (symbol : String) :
    symbol ∈ names ↔ image.DefinesAt source cursor position symbol := by
  have found : image.sections.findIdx? (·.name == name) = some position := by
    rw [List.idxOf?, List.findIdx?_map] at first
    exact first
  rw [sectionSymbols, List.find?_eq_bind_findIdx?_getElem?, found, Option.bind_some] at given
  obtain ⟨inside, _⟩ := List.findIdx?_eq_some_iff_getElem.mp found
  rw [List.getElem?_eq_getElem inside] at given
  rw [image.mem_exportedNames given symbol, DefinesAt, List.getElem?_eq_getElem inside]
  simp only [Option.some.injEq, exists_eq_left']

end Image

end Pe

end SharedObject
