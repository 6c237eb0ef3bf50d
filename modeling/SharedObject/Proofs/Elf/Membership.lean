import SharedObject.Proofs.Elf.Steady
import SharedObject.Proofs.Scan.Collecting

/-!
# Which names an ELF file lists

A name is listed when some exported symbol that is asked for has it in one of the
symbol tables.  Listing the symbols of a section reads the section names up to the one
it looks for, and nothing else when there is none of that name.
-/

namespace SharedObject

namespace Elf

open Scan

variable {source : Source} {cursor : Cursor}

namespace Image

variable (image : Image)

/-- From the cursor, a symbol table is read to have an exported symbol, and the symbol
to have the name. -/
def Declares (source : Source) (cursor : Cursor) (table : SectionHeader) (symbol : Symbol)
    (name : String) : Prop :=
  ∃ strings symbols, image.headers[table.link.toNat]? = some strings ∧
    outcome (image.readSymbols table) source cursor = .ok symbols ∧ symbol ∈ symbols ∧
    symbol.isExported = true ∧ outcome (nameIn strings symbol.name) source cursor = .ok name

/-- A table is listed by its string table, its entries and their names. -/
theorem outcome_namesOfTable {keep : Symbol → Bool} {table : SectionHeader}
    {names : List String}
    (given : outcome (image.namesOfTable keep table) source cursor = .ok names) :
    ∃ strings symbols collected, image.headers[table.link.toNat]? = some strings ∧
      outcome (image.readSymbols table) source cursor = .ok symbols ∧
      outcome ((symbols.filter fun symbol => symbol.isExported && keep symbol).mapM
        fun symbol => nameIn strings symbol.name) source cursor = .ok collected ∧
      collected.filter (!·.isEmpty) = names := by
  unfold namesOfTable at given
  split at given
  · cases given
  · rename_i strings linked
    have each (symbol : Symbol) := steady_nameIn strings symbol.name
    obtain ⟨checked, _, given⟩ := (Stays.checkRange _ _ _).outcome_bind_ok given
    obtain ⟨symbols, read, given⟩ :=
      outcome_bind_ok given (image.steady_readSymbols table) fun symbols =>
        (Steady.mapM each _).bind fun _ => .pure _
    obtain ⟨collected, named, given⟩ :=
      outcome_bind_ok given (Steady.mapM each _) fun _ => .pure _
    exact ⟨strings, symbols, collected, linked, read, named, outcome_pure.mp given⟩

theorem mem_namesOfTable {keep : Symbol → Bool} {table : SectionHeader} {names : List String}
    (given : outcome (image.namesOfTable keep table) source cursor = .ok names) (name : String) :
    name ∈ names ↔ name.isEmpty = false ∧
      ∃ symbol, keep symbol = true ∧ image.Declares source cursor table symbol name := by
  obtain ⟨strings, symbols, collected, linked, read, named, rfl⟩ :=
    image.outcome_namesOfTable given
  have each (symbol : Symbol) := steady_nameIn strings symbol.name
  have selected := mem_mapM each named name
  rw [List.mem_filter, selected]
  constructor
  · rintro ⟨⟨symbol, among, answered⟩, nonempty⟩
    obtain ⟨member, wanted⟩ := List.mem_filter.mp among
    obtain ⟨exported, kept⟩ := Bool.and_eq_true_iff.mp wanted
    exact ⟨by simpa using nonempty, symbol, kept, strings, symbols, linked, read, member,
      exported, answered⟩
  · rintro ⟨nonempty, symbol, kept, others, entries, alsoLinked, alsoRead, member, exported,
      answered⟩
    cases linked.symm.trans alsoLinked
    cases read.symm.trans alsoRead
    have wanted : (symbol.isExported && keep symbol) = true := by rw [exported, kept, Bool.and_self]
    exact ⟨⟨symbol, List.mem_filter.mpr ⟨member, wanted⟩, answered⟩, by simp [nonempty]⟩

/-- The names listed are those, the empty name left out, of the exported symbols that
are asked for. -/
theorem mem_exportedNames {keep : Symbol → Bool} {names : List String}
    (given : outcome (image.exportedNames keep) source cursor = .ok names) (name : String) :
    name ∈ names ↔ name.isEmpty = false ∧
      ∃ table ∈ image.headers.toList, table.isSymbolTable = true ∧
        ∃ symbol, keep symbol = true ∧ image.Declares source cursor table symbol name := by
  obtain ⟨lists, traversed, same⟩ :=
    outcome_bind_ok given (.mapM (image.steady_namesOfTable keep) _) fun _ => .pure _
  obtain rfl := outcome_pure.mp same
  have collected := mem_mapM (image.steady_namesOfTable keep) traversed
  rw [List.mem_eraseDups, List.mem_flatten]
  constructor
  · rintro ⟨listed, among, member⟩
    obtain ⟨table, isTable, answered⟩ := (collected listed).mp among
    obtain ⟨nonempty, declared⟩ := (image.mem_namesOfTable answered name).mp member
    obtain ⟨isHeader, isSymbolTable⟩ := List.mem_filter.mp isTable
    exact ⟨nonempty, table, isHeader, isSymbolTable, declared⟩
  · rintro ⟨nonempty, table, isHeader, isSymbolTable, declared⟩
    have isTable := List.mem_filter.mpr ⟨isHeader, isSymbolTable⟩
    obtain ⟨listed, among, answered⟩ :=
      answer_of_mapM (image.steady_namesOfTable keep) traversed isTable
    exact ⟨listed, among, (image.mem_namesOfTable answered name).mpr ⟨nonempty, declared⟩⟩

theorem nodup_exportedNames {keep : Symbol → Bool} {names : List String}
    (given : outcome (image.exportedNames keep) source cursor = .ok names) : names.Nodup := by
  obtain ⟨lists, _, same⟩ :=
    outcome_bind_ok given (.mapM (image.steady_namesOfTable keep) _) fun _ => .pure _
  obtain rfl := outcome_pure.mp same
  exact List.nodup_eraseDups _

/-- Whatever is asked for, it is listed as some of the symbols of the file. -/
theorem exportedNames_subset {keep : Symbol → Bool} {listed part : List String}
    (all : outcome image.symbols source cursor = .ok listed)
    (given : outcome (image.exportedNames keep) source cursor = .ok part) : part ⊆ listed := by
  intro name member
  obtain ⟨nonempty, table, isHeader, isSymbolTable, symbol, _, declared⟩ :=
    (image.mem_exportedNames given name).mp member
  exact (image.mem_exportedNames all name).mpr
    ⟨nonempty, table, isHeader, isSymbolTable, symbol, rfl, declared⟩

/-- Where every section name can be read, the section found is the first of the name. -/
theorem outcome_indexOfSection (name : String) (index : Nat) {headers : List SectionHeader}
    {names : List String}
    (listed : outcome (headers.mapM image.sectionName) source cursor = .ok names) :
    outcome (image.indexOfSection name index headers) source cursor =
      .ok ((names.idxOf? name).map (index + ·)) := by
  have paired := outcome_mapM image.steady_sectionName listed
  clear listed
  induction paired generalizing index with
  | nil => rfl
  | @cons header other headers names read others ih =>
      have named := image.steady_sectionName header
      rw [List.idxOf?_cons, indexOfSection]
      by_cases same : other = name
      · rw [outcome_bind_of_steady read named (by rw [if_pos same]; exact .pure _), if_pos same]
        simpa [same] using outcome_pure.mpr rfl
      · have further := image.steady_indexOfSection name (index + 1) headers
        rw [outcome_bind_of_steady read named (by rw [if_neg same]; exact further), if_neg same, ih]
        simp [same, Function.comp_def, Nat.add_assoc, Nat.add_comm 1]

theorem outcome_sectionSymbols {name : String} {names : List String}
    (listed : outcome image.sections source cursor = .ok names) :
    outcome (image.sectionSymbols name) source cursor =
      match names.idxOf? name with
      | none => .ok []
      | some position =>
          outcome (image.exportedNames (·.sectionIndex.toNat == position)) source cursor := by
  have found := image.outcome_indexOfSection name 0 listed
  have steady := image.steady_indexOfSection name 0 image.headers.toList
  simp only [Nat.zero_add, Option.map_id_fun', id_eq] at found
  rw [sectionSymbols, outcome_bind_of_steady found steady]
  · cases names.idxOf? name <;> rfl
  · cases names.idxOf? name with
    | none => exact .pure _
    | some position => exact image.steady_exportedNames _

/-- A name that no section has is the name of a section without symbols. -/
theorem sectionSymbols_of_absent {name : String} {names : List String}
    (listed : outcome image.sections source cursor = .ok names) (absent : name ∉ names) :
    outcome (image.sectionSymbols name) source cursor = .ok [] := by
  rw [image.outcome_sectionSymbols listed, List.idxOf?_eq_none_iff.mpr absent]

/-- The symbols of a section are none, or some of the exported ones. -/
theorem sectionSymbols_cases {name : String} {part : List String}
    (given : outcome (image.sectionSymbols name) source cursor = .ok part) :
    part = [] ∨ ∃ keep, outcome (image.exportedNames keep) source cursor = .ok part := by
  obtain ⟨found, _, given⟩ :=
    outcome_bind_ok given (image.steady_indexOfSection name 0 _) fun found => by
      cases found with
      | none => exact .pure _
      | some index => exact image.steady_exportedNames _
  cases found with
  | none => exact .inl (outcome_pure.mp given).symm
  | some index => exact .inr ⟨_, given⟩

/-- An exported symbol that the section at a position defines has the name, which is not
empty. -/
def DefinesAt (source : Source) (cursor : Cursor) (position : Nat) (name : String) : Prop :=
  name.isEmpty = false ∧ ∃ table ∈ image.headers.toList, table.isSymbolTable = true ∧
    ∃ symbol, symbol.sectionIndex.toNat = position ∧
      image.Declares source cursor table symbol name

/-- The symbols of a section are those that the first section of its name defines. -/
theorem mem_sectionSymbols {name : String} {names part : List String} {position : Nat}
    (listed : outcome image.sections source cursor = .ok names)
    (first : names.idxOf? name = some position)
    (given : outcome (image.sectionSymbols name) source cursor = .ok part) (symbol : String) :
    symbol ∈ part ↔ image.DefinesAt source cursor position symbol := by
  rw [image.outcome_sectionSymbols listed, first] at given
  simpa [DefinesAt] using image.mem_exportedNames given symbol

end Image

end Elf

end SharedObject
