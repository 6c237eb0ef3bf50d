import SharedObject.Proofs.MachO.Steady
import SharedObject.Proofs.Scan.Collecting

/-!
# Which names a Mach-O file lists

A name is listed when some exported entry of the symbol table that is asked for has it.
The names of the sections were read when the file was opened: a name that is not among
them is the name of a section without symbols.
-/

namespace SharedObject

namespace MachO

open Scan

variable {source : Source} {cursor : Cursor}

/-- The entry number `index` of a symbol table. -/
def readEntry (width : Width) (table : SymbolTable) (index : Nat) : Scan Symbol := do
  seek (← entryOffset table.symbols.toNat index (symbolSize width))
  readSymbol

theorem steady_readEntry (width : Width) (table : SymbolTable) (index : Nat) :
    Steady (readEntry width table index) :=
  .entry _ _ _ keepsOrder_readSymbol

namespace Image

/-- From the cursor, an entry of the symbol table is read to be exported and to have the
name. -/
def Declares (width : Width) (table : SymbolTable) (stringsEnd : Nat) (source : Source)
    (cursor : Cursor) (index : Nat) (symbol : Symbol) (name : String) : Prop :=
  outcome (readEntry width table index) source cursor = .ok symbol ∧
    symbol.isExported = true ∧
    outcome (symbolName table.strings.toNat stringsEnd symbol) source cursor = .ok name

theorem outcome_listedName (width : Width) (table : SymbolTable) (stringsEnd : Nat)
    (keep : Symbol → Bool) (index : Nat) (name : String) :
    outcome (listedName width table stringsEnd keep index) source cursor = .ok (some name) ↔
      ∃ symbol, keep symbol = true ∧
        Declares width table stringsEnd source cursor index symbol name := by
  have entry := steady_readEntry width table index
  have named (symbol : Symbol) := steady_symbolName table.strings.toNat stringsEnd symbol
  have parts : listedName width table stringsEnd keep index = do
      let symbol ← readEntry width table index
      if symbol.isExported && keep symbol then
        return some (← symbolName table.strings.toNat stringsEnd symbol)
      else
        return none := by
    simp only [listedName, readEntry, bind_assoc]
  rw [parts]
  constructor
  · intro given
    obtain ⟨symbol, read, given⟩ :=
      outcome_bind_ok given entry fun symbol => steady_select (named symbol)
    obtain ⟨wanted, answered⟩ := (outcome_select name).mp given
    obtain ⟨exported, kept⟩ := Bool.and_eq_true_iff.mp wanted
    exact ⟨symbol, kept, read, exported, answered⟩
  · rintro ⟨symbol, kept, read, exported, answered⟩
    rw [outcome_bind_of_steady read entry (steady_select (named symbol)), outcome_select]
    exact ⟨by rw [exported, kept, Bool.and_self], answered⟩

variable (image : Image)

/-- The names of the symbol table, if there is one, are listed without the empty name and
each once. -/
theorem outcome_exportedNames {keep : Symbol → Bool} {names : List String}
    (given : outcome (image.exportedNames keep) source cursor = .ok names)
    {table : SymbolTable} (declared : image.contents.symbolTable = some table) :
    ∃ collected,
      outcome ((List.range table.count.toNat).filterMapM
        (listedName image.width table (table.strings.toNat + table.stringsSize.toNat) keep))
        source cursor = .ok collected ∧
      (collected.filter (!·.isEmpty)).eraseDups = names := by
  have each (stringsEnd : Nat) := steady_listedName image.width table stringsEnd keep
  simp only [exportedNames, declared] at given
  obtain ⟨extent, _, given⟩ := (Stays.product _ _).outcome_bind_ok given
  obtain ⟨symbolsChecked, _, given⟩ := (Stays.checkRange _ _ _).outcome_bind_ok given
  obtain ⟨stringsChecked, _, given⟩ := (Stays.checkRange _ _ _).outcome_bind_ok given
  obtain ⟨stringsEnd, summed, given⟩ := (Stays.sum _ _).outcome_bind_ok given
  obtain rfl := outcome_sum summed
  obtain ⟨collected, listed, given⟩ :=
    outcome_bind_ok given (.filterMapM (each _) _) fun _ => .pure _
  exact ⟨collected, listed, outcome_pure.mp given⟩

/-- Without a symbol table nothing is listed; otherwise the names listed are those, the
empty name left out, of the entries that are asked for. -/
theorem mem_exportedNames {keep : Symbol → Bool} {names : List String}
    (given : outcome (image.exportedNames keep) source cursor = .ok names) (name : String) :
    name ∈ names ↔ name.isEmpty = false ∧ ∃ table, image.contents.symbolTable = some table ∧
      ∃ index < table.count.toNat, ∃ symbol, keep symbol = true ∧
        Declares image.width table (table.strings.toNat + table.stringsSize.toNat) source cursor
          index symbol name := by
  cases declared : image.contents.symbolTable with
  | none =>
      simp only [exportedNames, declared] at given
      cases outcome_pure.mp given
      simp
  | some table =>
      obtain ⟨collected, listed, rfl⟩ := image.outcome_exportedNames given declared
      have each (index : Nat) := steady_listedName image.width table
        (table.strings.toNat + table.stringsSize.toNat) keep index
      rw [List.mem_eraseDups, List.mem_filter, mem_filterMapM each listed]
      simp only [List.mem_range, outcome_listedName, Option.some.injEq, exists_eq_left']
      simp only [Bool.not_eq_true', and_comm]

theorem nodup_exportedNames {keep : Symbol → Bool} {names : List String}
    (given : outcome (image.exportedNames keep) source cursor = .ok names) : names.Nodup := by
  cases declared : image.contents.symbolTable with
  | none =>
      simp only [exportedNames, declared] at given
      cases outcome_pure.mp given
      exact List.nodup_nil
  | some table =>
      obtain ⟨collected, _, rfl⟩ := image.outcome_exportedNames given declared
      exact List.nodup_eraseDups _

/-- Whatever is asked for, it is listed as some of the symbols of the file. -/
theorem exportedNames_subset {keep : Symbol → Bool} {listed part : List String}
    (all : outcome image.symbols source cursor = .ok listed)
    (given : outcome (image.exportedNames keep) source cursor = .ok part) : part ⊆ listed := by
  intro name member
  obtain ⟨nonempty, table, declared, index, inTable, symbol, _, entry⟩ :=
    (image.mem_exportedNames given name).mp member
  exact (image.mem_exportedNames all name).mpr
    ⟨nonempty, table, declared, index, inTable, symbol, rfl, entry⟩

/-- The symbols of a section are none, or some of the exported ones. -/
theorem sectionSymbols_cases {name : String} {part : List String}
    (given : outcome (image.sectionSymbols name) source cursor = .ok part) :
    part = [] ∨ ∃ keep, outcome (image.exportedNames keep) source cursor = .ok part := by
  unfold sectionSymbols at given
  split at given
  · exact .inl (outcome_pure.mp given).symm
  · obtain ⟨number, _, given⟩ := (Stays.sum _ _).outcome_bind_ok given
    exact .inr ⟨_, given⟩

/-- A name that no section has is the name of a section without symbols. -/
theorem sectionSymbols_of_absent {name : String} (absent : name ∉ image.contents.sections) :
    outcome (image.sectionSymbols name) source cursor = .ok [] := by
  rw [sectionSymbols, List.idxOf?_eq_none_iff.mpr absent]
  rfl

/-- An exported entry of the symbol table that is defined in the section at a position has
the name, which is not empty.  Entries count sections from 1. -/
def DefinesAt (source : Source) (cursor : Cursor) (position : Nat) (name : String) : Prop :=
  name.isEmpty = false ∧ ∃ table, image.contents.symbolTable = some table ∧
    ∃ index < table.count.toNat, ∃ symbol, symbol.sectionNumber.toNat = position + 1 ∧
      Declares image.width table (table.strings.toNat + table.stringsSize.toNat) source cursor
        index symbol name

/-- The symbols of a section are those that the first section of its name defines. -/
theorem mem_sectionSymbols {name : String} {part : List String} {position : Nat}
    (first : image.contents.sections.idxOf? name = some position)
    (given : outcome (image.sectionSymbols name) source cursor = .ok part) (symbol : String) :
    symbol ∈ part ↔ image.DefinesAt source cursor position symbol := by
  rw [sectionSymbols, first] at given
  obtain ⟨number, summed, given⟩ := (Stays.sum _ _).outcome_bind_ok given
  obtain rfl := outcome_sum summed
  simpa [DefinesAt] using image.mem_exportedNames given symbol

end Image

end MachO

end SharedObject
