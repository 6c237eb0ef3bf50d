import SharedObject.Proofs.Elf.Membership

/-!
# Reserved section indices

From 0xFF00 on, the section index of a symbol names no section: the symbol is absolute or
common, or its section is said elsewhere.  The number of a section header has no such limit.
The listing of a section compares the two, so that what is listed for a section depends on
which number its header has.
-/

namespace SharedObject

namespace Elf

open Scan

/-- The first of the section indices that name no section. -/
def reservedIndices : Nat := 0xFF00

/-- The section index of the symbol names no section. -/
def Symbol.IsReserved (symbol : Symbol) : Prop :=
  reservedIndices ≤ symbol.sectionIndex.toNat

namespace Image

variable (image : Image) {source : Source} {cursor : Cursor}

/-- From the cursor, the header at a position is read to be the first of a name: the names
of those before it are read to be others. -/
structure FirstIn (source : Source) (cursor : Cursor) (name : String)
    (headers : List SectionHeader) (position : Nat) : Prop where
  named : ∃ header, headers[position]? = some header ∧
    outcome (image.sectionName header) source cursor = .ok name
  earlier : ∀ before < position, ∃ header other, headers[before]? = some header ∧
    outcome (image.sectionName header) source cursor = .ok other ∧ other ≠ name

variable {image}

namespace FirstIn

variable {name other : String} {header : SectionHeader} {headers : List SectionHeader}
  {position : Nat}

theorem lt (first : image.FirstIn source cursor name headers position) :
    position < headers.length := by
  obtain ⟨header, found, _⟩ := first.named
  exact (List.getElem?_eq_some_iff.mp found).1

theorem unique {second : Nat} (first : image.FirstIn source cursor name headers position)
    (also : image.FirstIn source cursor name headers second) : position = second := by
  have notBefore {early late : Nat} (isEarly : image.FirstIn source cursor name headers early)
      (isLate : image.FirstIn source cursor name headers late) : ¬early < late := by
    intro before
    obtain ⟨header, found, named⟩ := isEarly.named
    obtain ⟨_, other, alsoFound, alsoNamed, differs⟩ := isLate.earlier early before
    cases found.symm.trans alsoFound
    cases named.symm.trans alsoNamed
    exact differs rfl
  have forwards := notBefore first also
  have backwards := notBefore also first
  omega

theorem cons_of_eq (read : outcome (image.sectionName header) source cursor = .ok name) :
    image.FirstIn source cursor name (header :: headers) position ↔ position = 0 := by
  have first : image.FirstIn source cursor name (header :: headers) 0 :=
    ⟨⟨header, rfl, read⟩, by simp⟩
  constructor
  · exact fun also => also.unique first
  · rintro rfl
    exact first

theorem cons_of_ne (read : outcome (image.sectionName header) source cursor = .ok other)
    (differs : other ≠ name) :
    image.FirstIn source cursor name (header :: headers) position ↔
      ∃ further, position = further + 1 ∧ image.FirstIn source cursor name headers further := by
  constructor
  · rintro ⟨⟨found, here, named⟩, earlier⟩
    cases position with
    | zero =>
        cases here
        cases named.symm.trans read
        exact absurd rfl differs
    | succ further =>
        refine ⟨further, rfl, ⟨found, here, named⟩, ?_⟩
        intro before isBefore
        exact earlier (before + 1) (by omega)
  · rintro ⟨further, rfl, named, earlier⟩
    refine ⟨named, ?_⟩
    intro before isBefore
    cases before with
    | zero => exact ⟨header, other, rfl, read, differs⟩
    | succ before => exact earlier before (by omega)

end FirstIn

/-- A search for a section that answers has found the first one of the name, or has read
that there is none. -/
theorem firstIn_of_indexOfSection {name : String} {index : Nat} {headers : List SectionHeader}
    {found : Option Nat}
    (given : outcome (image.indexOfSection name index headers) source cursor = .ok found) :
    (found = none ∧ ∀ position, ¬image.FirstIn source cursor name headers position) ∨
      ∃ position, found = some (index + position) ∧
        image.FirstIn source cursor name headers position := by
  induction headers generalizing index with
  | nil =>
      obtain rfl := outcome_pure.mp given
      exact .inl ⟨rfl, fun position first => Nat.not_lt_zero position first.lt⟩
  | cons header headers ih =>
      obtain ⟨other, read, given⟩ :=
        outcome_bind_ok given (image.steady_sectionName header) fun other => by
          split
          · exact .pure _
          · exact image.steady_indexOfSection name (index + 1) headers
      by_cases same : other = name
      · rw [if_pos same] at given
        obtain rfl := outcome_pure.mp given
        exact .inr ⟨0, rfl, (FirstIn.cons_of_eq (same ▸ read)).mpr rfl⟩
      · rw [if_neg same] at given
        have unlike {position : Nat} :
            image.FirstIn source cursor name (header :: headers) position ↔ _ :=
          FirstIn.cons_of_ne read same
        rcases ih given with ⟨rfl, absent⟩ | ⟨position, rfl, first⟩
        · refine .inl ⟨rfl, fun position first => ?_⟩
          obtain ⟨further, _, later⟩ := unlike.mp first
          exact absent further later
        · refine .inr ⟨position + 1, ?_, unlike.mpr ⟨position, rfl, first⟩⟩
          rw [Nat.add_assoc, Nat.add_comm 1]

/-- The symbols listed for a name are those whose section index is the number of the first
section header of this name. -/
theorem mem_sectionSymbols_iff {name : String} {part : List String}
    (given : outcome (image.sectionSymbols name) source cursor = .ok part) (listed : String) :
    listed ∈ part ↔ ∃ position,
      image.FirstIn source cursor name image.headers.toList position ∧
        image.DefinesAt source cursor position listed := by
  obtain ⟨found, searched, given⟩ :=
    outcome_bind_ok given (image.steady_indexOfSection name 0 _) fun found => by
      cases found with
      | none => exact .pure _
      | some index => exact image.steady_exportedNames _
  rcases firstIn_of_indexOfSection searched with ⟨rfl, absent⟩ | ⟨position, rfl, first⟩
  · obtain rfl := outcome_pure.mp given
    simp [absent]
  · have defined : listed ∈ part ↔ image.DefinesAt source cursor position listed := by
      simpa [DefinesAt] using image.mem_exportedNames given listed
    rw [defined]
    constructor
    · exact fun defines => ⟨position, first, defines⟩
    · rintro ⟨other, also, defines⟩
      exact first.unique also ▸ defines

/-- From the cursor, a symbol of some kind is read to be exported by the name, which is not
empty. -/
def Exports (image : Image) (source : Source) (cursor : Cursor) (wanted : Symbol → Prop)
    (name : String) : Prop :=
  name.isEmpty = false ∧ ∃ table ∈ image.headers.toList, table.isSymbolTable = true ∧
    ∃ symbol, wanted symbol ∧ image.Declares source cursor table symbol name

theorem Exports.mono {wanted wider : Symbol → Prop} {name : String}
    (exports : image.Exports source cursor wanted name)
    (weaken : ∀ symbol, wanted symbol → wider symbol) : image.Exports source cursor wider name := by
  obtain ⟨nonempty, table, member, isTable, symbol, isWanted, declares⟩ := exports
  exact ⟨nonempty, table, member, isTable, symbol, weaken symbol isWanted, declares⟩

theorem DefinesAt.exports {position : Nat} {name : String}
    (defines : image.DefinesAt source cursor position name) :
    image.Exports source cursor (·.sectionIndex.toNat = position) name :=
  defines

/-- No section header is reached by the index of a symbol from 0x10000 on. -/
theorem DefinesAt.lt {position : Nat} {name : String}
    (defines : image.DefinesAt source cursor position name) : position < 0x10000 := by
  obtain ⟨_, _, _, _, symbol, rfl, _⟩ := defines
  exact symbol.sectionIndex.toNat_lt

end Image

end Elf

end SharedObject
