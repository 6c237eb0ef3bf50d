import SharedObject.MachO.Header
import SharedObject.Proofs.Scan.Agreement

/-!
# What the headers of a Mach-O file are read from

The header says where the area of the load commands ends.  Segment commands are checked to
have room for all that is read of them, but symbol table commands are not: the fields of one
that is too small lie behind it, and may lie behind the area.  Where every symbol table
command has room for its fields, nothing behind the area is read; at most 16 bytes are in
any case.
-/

namespace SharedObject

namespace MachO

open Scan

/-- The byte order of a file by its first four bytes. -/
def orderIn (source : Source) : ByteOrder :=
  orderOf (source.number32 .little 0)

/-- How many load commands the header counts. -/
def commandCountIn (source : Source) : UInt32 :=
  source.number32 (orderIn source) 16

/-- Where the area of the load commands ends, by the header. -/
def commandsEndIn (width : Width) (source : Source) : Nat :=
  headerSize width + (source.number32 (orderIn source) 20).toNat

/-- Among `count` load commands from `offset` on, as far as they are in the area, every
symbol table command has room for its four fields. -/
def TablesFit (source : Source) (order : ByteOrder) (commandsEnd : Nat) :
    (count offset : Nat) → Prop
  | 0, _ => True
  | count + 1, offset =>
      let kind := source.number32 order offset
      let size := (source.number32 order (offset + 4)).toNat
      8 ≤ size → offset + size ≤ commandsEnd →
        (kind = symbolTableCommand → 24 ≤ size) ∧
          TablesFit source order commandsEnd count (offset + size)

instance decidableTablesFit (source : Source) (order : ByteOrder) (commandsEnd : Nat) :
    (count offset : Nat) → Decidable (TablesFit source order commandsEnd count offset)
  | 0, _ => .isTrue .intro
  | count + 1, offset =>
      have := decidableTablesFit source order commandsEnd count
        (offset + (source.number32 order (offset + 4)).toNat)
      inferInstanceAs (Decidable (_ → _ → (_ → _) ∧ _))

/-- Every symbol table command of the file has room for its four fields. -/
def SymbolTablesFit (width : Width) (source : Source) : Prop :=
  TablesFit source (orderIn source) (commandsEndIn width source) (commandCountIn source).toNat
    (headerSize width)

instance (width : Width) (source : Source) : Decidable (SymbolTablesFit width source) :=
  decidableTablesFit ..

section Below

variable {first second : Source} {bound : Nat} (agree : first.AgreeBelow bound second)
  {cursor : Cursor}
include agree

theorem agrees_readSectionName (below : cursor.position + 32 ≤ bound) :
    Agrees first second cursor readSectionName fun _ moved => moved.order = cursor.order := by
  apply (Agrees.take agree (by omega)).bind
  rintro _ _ ⟨rfl, rfl⟩
  apply (Agrees.take agree (by dsimp only; omega)).bind
  rintro _ _ ⟨rfl, rfl⟩
  apply (Agrees.paddedName _).bind
  rintro _ _ rfl
  apply (Agrees.paddedName _).bind
  rintro _ _ rfl
  exact .pure rfl

/-- What is read of a segment command lies in the command. -/
theorem agrees_readSegment (width : Width) {command size : Nat}
    (below : command + size ≤ bound) :
    Agrees first second cursor (readSegment width command size)
      fun _ moved => moved.order = cursor.order := by
  have counted : sectionCountOffset width + 8 = firstSectionOffset width := by
    cases width <;> rfl
  have named : 32 ≤ sectionHeaderSize width := by
    cases width <;> decide
  apply (Agrees.refuseIf _ _).bind
  rintro _ _ ⟨enough, rfl⟩
  apply (Agrees.sum _ _).bind
  rintro _ _ ⟨rfl, rfl⟩
  apply (Agrees.seek agree (by omega)).bind
  rintro _ _ rfl
  apply (Agrees.u32 agree (by dsimp only; omega)).bind
  rintro count _ ⟨_, rfl⟩
  apply (Agrees.product _ _).bind
  rintro _ _ ⟨rfl, rfl⟩
  apply (Agrees.sum _ _).bind
  rintro _ _ ⟨rfl, rfl⟩
  apply (Agrees.refuseIf _ _).bind
  rintro _ _ ⟨room, rfl⟩
  apply (Agrees.sum _ _).bind
  rintro _ _ ⟨rfl, rfl⟩
  apply (Agrees.checkRange agree _ (by omega)).bind
  rintro _ _ rfl
  apply Agrees.mapM _ rfl
  intro index member start ordered
  have inTable : (index + 1) * sectionHeaderSize width ≤ count.toNat * sectionHeaderSize width :=
    Nat.mul_le_mul_right _ (List.mem_range.mp member)
  rw [Nat.succ_mul] at inTable
  apply (Agrees.entryOffset _ _ _).bind
  rintro _ _ ⟨rfl, rfl⟩
  apply (Agrees.seek agree (by omega)).bind
  rintro _ _ rfl
  apply (agrees_readSectionName agree (by dsimp only; omega)).mono
  intro _ moved kept
  exact kept.trans ordered

theorem agrees_readSymbolTable (below : cursor.position + 16 ≤ bound) :
    Agrees first second cursor readSymbolTable fun _ moved => moved.order = cursor.order := by
  apply (Agrees.u32 agree (by omega)).bind
  rintro symbols _ ⟨_, rfl⟩
  apply (Agrees.u32 agree (by dsimp only; omega)).bind
  rintro count _ ⟨_, rfl⟩
  apply (Agrees.u32 agree (by dsimp only; omega)).bind
  rintro strings _ ⟨_, rfl⟩
  apply (Agrees.u32 agree (by dsimp only; omega)).bind
  rintro stringsSize _ ⟨_, rfl⟩
  exact .pure rfl

theorem agrees_readCommand (width : Width) {kind : UInt32} {offset size : Nat}
    (found : Contents) (below : offset + size ≤ bound) (start : cursor.position = offset + 8)
    (fields : kind = symbolTableCommand → offset + 24 ≤ bound) :
    Agrees first second cursor (readCommand width kind offset size found)
      fun _ moved => moved.order = cursor.order := by
  unfold readCommand
  split
  · apply (agrees_readSegment agree width below).bind
    intro names moved kept
    exact .pure kept
  · split
    · rename_i isTable
      have inside := fields isTable
      apply (agrees_readSymbolTable agree (by omega)).bind
      intro table moved kept
      exact .pure kept
    · exact .pure rfl

/-- Load commands are read alike when each symbol table command among them either has room
for its fields or cannot reach further than the files agree. -/
theorem agrees_readCommands (width : Width) {commandsEnd count offset : Nat} (found : Contents)
    {order : ByteOrder} (ordered : cursor.order = order) (reach : commandsEnd ≤ bound)
    (fit : TablesFit first order commandsEnd count offset ∨ commandsEnd + 16 ≤ bound) :
    Agrees first second cursor (readCommands width commandsEnd count offset found)
      fun _ _ => True := by
  induction count generalizing cursor offset found with
  | zero => exact .pure .intro
  | succ count ih =>
      apply (Agrees.sum _ _).bind
      rintro _ _ ⟨rfl, rfl⟩
      apply (Agrees.refuseIf _ _).bind
      rintro _ _ ⟨headed, rfl⟩
      apply (Agrees.seek agree (by omega)).bind
      rintro _ _ rfl
      apply (Agrees.u32 agree (by dsimp only; omega)).bind
      rintro _ _ ⟨rfl, rfl⟩
      apply (Agrees.u32 agree (by dsimp only; omega)).bind
      rintro _ _ ⟨rfl, rfl⟩
      apply (Agrees.sum _ _).bind
      rintro _ _ ⟨rfl, rfl⟩
      apply (Agrees.refuseIf _ _).bind
      rintro _ _ ⟨valid, rfl⟩
      dsimp only at valid ⊢
      simp only [ordered] at valid ⊢
      have within : offset + (first.number32 order (offset + 4)).toNat ≤ commandsEnd := by
        omega
      have fields : first.number32 order offset = symbolTableCommand → offset + 24 ≤ bound := by
        intro isTable
        rcases fit with fit | slack
        · have room := (fit (by omega) within).1 isTable
          omega
        · omega
      apply (agrees_readCommand agree width found (by omega) rfl fields).bind
      intro extended moved kept
      exact ih extended kept (fit.imp_left fun fit => (fit (by omega) within).2)

/-- The headers of two files are read alike when the files agree as far as the headers
are read. -/
theorem agrees_parse (width : Width) (reach : commandsEndIn width first ≤ bound)
    (fit : SymbolTablesFit width first ∨ commandsEndIn width first + 16 ≤ bound) :
    Agrees first second cursor (parse width) fun _ _ => True := by
  have header : 28 ≤ headerSize width := by
    cases width <;> decide
  have headed : 28 ≤ bound := by
    unfold commandsEndIn at reach
    omega
  have magic : Agrees first second cursor readMagic fun value moved =>
      value = first.number32 .little 0 ∧ moved = { position := 4, order := .little } := by
    apply (Agrees.setOrder .little).bind
    rintro _ _ rfl
    apply (Agrees.seek agree (Nat.zero_le _)).bind
    rintro _ _ rfl
    exact Agrees.u32 agree (by dsimp only; omega)
  apply magic.bind
  rintro _ _ ⟨rfl, rfl⟩
  apply (Agrees.setOrder _).bind
  rintro _ _ rfl
  apply (Agrees.u32 agree (by dsimp only; omega)).bind
  rintro processor _ ⟨_, rfl⟩
  apply (Agrees.u32 agree (by dsimp only; omega)).bind
  rintro subtype _ ⟨_, rfl⟩
  apply (Agrees.u32 agree (by dsimp only; omega)).bind
  rintro fileType _ ⟨_, rfl⟩
  apply (Agrees.u32 agree (by dsimp only; omega)).bind
  rintro _ _ ⟨rfl, rfl⟩
  apply (Agrees.u32 agree (by dsimp only; omega)).bind
  rintro _ _ ⟨rfl, rfl⟩
  apply (Agrees.u32 agree (by dsimp only; omega)).bind
  rintro flags _ ⟨_, rfl⟩
  apply (Agrees.checkRange agree _ reach).bind
  rintro _ _ rfl
  apply (Agrees.sum _ _).bind
  rintro _ _ ⟨rfl, rfl⟩
  refine Agrees.bind (agrees_readCommands agree width {} rfl reach fit) ?_
  intro contents moved _
  exact .pure .intro

end Below

end MachO

end SharedObject
