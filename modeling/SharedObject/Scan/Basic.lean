import SharedObject.Error
import SharedObject.Scan.Source

/-!
# Scanning a source

A field of a library file is an unsigned number in one of two byte orders.  A scan
reads a source through a cursor, the position and byte order of the next field.  It
stops early with a `Failure`: an error to be reported, or a defect, which would be a
mistake of the scan itself.  The cursor outlives a failure.
-/

namespace SharedObject

/-- The order in which the bytes of a field are stored. -/
inductive ByteOrder
  | little
  | big
  deriving DecidableEq, Repr, Inhabited

/-- The number whose base 256 digits, least significant first, are the bytes. -/
def littleEndianValue : List UInt8 → Nat
  | [] => 0
  | byte :: bytes => byte.toNat + 256 * littleEndianValue bytes

/-- The number that a field holds. -/
def ByteOrder.value (order : ByteOrder) (bytes : List UInt8) : Nat :=
  match order with
  | .little => littleEndianValue bytes
  | .big => littleEndianValue bytes.reverse

/-- Where the next read starts and how it is to be understood. -/
structure Cursor where
  position : Nat := 0
  order : ByteOrder := .little
  deriving DecidableEq, Repr, Inhabited

/-- A step that fixed-width arithmetic or a table cannot take. -/
inductive Defect
  | overflow
  | underflow
  | divisionByZero
  | indexOutOfRange
  deriving DecidableEq, Repr

/-- Why a scan stopped early. -/
inductive Failure
  | reported (error : Error)
  | defect (defect : Defect)
  deriving DecidableEq, Repr

/-- The failure of a file that is inconsistent or cut short. -/
abbrev Failure.malformed (cause : Malformed) : Failure :=
  .reported (.malformedBinary cause)

/-- A computation that reads a source and moves a cursor. -/
abbrev Scan := ReaderT Source (EStateM Failure Cursor)

namespace Scan

section Running

variable {α β : Type} (source : Source) (cursor : Cursor)

@[simp]
theorem run_pure (value : α) : (pure value : Scan α) source cursor = .ok value cursor :=
  rfl

theorem run_bind (scan : Scan α) (next : α → Scan β) :
    (scan >>= next) source cursor =
      match scan source cursor with
      | .ok value moved => next value source moved
      | .error failure moved => .error failure moved := by
  show EStateM.bind (scan source) (fun value => next value source) cursor = _
  unfold EStateM.bind
  cases scan source cursor <;> rfl

/-- An answer of a sequence is one of its second part, from where the first part
has left the cursor. -/
theorem bind_ok {scan : Scan α} {next : α → Scan β} {source : Source} {cursor moved : Cursor}
    {value : β} :
    (scan >>= next) source cursor = .ok value moved ↔
      ∃ intermediate between, scan source cursor = .ok intermediate between ∧
        next intermediate source between = .ok value moved := by
  rw [run_bind]
  cases scan source cursor with
  | ok intermediate between =>
      constructor
      · exact fun given => ⟨intermediate, between, rfl, given⟩
      · rintro ⟨_, _, same, given⟩
        cases same
        exact given
  | error failure stopped =>
      constructor
      · exact nofun
      · rintro ⟨_, _, same, _⟩
        cases same

@[simp]
theorem run_throw (failure : Failure) :
    (throw failure : Scan α) source cursor = .error failure cursor :=
  rfl

@[simp]
theorem run_get : (get : Scan Cursor) source cursor = .ok cursor cursor :=
  rfl

@[simp]
theorem run_read : (read : Scan Source) source cursor = .ok source cursor :=
  rfl

@[simp]
theorem run_set (moved : Cursor) : (set moved : Scan PUnit) source cursor = .ok .unit moved :=
  rfl

@[simp]
theorem run_modify (change : Cursor → Cursor) :
    (modify change : Scan PUnit) source cursor = .ok .unit (change cursor) :=
  rfl

end Running

def malformed {α : Type} (cause : Malformed) : Scan α :=
  throw (.malformed cause)

/-- Stop because the file is malformed if something is wrong with it. -/
def refuseIf (wrong : Prop) [Decidable wrong] (cause : Malformed) : Scan Unit :=
  if wrong then malformed cause else pure ()

theorem run_refuseIf (wrong : Prop) [Decidable wrong] (cause : Malformed) (source : Source)
    (cursor : Cursor) :
    refuseIf wrong cause source cursor =
      if wrong then .error (.malformed cause) cursor else .ok () cursor := by
  unfold refuseIf
  split <;> rfl

/-- What is not refused leaves the cursor where it is. -/
theorem refuseIf_ok {wrong : Prop} [Decidable wrong] {cause : Malformed} {source : Source}
    {cursor moved : Cursor} {value : Unit} :
    refuseIf wrong cause source cursor = .ok value moved ↔ ¬wrong ∧ cursor = moved := by
  rw [run_refuseIf]
  by_cases holds : wrong
  · simp [holds]
  · simp [holds]

def defect {α : Type} (defect : Defect) : Scan α :=
  throw (.defect defect)

def size : Scan Nat :=
  return (← read).size

@[simp]
theorem run_size (source : Source) (cursor : Cursor) :
    size source cursor = .ok source.size cursor :=
  rfl

/-- Choose how the following fields are to be understood. -/
def setOrder (order : ByteOrder) : Scan Unit :=
  modify ({ · with order })

/-- Go to an offset, which may be the end of the file but not past it. -/
def seek (offset : Nat) : Scan Unit := do
  refuseIf ((← size) < offset) (.offsetPastEnd offset)
  modify ({ · with position := offset })

theorem run_seek (offset : Nat) (source : Source) (cursor : Cursor) :
    seek offset source cursor =
      if source.size < offset then .error (.malformed (.offsetPastEnd offset)) cursor
      else .ok () { cursor with position := offset } := by
  simp only [seek, run_bind, run_size, run_refuseIf]
  by_cases outside : source.size < offset
  · rw [if_pos outside, if_pos outside]
  · rw [if_neg outside, if_neg outside]
    rfl

theorem seek_ok {offset : Nat} {source : Source} {cursor moved : Cursor} {value : Unit} :
    seek offset source cursor = .ok value moved ↔
      offset ≤ source.size ∧ { cursor with position := offset } = moved := by
  rw [run_seek]
  by_cases outside : source.size < offset
  · simp [outside, Nat.not_le.mpr outside]
  · simp [outside, Nat.not_lt.mp outside]

theorem seek_of_inside {offset : Nat} {source : Source} (inside : offset ≤ source.size)
    (cursor : Cursor) : seek offset source cursor = .ok () { cursor with position := offset } :=
  seek_ok.mpr ⟨inside, rfl⟩

def checkRange (region : Region) (offset extent : Nat) : Scan Unit := do
  refuseIf ((← size) < offset + extent) (.outsideFile region offset extent)

theorem run_checkRange (region : Region) (offset extent : Nat) (source : Source)
    (cursor : Cursor) :
    checkRange region offset extent source cursor =
      if source.size < offset + extent then
        .error (.malformed (.outsideFile region offset extent)) cursor
      else .ok () cursor := by
  simp only [checkRange, run_bind, run_size, run_refuseIf]

theorem checkRange_ok {region : Region} {offset extent : Nat} {source : Source}
    {cursor moved : Cursor} {value : Unit} :
    checkRange region offset extent source cursor = .ok value moved ↔
      offset + extent ≤ source.size ∧ cursor = moved := by
  rw [run_checkRange]
  by_cases outside : source.size < offset + extent
  · simp [outside, Nat.not_le.mpr outside]
  · simp [outside, Nat.not_lt.mp outside]

/-- The answer of a scan, or `fallback` when it stops with an error.  A defect is
passed on. -/
def recover {α : Type} (scan : Scan α) (fallback : α) : Scan α :=
  tryCatch scan fun failure =>
    match failure with
    | .reported _ => pure fallback
    | .defect defect => throw (.defect defect)

theorem run_recover {α : Type} (scan : Scan α) (fallback : α) (source : Source)
    (cursor : Cursor) :
    recover scan fallback source cursor =
      match scan source cursor with
      | .ok value moved => .ok value moved
      | .error (.reported _) moved => .ok fallback moved
      | .error (.defect defect) moved => .error (.defect defect) moved := by
  show EStateM.tryCatch (scan source) _ cursor = _
  unfold EStateM.tryCatch
  cases scan source cursor with
  | ok value moved => rfl
  | error failure moved => cases failure <;> rfl

end Scan

end SharedObject
