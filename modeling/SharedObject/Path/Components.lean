import SharedObject.Path.Basic

/-!
# Components of a path

A path is an *anchor* (the root `/`, or a leading `.` segment, or nothing)
followed by a *body*.  The body is cut into segments at every `/`; empty segments
and `.` segments there carry no meaning.  The last meaningful segment is the file
name unless it is `..`, and the parent is the path in front of that segment
without the meaningless segments that follow it.  The anchor and the meaningful
segments together are the components of the path.
-/

namespace SharedObject

namespace Path

/-- The pieces of a byte string between its separators; there is at least one. -/
def segments : List UInt8 → List (List UInt8)
  | [] => [[]]
  | byte :: bytes =>
      if byte = separator then
        [] :: segments bytes
      else
        match segments bytes with
        | [] => [[byte]]
        | first :: others => (byte :: first) :: others

/-- The bytes whose `segments` are the given ones. -/
def joinSegments (pieces : List (List UInt8)) : List UInt8 :=
  List.intercalate [separator] pieces

theorem segments_ne_nil (bytes : List UInt8) : segments bytes ≠ [] := by
  induction bytes with
  | nil => simp [segments]
  | cons byte bytes ih =>
      unfold segments
      split
      · simp
      · split <;> simp

theorem joinSegments_cons_cons (byte : UInt8) (piece : List UInt8)
    (others : List (List UInt8)) :
    joinSegments ((byte :: piece) :: others) = byte :: joinSegments (piece :: others) := by
  cases others with
  | nil => simp [joinSegments]
  | cons second others => simp [joinSegments]

theorem joinSegments_segments (bytes : List UInt8) :
    joinSegments (segments bytes) = bytes := by
  induction bytes with
  | nil => rfl
  | cons byte bytes ih =>
      obtain ⟨first, others, split⟩ := List.exists_cons_of_ne_nil (segments_ne_nil bytes)
      by_cases isSeparator : byte = separator
      · rw [segments, if_pos isSeparator, split, isSeparator]
        rw [split] at ih
        simp [joinSegments] at ih ⊢
        exact ih
      · rw [segments, if_neg isSeparator, split]
        rw [split] at ih
        simp only [joinSegments_cons_cons, ih]

/-- Empty segments and `.` do not count as components. -/
def isSignificant (segment : List UInt8) : Bool :=
  segment != [] && segment != [dot]

/-- The root, or the `.` a path starts with. -/
def anchor (path : Path) : List UInt8 :=
  match path.bytes with
  | [] => []
  | [byte] => if byte = separator ∨ byte = dot then [byte] else []
  | byte :: next :: _ =>
      if byte = separator ∨ (byte = dot ∧ next = separator) then [byte] else []

def body (path : Path) : List UInt8 :=
  path.bytes.drop path.anchor.length

/-- The meaningful segments of the body, in their order. -/
def significantSegments (path : Path) : List (List UInt8) :=
  (segments path.body).filter isSignificant

/-- Whether two paths consist of the same components.  Repeated and final separators
and the `.` segments of the body make no difference; `..` is a segment like others. -/
def sameComponents (first second : Path) : Bool :=
  first.anchor == second.anchor && first.significantSegments == second.significantSegments

/-- The segments of the body from the last meaningful one backwards. -/
def backward (path : Path) : List (List UInt8) :=
  (segments path.body).reverse.dropWhile (!isSignificant ·)

/-- The last component, unless it is the root, the leading `.` or a `..`. -/
def fileName (path : Path) : Option (List UInt8) :=
  match path.backward with
  | [] => none
  | last :: _ => if last = [dot, dot] then none else some last

/-- The path without its last component; the root and the empty path have none. -/
def parent (path : Path) : Option Path :=
  match path.backward with
  | [] => if path.anchor = [dot] then some empty else none
  | _ :: before =>
      some ⟨path.anchor ++ joinSegments (before.dropWhile (!isSignificant ·)).reverse⟩

/-- The second path taken relative to the first; an absolute one replaces it. -/
def join (base relative : Path) : Path :=
  if relative.isAbsolute then relative
  else if base.isEmpty ∨ base.bytes.getLast? = some separator then
    ⟨base.bytes ++ relative.bytes⟩
  else
    ⟨base.bytes ++ separator :: relative.bytes⟩

/-- The path with another last component. -/
def withFileName (path : Path) (name : List UInt8) : Path :=
  match path.fileName with
  | some _ => (path.parent.getD empty).join ⟨name⟩
  | none => path.join ⟨name⟩

end Path

end SharedObject
