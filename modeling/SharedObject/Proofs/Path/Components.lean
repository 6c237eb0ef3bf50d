import Mathlib.Data.List.DropRight
import SharedObject.Path.Components

/-!
# Changing the file name of a path

The path in which another file name was put has this file name and the parent of the path
that it was put in.  What makes this hold is that cutting a path into segments undoes
putting segments together.
-/

namespace SharedObject

namespace Path

/-! ## Segments -/

theorem segments_eq_splitOn (bytes : List UInt8) : segments bytes = bytes.splitOn separator := by
  induction bytes with
  | nil => rfl
  | cons byte bytes ih =>
      rw [segments, List.splitOn_cons_eq_if_modifyHead, ← ih]
      by_cases isSeparator : byte = separator
      · simp [isSeparator]
      · obtain ⟨first, others, split⟩ := List.exists_cons_of_ne_nil (segments_ne_nil bytes)
        simp [isSeparator, split]

theorem segments_append (first second : List UInt8) :
    segments (first ++ separator :: second) = segments first ++ segments second := by
  simp only [segments_eq_splitOn, List.splitOn_append_cons_self]

theorem segments_of_notMem {bytes : List UInt8} (plain : separator ∉ bytes) :
    segments bytes = [bytes] := by
  rw [segments_eq_splitOn, List.splitOn_eq_singleton plain]

theorem segments_joinSegments {pieces : List (List UInt8)} (nonempty : pieces ≠ [])
    (plain : ∀ piece ∈ pieces, separator ∉ piece) : segments (joinSegments pieces) = pieces := by
  rw [segments_eq_splitOn, joinSegments, List.splitOn_intercalate separator plain nonempty]

theorem separator_notMem_segment (bytes : List UInt8) {piece : List UInt8}
    (member : piece ∈ segments bytes) : separator ∉ piece := by
  induction bytes generalizing piece with
  | nil => simp_all [segments]
  | cons byte bytes ih =>
      obtain ⟨first, others, split⟩ := List.exists_cons_of_ne_nil (segments_ne_nil bytes)
      rw [split] at ih
      by_cases isSeparator : byte = separator
      · simp only [segments, if_pos isSeparator, split, List.mem_cons] at member
        rcases member with rfl | member
        · exact List.not_mem_nil
        · exact ih (List.mem_cons.mpr member)
      · simp only [segments, if_neg isSeparator, split, List.mem_cons] at member
        rcases member with rfl | member
        · simp [Ne.symm isSeparator, ih (List.mem_cons_self)]
        · exact ih (List.mem_cons_of_mem first member)

theorem joinSegments_append {front back : List (List UInt8)} (frontNonempty : front ≠ [])
    (backNonempty : back ≠ []) :
    joinSegments (front ++ back) = joinSegments front ++ separator :: joinSegments back := by
  induction front with
  | nil => exact absurd rfl frontNonempty
  | cons piece front ih =>
      cases front with
      | nil =>
          obtain ⟨next, others, rfl⟩ := List.exists_cons_of_ne_nil backNonempty
          simp [joinSegments]
      | cons second front =>
          have rest := ih (List.cons_ne_nil _ _)
          simp only [joinSegments, List.cons_append, List.intercalate_cons_cons] at rest ⊢
          simp [rest]

/-! ## The anchor -/

theorem anchor_cases (path : Path) :
    path.anchor = [] ∨ path.anchor = [separator] ∨ path.anchor = [dot] := by
  unfold anchor
  split
  · simp
  · split <;> simp_all
  · split <;> simp_all
    grind

theorem anchor_append_body (path : Path) : path.anchor ++ path.body = path.bytes := by
  rw [body]
  unfold anchor
  split
  · simp_all
  · split <;> simp_all
  · split <;> simp_all

theorem anchor_of_separator (rest : List UInt8) :
    anchor ⟨separator :: rest⟩ = [separator] := by
  cases rest <;> simp [anchor]

theorem anchor_of_dot (rest : List UInt8) :
    anchor ⟨dot :: separator :: rest⟩ = [dot] := by
  simp [anchor]

theorem anchor_of_bare {path : Path} (bare : separator ∉ path.bytes) :
    path.anchor = [] ∨ path.bytes = [dot] := by
  obtain ⟨bytes⟩ := path
  match bytes with
  | [] => exact .inl rfl
  | [byte] =>
      have notSeparator : byte ≠ separator := fun same => bare (by simp [same])
      by_cases isDot : byte = dot <;> simp [anchor, notSeparator, isDot]
  | byte :: next :: rest =>
      have notSeparator : byte ≠ separator := fun same => bare (by simp [same])
      have nextNotSeparator : next ≠ separator := fun same => bare (by simp [same])
      simp [anchor, notSeparator, nextNotSeparator]

/-- The anchor depends on the first two bytes of a path only. -/
theorem anchor_congr {first second : Path} (same : first.bytes.take 2 = second.bytes.take 2) :
    first.anchor = second.anchor := by
  obtain ⟨firstBytes⟩ := first
  obtain ⟨secondBytes⟩ := second
  match firstBytes, secondBytes with
  | [], [] => rfl
  | [], _ :: _ => simp at same
  | _ :: _, [] => simp at same
  | [byte], [other] => simp_all
  | [_], _ :: _ :: _ => simp at same
  | _ :: _ :: _, [_] => simp at same
  | byte :: next :: _, other :: following :: _ =>
      simp only [List.take_succ_cons, List.take_zero, List.cons.injEq, and_true] at same
      simp [anchor, same]

/-! ## The last component and the directory it is in -/

/-- What a segment must be to be the file name of a path. -/
structure IsFileName (name : List UInt8) : Prop where
  plain : separator ∉ name
  significant : isSignificant name = true
  notUp : name ≠ [dot, dot]

/-- The segments in front of the last component, without the meaningless ones that end
them. -/
def directory (path : Path) : List (List UInt8) :=
  path.backward.tail.reverse.rdropWhile (!isSignificant ·)

theorem backward_of_fileName {path : Path} {name : List UInt8}
    (named : path.fileName = some name) :
    path.backward = name :: path.backward.tail ∧ name ≠ [dot, dot] := by
  unfold fileName at named
  split at named
  · cases named
  · rename_i last before back
    split at named
    · cases named
    · rename_i notUp
      cases named
      simp [back, notUp]

theorem backward_of_segments {path : Path} {front behind : List (List UInt8)}
    {name : List UInt8} (pieces : segments path.body = front ++ name :: behind)
    (significant : isSignificant name = true)
    (idle : ∀ piece ∈ behind, isSignificant piece = false) :
    path.backward = name :: front.reverse := by
  have idleBehind : ∀ piece ∈ behind.reverse, (!isSignificant piece) = true := by
    simpa using idle
  simp [backward, pieces, List.dropWhile_append_of_pos idleBehind, significant]

theorem parent_of_fileName {path : Path} {name : List UInt8}
    (named : path.fileName = some name) :
    path.parent = some ⟨path.anchor ++ joinSegments path.directory⟩ := by
  rw [parent, directory, (backward_of_fileName named).1]
  simp [List.rdropWhile]

/-- A path that has a file name is its directory, meaningless segments, the file name, and
meaningless segments again. -/
theorem segments_of_fileName {path : Path} {name : List UInt8}
    (named : path.fileName = some name) :
    ∃ gap behind, (∀ piece ∈ gap, isSignificant piece = false) ∧
      (∀ piece ∈ behind, isSignificant piece = false) ∧
      segments path.body = path.directory ++ gap ++ name :: behind := by
  have whole : (segments path.body).rdropWhile (!isSignificant ·) ++
      (segments path.body).rtakeWhile (!isSignificant ·) = segments path.body :=
    List.rdropWhile_append_rtakeWhile
  have front : path.directory ++ path.backward.tail.reverse.rtakeWhile (!isSignificant ·) =
      path.backward.tail.reverse := List.rdropWhile_append_rtakeWhile
  have last : (segments path.body).rdropWhile (!isSignificant ·) =
      path.backward.tail.reverse ++ [name] := by
    rw [List.rdropWhile, ← backward, (backward_of_fileName named).1]
    simp
  refine ⟨path.backward.tail.reverse.rtakeWhile (!isSignificant ·),
    (segments path.body).rtakeWhile (!isSignificant ·), ?_, ?_, ?_⟩
  · intro piece member
    simpa using List.mem_rtakeWhile_imp member
  · intro piece member
    simpa using List.mem_rtakeWhile_imp member
  · rw [last, ← front] at whole
    exact whole.symm.trans (List.append_cons _ _ _).symm

theorem isFileName_of_fileName {path : Path} {name : List UInt8}
    (named : path.fileName = some name) : IsFileName name := by
  obtain ⟨gap, behind, -, -, pieces⟩ := segments_of_fileName named
  obtain ⟨back, notUp⟩ := backward_of_fileName named
  refine ⟨separator_notMem_segment path.body ?_, ?_, notUp⟩
  · simp [pieces]
  · have stops := List.head?_dropWhile_not (!isSignificant ·) (segments path.body).reverse
    rw [← backward, back] at stops
    simpa using stops

theorem fileName_of_segments {path : Path} {front behind : List (List UInt8)}
    {name : List UInt8} (pieces : segments path.body = front ++ name :: behind)
    (proper : IsFileName name) (idle : ∀ piece ∈ behind, isSignificant piece = false) :
    path.fileName = some name := by
  rw [fileName, backward_of_segments pieces proper.significant idle]
  simp [proper.notUp]

theorem directory_of_segments {path : Path} {front gap behind : List (List UInt8)}
    {name : List UInt8} (pieces : segments path.body = front ++ gap ++ name :: behind)
    (significant : isSignificant name = true)
    (idleGap : ∀ piece ∈ gap, isSignificant piece = false)
    (idle : ∀ piece ∈ behind, isSignificant piece = false) :
    path.directory = front.rdropWhile (!isSignificant ·) := by
  have dropped : ∀ piece ∈ gap.reverse, (!isSignificant piece) = true := by
    simpa using idleGap
  rw [directory, backward_of_segments pieces significant idle]
  simp [List.rdropWhile, List.dropWhile_append_of_pos dropped]

/-! ## Putting another file name in -/

theorem anchor_of_isFileName {name : List UInt8} (proper : IsFileName name) :
    anchor ⟨name⟩ = [] := by
  have bare : anchor ⟨name⟩ = [] ∨ name = [dot] := anchor_of_bare proper.plain
  rcases bare with unanchored | alone
  · exact unanchored
  · cases alone
    cases proper.significant

theorem body_of_bytes {path : Path} {rest : List UInt8}
    (bytes : path.bytes = path.anchor ++ rest) : path.body = rest := by
  rw [body, bytes, List.drop_left]

theorem getLast?_joinSegments (front : List (List UInt8)) {last : List UInt8}
    (nonempty : last ≠ []) : (joinSegments (front ++ [last])).getLast? = last.getLast? := by
  obtain ⟨byte, bytes, rfl⟩ := List.exists_cons_of_ne_nil nonempty
  by_cases alone : front = []
  · simp [alone, joinSegments]
  · rw [joinSegments_append alone (List.cons_ne_nil _ _)]
    simp [joinSegments, List.getLast?_append, List.getLast?_cons]

/-- A directory that is not empty ends in the last byte of a segment that carries a
meaning, so that a separator has to be put behind it. -/
theorem getLast?_directory {path : Path} {name : List UInt8}
    (named : path.fileName = some name) (nonempty : path.directory ≠ []) :
    ∃ byte, byte ≠ separator ∧ (joinSegments path.directory).getLast? = some byte := by
  obtain ⟨gap, behind, -, -, pieces⟩ := segments_of_fileName named
  obtain ⟨front, last, split⟩ := List.eq_nil_or_concat' path.directory |>.resolve_left nonempty
  have significant : isSignificant last = true := by
    have ends := List.rdropWhile_eq_self_iff.mp
      (List.rdropWhile_idempotent (!isSignificant ·) path.backward.tail.reverse)
    rw [← directory, split] at ends
    simpa using ends
  have plain : separator ∉ last := separator_notMem_segment path.body (by
    simp [pieces, split])
  have bytes : last ≠ [] := by
    rintro rfl
    cases significant
  refine ⟨last.getLast bytes, ?_, ?_⟩
  · intro isSeparator
    exact plain (isSeparator ▸ List.getLast_mem bytes)
  · rw [split, getLast?_joinSegments front bytes, List.getLast?_eq_some_getLast bytes]

theorem isAbsolute_of_isFileName {name : List UInt8} (proper : IsFileName name) :
    isAbsolute ⟨name⟩ = false := by
  cases name with
  | nil => rfl
  | cons byte bytes =>
      have notSeparator : byte ≠ separator := fun same => proper.plain (by simp [same])
      simp [isAbsolute, notSeparator]

/-- A separator stands between the directory and the new file name wherever one is
needed.  The `.` that a path starts with is in its anchor, so that an empty segment
follows it. -/
theorem withFileName_bytes {path : Path} {name other : List UInt8}
    (named : path.fileName = some name) (proper : IsFileName other) :
    (path.withFileName other).bytes =
      if path.directory = [] then
        path.anchor ++ if path.anchor = [dot] then separator :: other else other
      else path.anchor ++ joinSegments path.directory ++ separator :: other := by
  rw [withFileName, named]
  simp only [parent_of_fileName named, Option.getD_some, join,
    isAbsolute_of_isFileName proper, isEmpty]
  by_cases root : path.directory = []
  · rcases anchor_cases path with isAnchor | isAnchor | isAnchor <;>
      simp [root, isAnchor, joinSegments, separator, dot]
  · obtain ⟨byte, notSeparator, ends⟩ := getLast?_directory named root
    have nonempty : joinSegments path.directory ≠ [] := by
      intro isEmpty
      simp [isEmpty] at ends
    simp [root, nonempty, List.getLast?_append, ends, notSeparator]

theorem bytes_of_fileName {path : Path} {name : List UInt8}
    (named : path.fileName = some name) (nonempty : path.directory ≠ []) :
    ∃ rest, path.bytes = path.anchor ++ joinSegments path.directory ++ separator :: rest := by
  obtain ⟨gap, behind, -, -, pieces⟩ := segments_of_fileName named
  refine ⟨joinSegments (gap ++ name :: behind), ?_⟩
  rw [List.append_assoc, ← joinSegments_append nonempty (by simp), ← List.append_assoc,
    ← pieces, joinSegments_segments, anchor_append_body]

theorem anchor_withFileName {path : Path} {name other : List UInt8}
    (named : path.fileName = some name) (proper : IsFileName other) :
    (path.withFileName other).anchor = path.anchor := by
  have bytes := withFileName_bytes named proper
  by_cases root : path.directory = []
  · rw [if_pos root] at bytes
    rcases anchor_cases path with isAnchor | isAnchor | isAnchor <;> rw [isAnchor] at bytes ⊢
    · have whole : path.withFileName other = ⟨other⟩ := congrArg Path.mk bytes
      rw [whole, anchor_of_isFileName proper]
    · have whole : path.withFileName other = ⟨separator :: other⟩ := congrArg Path.mk bytes
      rw [whole, anchor_of_separator]
    · have whole : path.withFileName other = ⟨dot :: separator :: other⟩ :=
        congrArg Path.mk bytes
      rw [whole, anchor_of_dot]
  · -- Both paths start with the directory, and a separator after it.
    obtain ⟨rest, original⟩ := bytes_of_fileName named root
    obtain ⟨byte, -, ends⟩ := getLast?_directory named root
    obtain ⟨first, others, front⟩ :
        ∃ first others, path.anchor ++ joinSegments path.directory = first :: others := by
      apply List.exists_cons_of_ne_nil
      intro isEmpty
      simp [(List.append_eq_nil_iff.mp isEmpty).2] at ends
    rw [if_neg root, front] at bytes
    rw [front] at original
    apply anchor_congr
    cases others <;> simp [bytes, original]

/-- Another file name leaves everything in front of the file name as it was; only the
segments without a meaning change. -/
theorem segments_withFileName {path : Path} {name other : List UInt8}
    (named : path.fileName = some name) (proper : IsFileName other) :
    ∃ gap, (∀ piece ∈ gap, isSignificant piece = false) ∧
      segments (path.withFileName other).body = path.directory ++ gap ++ [other] := by
  have bytes := withFileName_bytes named proper
  have kept := anchor_withFileName named proper
  have single : segments other = [other] := segments_of_notMem proper.plain
  obtain ⟨front, behind, -, -, pieces⟩ := segments_of_fileName named
  have plain : ∀ piece ∈ path.directory, separator ∉ piece := by
    intro piece member
    exact separator_notMem_segment path.body (by simp [pieces, member])
  by_cases root : path.directory = []
  · rw [if_pos root] at bytes
    by_cases relative : path.anchor = [dot]
    · rw [if_pos relative, ← kept] at bytes
      refine ⟨[[]], by simp [isSignificant], ?_⟩
      rw [body_of_bytes bytes, ← List.nil_append (separator :: other), segments_append, single,
        root]
      rfl
    · rw [if_neg relative, ← kept] at bytes
      exact ⟨[], by simp, by rw [body_of_bytes bytes, single, root]; rfl⟩
  · rw [if_neg root, List.append_assoc, ← kept] at bytes
    refine ⟨[], by simp, ?_⟩
    rw [body_of_bytes bytes, segments_append, single, segments_joinSegments root plain]
    simp

theorem fileName_withFileName {path : Path} {name other : List UInt8}
    (named : path.fileName = some name) (proper : IsFileName other) :
    (path.withFileName other).fileName = some other := by
  obtain ⟨gap, -, pieces⟩ := segments_withFileName named proper
  exact fileName_of_segments pieces proper (by simp)

theorem directory_withFileName {path : Path} {name other : List UInt8}
    (named : path.fileName = some name) (proper : IsFileName other) :
    (path.withFileName other).directory = path.directory := by
  obtain ⟨gap, idle, pieces⟩ := segments_withFileName named proper
  rw [directory_of_segments pieces proper.significant idle (by simp), directory,
    List.rdropWhile_idempotent]

theorem parent_withFileName {path : Path} {name other : List UInt8}
    (named : path.fileName = some name) (proper : IsFileName other) :
    (path.withFileName other).parent = path.parent := by
  rw [parent_of_fileName named, parent_of_fileName (fileName_withFileName named proper),
    anchor_withFileName named proper, directory_withFileName named proper]

theorem withFileName_withFileName {path : Path} {name other third : List UInt8}
    (named : path.fileName = some name) (proper : IsFileName other) :
    (path.withFileName other).withFileName third = path.withFileName third := by
  rw [withFileName, fileName_withFileName named proper, parent_withFileName named proper]
  simp [withFileName, named]

end Path

end SharedObject
