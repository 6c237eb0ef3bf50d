import SharedObject.Path.Decoration
import SharedObject.Proofs.Path.Components
import SharedObject.Proofs.Text.Ascii

/-!
# Decorated and localized paths

Decorating is idempotent and changes only the file name.  The two parts are looked for in
the bytes of a name; looking for them in its text, where ill-formed bytes are replaced,
comes to the same, because both parts are ASCII.

A localized path has a directory part, and keeps it when it is decorated.  This is what
keeps the system folders from being searched.
-/

namespace SharedObject

namespace Path

/-! ## Library file names -/

theorem libraryPrefix_eq : libraryPrefix = utf8Bytes "lib" := by decide

theorem librarySuffix_eq : librarySuffix = utf8Bytes ".so" := by decide

theorem libraryPrefix_text_iff (name : List UInt8) :
    "lib".toList <+: (decodeLossy name).toList ↔ libraryPrefix <+: name := by
  have text : "lib".toList = Utf8.asciiText libraryPrefix := by decide
  rw [text, prefix_decodeLossy_iff (by simp [libraryPrefix])]

theorem librarySuffix_text_iff (name : List UInt8) :
    ".so".toList <:+ (decodeLossy name).toList ↔ librarySuffix <:+ name := by
  have text : ".so".toList = Utf8.asciiText librarySuffix := by decide
  rw [text, suffix_decodeLossy_iff (by simp [librarySuffix])]

theorem decoratedName_eq (name : List UInt8) :
    decoratedName name =
      (if libraryPrefix <+: name then [] else libraryPrefix) ++ name ++
        (if librarySuffix <:+ name then [] else librarySuffix) := by
  simp [decoratedName]

theorem prefix_decoratedName (name : List UInt8) : libraryPrefix <+: decoratedName name := by
  rw [decoratedName_eq]
  by_cases present : libraryPrefix <+: name
  · rw [if_pos present, List.nil_append]
    exact present.trans (List.prefix_append _ _)
  · rw [if_neg present, List.append_assoc]
    exact List.prefix_append _ _

theorem suffix_decoratedName (name : List UInt8) : librarySuffix <:+ decoratedName name := by
  rw [decoratedName_eq]
  by_cases present : librarySuffix <:+ name
  · rw [if_pos present, List.append_nil]
    exact present.trans (List.suffix_append _ _)
  · rw [if_neg present]
    exact List.suffix_append _ _

theorem decoratedName_decoratedName (name : List UInt8) :
    decoratedName (decoratedName name) = decoratedName name := by
  rw [decoratedName_eq (decoratedName name)]
  simp [prefix_decoratedName, suffix_decoratedName]

theorem isFileName_decoratedName {name : List UInt8} (proper : IsFileName name) :
    IsFileName (decoratedName name) := by
  obtain ⟨rest, starts⟩ := prefix_decoratedName name
  constructor
  · have noPrefix : separator ∉ libraryPrefix := by decide
    have noSuffix : separator ∉ librarySuffix := by decide
    rw [decoratedName_eq]
    split <;> split <;> simp [proper.plain, noPrefix, noSuffix]
  · simp [← starts, libraryPrefix, isSignificant]
  · simp [← starts, libraryPrefix]

/-! ## Decorated paths -/

theorem decorate_of_unnamed {path : Path} (unnamed : path.fileName = none) :
    path.decorate = path := by
  rw [decorate, unnamed]

theorem isFileName_decorated {path : Path} {name : List UInt8}
    (named : path.fileName = some name) : IsFileName (decoratedName name) :=
  isFileName_decoratedName (isFileName_of_fileName named)

theorem decorate_of_fileName {path : Path} {name : List UInt8}
    (named : path.fileName = some name) :
    path.decorate = path.withFileName (decoratedName name) := by
  rw [decorate, named]

theorem fileName_decorate {path : Path} {name : List UInt8}
    (named : path.fileName = some name) : path.decorate.fileName = some (decoratedName name) := by
  rw [decorate_of_fileName named]
  exact fileName_withFileName named (isFileName_decorated named)

theorem parent_decorate (path : Path) : path.decorate.parent = path.parent := by
  cases named : path.fileName with
  | none => rw [decorate_of_unnamed named]
  | some name =>
      rw [decorate_of_fileName named]
      exact parent_withFileName named (isFileName_decorated named)

theorem decorate_decorate (path : Path) : path.decorate.decorate = path.decorate := by
  cases named : path.fileName with
  | none => simp only [decorate_of_unnamed named]
  | some name =>
      rw [decorate_of_fileName (fileName_decorate named), decorate_of_fileName named,
        withFileName_withFileName named (isFileName_decorated named),
        decoratedName_decoratedName]

/-- Decorating is idempotent, leaves a path without a file name alone, and otherwise puts
what is missing of `lib` and `.so` around the file name, in the same directory. -/
theorem decorate_fileName_only (path : Path) :
    path.decorate.decorate = path.decorate ∧
    path.decorate.parent = path.parent ∧
    match path.fileName with
    | none => path.decorate = path
    | some name =>
        ∃ front back,
          path.decorate.fileName = some (front ++ name ++ back) ∧
          utf8Bytes "lib" <+: front ++ name ++ back ∧
          utf8Bytes ".so" <:+ front ++ name ++ back ∧
          front = (if utf8Bytes "lib" <+: name then [] else utf8Bytes "lib") ∧
          back = (if utf8Bytes ".so" <:+ name then [] else utf8Bytes ".so") ∧
          ("lib".toList <+: (decodeLossy name).toList ↔ utf8Bytes "lib" <+: name) ∧
          (".so".toList <:+ (decodeLossy name).toList ↔ utf8Bytes ".so" <:+ name) := by
  refine ⟨decorate_decorate path, parent_decorate path, ?_⟩
  cases named : path.fileName with
  | none => exact decorate_of_unnamed named
  | some name =>
      rw [← libraryPrefix_eq, ← librarySuffix_eq]
      refine ⟨_, _, ?_, ?_, ?_, rfl, rfl, libraryPrefix_text_iff name,
        librarySuffix_text_iff name⟩ <;> rw [← decoratedName_eq]
      · exact fileName_decorate named
      · exact prefix_decoratedName name
      · exact suffix_decoratedName name

/-- An ill-formed byte in the name, a doubled separator in front of it and a `.` segment
behind it. -/
example :
    decorate ⟨utf8Bytes "a//f" ++ [0xFF] ++ utf8Bytes ".so/."⟩ =
      ⟨utf8Bytes "a/libf" ++ [0xFF] ++ utf8Bytes ".so"⟩ := by
  decide

/-! ## Paths with a directory part -/

/-- A path without a separator is one segment, in front of which there is nothing. -/
theorem isEmpty_of_parent {path above : Path} (bare : separator ∉ path.bytes)
    (isParent : path.parent = some above) : above.isEmpty = true := by
  have pieces : segments path.body = [path.body] :=
    segments_of_notMem fun member => bare (List.mem_of_mem_drop member)
  by_cases significant : isSignificant path.body = true
  · have back : path.backward = path.body :: [].reverse :=
      backward_of_segments pieces significant (by simp)
    rcases anchor_of_bare bare with unanchored | alone
    · rw [parent, back, unanchored] at isParent
      cases isParent
      rfl
    · simp [body, alone, anchor, isSignificant] at significant
  · have back : path.backward = [] := by
      simp [backward, pieces, significant]
    rw [parent, back] at isParent
    dsimp only at isParent
    split at isParent <;> cases isParent
    rfl

theorem separator_mem_withFileName {path : Path} {name other : List UInt8}
    (named : path.fileName = some name) (proper : IsFileName other)
    (below : path.anchor ≠ [] ∨ path.directory ≠ []) :
    separator ∈ (path.withFileName other).bytes := by
  rw [withFileName_bytes named proper]
  by_cases root : path.directory = []
  · rcases anchor_cases path with isAnchor | isAnchor | isAnchor <;>
      simp_all [separator, dot]
  · simp [root]

theorem localize_cases (path : Path) :
    (path.localize = path ∧ ∃ above, path.parent = some above ∧ above.isEmpty = false) ∨
      (path.localize = path ∧ path.anchor = [separator]) ∨
      path.localize = ⟨dot :: separator :: path.bytes⟩ := by
  unfold localize
  split
  · rename_i below
    cases isParent : path.parent with
    | none => simp [isParent] at below
    | some above => exact .inl ⟨rfl, above, rfl, by simpa [isParent] using below⟩
  · right
    obtain ⟨bytes⟩ := path
    by_cases absolute : isAbsolute ⟨bytes⟩ = true
    · left
      obtain ⟨rest, rfl⟩ : ∃ rest, bytes = separator :: rest := by
        cases bytes <;> simp_all [isAbsolute]
      exact ⟨by rw [join, if_pos absolute], anchor_of_separator rest⟩
    · right
      have isDot : ¬(dot = separator) := by decide
      simp [join, absolute, isEmpty, isDot]

theorem separator_mem_localize (path : Path) : separator ∈ path.localize.bytes := by
  rcases localize_cases path with ⟨same, above, isParent, nonempty⟩ | ⟨same, root⟩ | relative
  · rw [same]
    by_contra bare
    rw [isEmpty_of_parent bare isParent] at nonempty
    cases nonempty
  · rw [same, ← anchor_append_body path, root]
    simp
  · simp [relative]

theorem separator_mem_decorate_localize (path : Path) :
    separator ∈ path.localize.decorate.bytes := by
  cases named : path.localize.fileName with
  | none =>
      rw [decorate_of_unnamed named]
      exact separator_mem_localize path
  | some name =>
      rw [decorate_of_fileName named]
      apply separator_mem_withFileName named (isFileName_decorated named)
      rcases localize_cases path with ⟨same, above, isParent, nonempty⟩ | ⟨same, root⟩ | relative
      · rw [same] at named ⊢
        rw [parent_of_fileName named] at isParent
        cases isParent
        by_contra nothing
        simp only [not_or, ne_eq, not_not] at nothing
        simp [nothing, isEmpty, joinSegments] at nonempty
      · simp [same, root]
      · simp [relative, anchor_of_dot]

end Path

end SharedObject
