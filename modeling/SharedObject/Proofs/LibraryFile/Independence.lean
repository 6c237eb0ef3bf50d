import Mathlib.Data.List.Forall2
import SharedObject.Proofs.LibraryFile.Extension
import SharedObject.Proofs.LibraryFile.Queries

/-!
# Every query is answered as if it were the first

After any number of queries, some of which may have failed, a file is the file that was
opened but for the position in its source.  That position is not observed: wherever it
is, a query is answered as it is on a file freshly opened.
-/

namespace SharedObject

namespace LibraryFile

/-- A file after it has been asked some queries. -/
def after (file : LibraryFile) (queries : List Query) : LibraryFile :=
  queries.foldl (fun asked query => (asked.ask query).2) file

/-- A file whose next read starts at another position unless it goes elsewhere. -/
def movedTo (file : LibraryFile) (position : Nat) : LibraryFile :=
  { file with cursor := { file.cursor with position } }

/-- Queries leave the source, the headers and the byte order as they are. -/
theorem after_frame (file : LibraryFile) (queries : List Query) :
    (file.after queries).source = file.source ∧ (file.after queries).image = file.image ∧
      (file.after queries).cursor.order = file.cursor.order := by
  induction queries generalizing file with
  | nil => exact ⟨rfl, rfl, rfl⟩
  | cons query queries ih =>
      obtain ⟨sameSource, sameImage⟩ := file.ask_frame query
      have sameOrder := file.order_ask query
      obtain ⟨source, image, order⟩ := ih (file.ask query).2
      exact ⟨source.trans sameSource, image.trans sameImage, order.trans sameOrder⟩

/-- A query is answered after others as it is before them. -/
theorem ask_after (file : LibraryFile) (queries : List Query) (query : Query) :
    ((file.after queries).ask query).1 = (file.ask query).1 := by
  obtain ⟨source, image, order⟩ := file.after_frame queries
  exact ask_congr source image order query

/-- However often a source is opened, it is the same file, whether or not the host has to
be able to load it. -/
theorem ofSource_unique {source : Source} {nativeOnly otherwise : Bool}
    {file fresh : LibraryFile} (opened : (ofSource source nativeOnly).outcome = .ok file)
    (reopened : (ofSource source otherwise).outcome = .ok fresh) : file = fresh := by
  obtain ⟨_, sourceOfFile, format, cursor, recognized, read⟩ := ofSource_ok.mp opened
  obtain ⟨_, sourceOfFresh, other, start, alsoRecognized, reread⟩ := ofSource_ok.mp reopened
  cases recognized.symm.trans alsoRecognized
  have parsed {flag : Bool} {image : Image} {moved : Cursor}
      (given : format.readImage flag source cursor = .ok image moved) :
      Image.parse format source cursor = .ok image moved := by
    rcases Format.readImage_cases format flag with parsed | ⟨error, refused⟩
    · rwa [parsed] at given
    · rw [refused] at given
      cases given
  have same := (parsed read).symm.trans (parsed reread)
  cases file
  cases fresh
  cases same
  subst sourceOfFile sourceOfFresh
  rfl

/-- Queries do not influence each other.  Each query of a sequence is answered as it is
when it is the first one asked of a file freshly opened; no query changes the byte order
that opening selected; and the position that earlier queries have left is not observed:
the answer is the same from every other position. -/
theorem ofSource_independent (source : Source) (nativeOnly otherwise : Bool)
    {file fresh : LibraryFile} (opened : (ofSource source nativeOnly).outcome = .ok file)
    (reopened : (ofSource source otherwise).outcome = .ok fresh) (queries : List Query) :
    file.askAll queries = queries.map (fun query => (fresh.ask query).1) ∧
      (file.after queries).cursor.order = file.cursor.order ∧
      ∀ position query,
        (((file.after queries).movedTo position).ask query).1 = (fresh.ask query).1 := by
  obtain rfl := ofSource_unique opened reopened
  obtain ⟨sameSource, sameImage, sameOrder⟩ := file.after_frame queries
  constructor
  · exact file.askAll_eq_map queries
  constructor
  · exact sameOrder
  · intro position query
    have source : ((file.after queries).movedTo position).source = file.source := sameSource
    have image : ((file.after queries).movedTo position).image = file.image := sameImage
    exact ask_congr source image sameOrder query

/-- A Mach-O file in big-endian order whose symbols cannot be read is asked for its symbols
twice, and for its sections in between. -/
theorem ofSource_independent_of_fault :
    let bytes : Array UInt8 :=
      #[0xFE, 0xED, 0xFA, 0xCE] ++ Array.replicate 12 0 ++
        #[0, 0, 0, 1, 0, 0, 0, 24, 0, 0, 0, 0] ++
        #[0, 0, 0, 2, 0, 0, 0, 24, 0, 0, 0, 52, 0, 0, 0, 1, 0, 0, 0, 64, 0, 0, 0, 4] ++
        #[0, 0, 0, 1, 0x0F, 1, 0, 0, 0, 0, 0, 0] ++ #[0, 0x5F, 0x66, 0]
    let source : Source := { bytes, fault := some ⟨64, "scripted read failure"⟩ }
    let queries : List Query := [.symbols, .sections, .symbols]
    ∃ file, (ofSource source false).outcome = .ok file ∧ file.cursor.order = .big ∧
      file.askAll queries = queries.map (fun query => (file.ask query).1) ∧
      (file.after queries).cursor.order = .big ∧
      ∀ position,
        (((file.after queries).movedTo position).ask .symbols).1 =
          .error (.reported (.io "scripted read failure")) := by
  intro bytes source queries
  have seen : (ofSource source false).outcome.toOption.map
      (fun file => (file.cursor.order, (file.ask .symbols).1)) =
        some (.big, .error (.reported (.io "scripted read failure"))) := by
    decide +kernel
  obtain ⟨file, opened, shown⟩ := exists_opened seen
  obtain ⟨isBig, failed⟩ : _ ∧ _ := by
    simpa only [Prod.mk.injEq] using shown
  obtain ⟨answers, sameOrder, unmoved⟩ :=
    ofSource_independent source false false opened opened queries
  exact ⟨file, opened, isBig, answers, sameOrder.trans isBig, fun position =>
    (unmoved position .symbols).trans failed⟩

end LibraryFile

end SharedObject
