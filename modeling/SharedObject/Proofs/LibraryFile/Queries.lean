import SharedObject.LibraryFile
import SharedObject.Proofs.Elf.Steady
import SharedObject.Proofs.MachO.Steady
import SharedObject.Proofs.Pe.Steady

/-!
# Queries do not disturb each other

A query moves the cursor but keeps the byte order, and its answer depends on nothing
else of the cursor.  In a sequence of queries every one is therefore answered as if it
were the first.
-/

namespace SharedObject

open Scan

theorem Image.steady_answer (image : Image) (query : Query) : Steady (image.answer query) := by
  cases image with
  | elf image =>
      cases query with
      | sections => exact image.steady_sections
      | symbols => exact image.steady_exportedNames _
      | sectionSymbols name => exact image.steady_sectionSymbols name
  | pe image =>
      cases query with
      | sections => exact .pure _
      | symbols => exact image.steady_exportedNames none
      | sectionSymbols name => exact image.steady_sectionSymbols name
  | machO image =>
      cases query with
      | sections => exact .pure _
      | symbols => exact image.steady_exportedNames _
      | sectionSymbols name => exact image.steady_sectionSymbols name

namespace LibraryFile

theorem ask_eq_outcome (file : LibraryFile) (query : Query) :
    (file.ask query).1 = outcome (file.image.answer query) file.source file.cursor := by
  unfold ask outcome
  cases file.image.answer query file.source file.cursor <;> rfl

theorem order_ask (file : LibraryFile) (query : Query) :
    (file.ask query).2.cursor.order = file.cursor.order := by
  have kept := (file.image.steady_answer query).keeps file.source file.cursor
  unfold left at kept
  unfold ask
  cases given : file.image.answer query file.source file.cursor with
  | ok names moved =>
      rw [given] at kept
      exact kept
  | error failure moved =>
      rw [given] at kept
      exact kept

/-- Files of one source, one image and one byte order answer alike. -/
theorem ask_congr {file other : LibraryFile} (source : file.source = other.source)
    (image : file.image = other.image) (order : file.cursor.order = other.cursor.order)
    (query : Query) : (file.ask query).1 = (other.ask query).1 := by
  rw [ask_eq_outcome, ask_eq_outcome, source, image]
  exact (other.image.steady_answer query).settled _ _ _ order

/-- Each query of a sequence gets the answer it gets when it is the only one. -/
theorem askAll_eq_map (file : LibraryFile) (queries : List Query) :
    file.askAll queries = queries.map fun query => (file.ask query).1 := by
  induction queries generalizing file with
  | nil => rfl
  | cons query queries ih =>
      obtain ⟨sameSource, sameImage⟩ := file.ask_frame query
      have alike : ∀ other, ((file.ask query).2.ask other).1 = (file.ask other).1 :=
        ask_congr sameSource sameImage (file.order_ask query)
      rw [askAll_cons, ih, List.map_cons]
      simp only [alike]

end LibraryFile

end SharedObject
