import SharedObject.Proofs.Session.Balance

/-!
# Libraries through steps

A library keeps its number, or gets the next one when it is moved, and it keeps
its handle until it is loaded or unloaded or loses its last holder.  The step that
takes the last holder closes that handle and no other.  A number is not given out
again.
-/

namespace SharedObject

/-- The number that a library has after a step. -/
def Step.successor (step : Step) (session : Session) (number : Nat) : Nat :=
  if step.moved? session = some number then session.nextNumber else number

theorem Loader.Exchange.closed_eq {given kept : Option Handle} {closed : List Handle}
    {before after : Loader} (exchanged : Exchange given kept closed before after) :
    after.calls.filterMap Call.closedHandle? =
      before.calls.filterMap Call.closedHandle? ++ closed := by
  obtain ⟨calls, made, _, closes⟩ := exchanged.replayed
  rw [made, List.filterMap_append, closes]

theorem SharedLibrary.closed_unload (library : SharedLibrary) (system : System)
    (loader : Loader) :
    (library.unload system loader).2.calls.filterMap Call.closedHandle? =
      loader.calls.filterMap Call.closedHandle? ++ library.handle.toList := by
  obtain ⟨owned⟩ := library
  cases owned with
  | none => simp [unload]
  | some handle =>
      simp [unload, Loading.record, Loading.close_run, Call.closedHandle?]

namespace Session

/-- What becomes of a library with a handle: it is kept with that handle under a
number, or nothing holds it any more and just this handle has been closed. -/
def KeptOrClosed (handle : Option Handle) (number : Nat) (after : Session) : Prop :=
  (number ∈ after.held ∧ (after.library number).handle = handle) ∨
    (number ∉ after.held ∧ after.loader.calls.filterMap Call.closedHandle? = handle.toList)

variable {system : System} {before after : Session} {number : Nat}

theorem held_forM_release (lost : Option Nat) (system : System) (session : Session) :
    (lost.forM Running.release system session).2.held = session.held := by
  obtain ⟨libraries, symbols⟩ := Running.slots_forM_release lost system session
  rw [held, held, libraries, symbols]

/-- A library that is held is not let go of. -/
theorem library_forM_release {session : Session} (isHeld : number ∈ session.held)
    (lost : Option Nat) (system : System) :
    (lost.forM Running.release system session).2.library number = session.library number := by
  cases lost with
  | none => rfl
  | some other =>
      by_cases abandoned : session.holders other = 0
      · have different : number ≠ other := by
          rintro rfl
          exact (session.holders_eq_zero_iff number).mp abandoned isHeld
        simp [Option.forM, Running.release_of_abandoned abandoned, library, Slots.get?_erase,
          different]
      · simp [Option.forM, Running.release_of_held abandoned]

/-- Of the libraries held before, only the one let go of may be closed. -/
theorem keptOrClosed_forM_release {handle : Option Handle} {lost : Option Nat}
    {session : Session} (quiet : session.loader.calls.filterMap Call.closedHandle? = [])
    (owned : (session.library number).handle = handle)
    (covered : number ∈ session.held ∪ lost.toFinset) :
    KeptOrClosed handle number (lost.forM Running.release system session).2 := by
  subst owned
  rw [KeptOrClosed, held_forM_release]
  by_cases isHeld : number ∈ session.held
  · exact Or.inl ⟨isHeld, by rw [library_forM_release isHeld]⟩
  · obtain rfl : lost = some number := by
      simpa [isHeld] using covered
    have abandoned := (session.holders_eq_zero_iff number).mpr isHeld
    refine Or.inr ⟨isHeld, ?_⟩
    simp [Option.forM, Running.release_of_abandoned abandoned,
      SharedLibrary.closed_unload, quiet]

namespace Change

variable {reloaded moved : Option Nat}

theorem nextNumber_forM_release (lost : Option Nat) (system : System) (session : Session) :
    (lost.forM Running.release system session).2.nextNumber = session.nextNumber := by
  cases lost with
  | none => rfl
  | some number =>
      by_cases abandoned : session.holders number = 0
      · simp [Option.forM, Running.release_of_abandoned abandoned]
      · simp [Option.forM, Running.release_of_held abandoned]

/-- The number that a library has after a change was given out before or by it. -/
theorem successor_lt (changed : Change system before reloaded moved after)
    (given : number < before.nextNumber) :
    (if moved = some number then before.nextNumber else number) < after.nextNumber := by
  cases changed with
  | loading | reloading => simpa using given
  | reholding =>
      rw [nextNumber_forM_release]
      simpa using given
  | adopting =>
      rw [nextNumber_forM_release]
      simpa using Nat.lt_succ_of_lt given
  | moving =>
      rw [nextNumber_forM_release]
      split
      · exact Nat.lt_succ_self _
      · exact Nat.lt_succ_of_lt given

/-- Only a library that is held is moved. -/
theorem moved_ne (changed : Change system before reloaded moved after)
    (gone : number ∉ before.held) : moved ≠ some number := by
  cases changed with
  | moving own reheld =>
      rintro same
      exact gone (Option.some.inj same ▸ mem_held_of_own own)
  | _ => exact nofun

/-- A number that is not held any more never is again. -/
theorem notMem_held (changed : Change system before reloaded moved after)
    (given : number < before.nextNumber) (gone : number ∉ before.held) :
    number ∉ after.held := by
  have different : number ≠ before.nextNumber := Nat.ne_of_lt given
  cases changed with
  | loading | reloading => exact gone
  | reholding exchanged reheld =>
      rw [held_forM_release]
      exact fun isHeld => gone (by simpa using reheld.within isHeld)
  | adopting exchanged reheld =>
      rw [held_forM_release]
      exact fun isHeld => gone (by simpa [different] using reheld.within isHeld)
  | moving own reheld =>
      rw [held_forM_release]
      exact fun isHeld => gone (by simpa [different] using reheld.within isHeld)

/-- A library that is held and not loaded or unloaded is kept, under its new number
if it is moved, or it is closed. -/
theorem keptOrClosed (changed : Change system before reloaded moved after)
    (given : number < before.nextNumber) (isHeld : number ∈ before.held)
    (untouched : reloaded ≠ some number) (quiet : before.loader.calls = []) :
    KeptOrClosed (before.library number).handle
      (if moved = some number then before.nextNumber else number) after := by
  have different : number ≠ before.nextNumber := Nat.ne_of_lt given
  cases changed with
  | loading => exact Or.inl ⟨isHeld, rfl⟩
  | @reloading _ other _ _ _ own exchanged =>
      have apart : number ≠ other := fun same => untouched (by rw [same])
      exact Or.inl ⟨isHeld, by simp [library, Slots.get?_put, apart]⟩
  | reholding exchanged reheld =>
      refine keptOrClosed_forM_release ?_ rfl (reheld.covers (Finset.mem_union_left _ isHeld))
      rw [exchanged.closed_eq, quiet]
      rfl
  | adopting exchanged reheld =>
      refine keptOrClosed_forM_release ?_ ?_ (reheld.covers (Finset.mem_union_left _ isHeld))
      · rw [exchanged.closed_eq, quiet]
        rfl
      · simp [library, Slots.get?_put, different]
  | @moving _ other _ _ own reheld =>
      have silent : before.loader.calls.filterMap Call.closedHandle? = [] := by
        rw [quiet]
        rfl
      by_cases isMoved : number = other
      · subst isMoved
        rw [if_pos rfl]
        refine keptOrClosed_forM_release silent ?_
          (reheld.covers (Finset.mem_union_right _ (Finset.mem_singleton_self _)))
        simp [library]
      · rw [if_neg (fun same => isMoved (Option.some.inj same).symm)]
        refine keptOrClosed_forM_release silent ?_
          (reheld.covers (Finset.mem_union_left _ isHeld))
        simp [library, Slots.get?_put, different, isMoved]

end Change

end Session

end SharedObject
