import SharedObject.Proofs.Loader.Transfers
import SharedObject.Session.Step
import Mathlib.Algebra.BigOperators.Group.Finset.Basic

/-!
# Libraries accounted for

A session is in order when it keeps the libraries that have a holder, and every
image has as many references as there are libraries with its handle.  In the
middle of a step one reference may belong to no library yet, the `spare` one, and
some libraries may be kept without a holder, the `loose` ones.  Each operation
says how it moves the one and the other.
-/

namespace SharedObject

namespace Slots

section Libraries

variable (table : Slots Nat SharedLibrary) (number : Nat)

/-- The library of a number; one that is not kept counts as unloaded. -/
def libraryOf : SharedLibrary :=
  (table.get? number).getD .unloaded

/-- The numbers of the libraries of a table. -/
def numbers : Finset Nat :=
  table.keys.toFinset

/-- How many libraries of a table have the handle. -/
def total (handle : Handle) : Nat :=
  ∑ number ∈ table.numbers, share (table.libraryOf number).handle handle

theorem mem_numbers_iff :
    number ∈ table.numbers ↔ ∃ library, table.get? number = some library := by
  simp [numbers, mem_keys_iff]

theorem libraryOf_eq_unloaded (absent : number ∉ table.numbers) :
    table.libraryOf number = .unloaded := by
  rw [mem_numbers_iff] at absent
  rw [libraryOf, Option.eq_none_iff_forall_not_mem.mpr fun found member => absent ⟨found, member⟩]
  rfl

@[simp]
theorem numbers_put (library : SharedLibrary) :
    (table.put number library).numbers = insert number table.numbers := by
  ext other
  simp only [Finset.mem_insert, mem_numbers_iff, get?_put]
  by_cases same : other = number <;> simp [same]

theorem libraryOf_put (library : SharedLibrary) (other : Nat) :
    (table.put number library).libraryOf other =
      if other = number then library else table.libraryOf other := by
  by_cases same : other = number <;> simp [libraryOf, get?_put, same]

@[simp]
theorem numbers_erase : (table.erase number).numbers = table.numbers.erase number := by
  ext other
  simp only [Finset.mem_erase, mem_numbers_iff, get?_erase]
  by_cases same : other = number <;> simp [same]

theorem libraryOf_erase (other : Nat) :
    (table.erase number).libraryOf other =
      if other = number then .unloaded else table.libraryOf other := by
  by_cases same : other = number <;> simp [libraryOf, get?_erase, same]

theorem total_eq_add (handle : Handle) :
    table.total handle = share (table.libraryOf number).handle handle +
      ∑ other ∈ table.numbers.erase number, share (table.libraryOf other).handle handle := by
  by_cases member : number ∈ table.numbers
  · rw [total, ← Finset.add_sum_erase _ _ member]
  · rw [libraryOf_eq_unloaded table number member, Finset.erase_eq_of_notMem member, total]
    simp [SharedLibrary.unloaded]

/-- Only the library that is replaced makes a difference to the total. -/
theorem total_put (library : SharedLibrary) (handle : Handle) :
    (table.put number library).total handle + share (table.libraryOf number).handle handle =
      table.total handle + share library.handle handle := by
  have others : ∀ other ∈ table.numbers.erase number,
      share ((table.put number library).libraryOf other).handle handle =
        share (table.libraryOf other).handle handle := by
    intro other member
    rw [libraryOf_put, if_neg (Finset.ne_of_mem_erase member)]
  rw [total_eq_add _ number, total_eq_add table number, numbers_put, libraryOf_put,
    if_pos rfl, Finset.erase_insert_eq_erase, Finset.sum_congr rfl others]
  omega

theorem total_erase (handle : Handle) :
    (table.erase number).total handle + share (table.libraryOf number).handle handle =
      table.total handle := by
  have others : ∀ other ∈ table.numbers.erase number,
      share ((table.erase number).libraryOf other).handle handle =
        share (table.libraryOf other).handle handle := by
    intro other member
    rw [libraryOf_erase, if_neg (Finset.ne_of_mem_erase member)]
  rw [total_eq_add table number, total, numbers_erase, Finset.sum_congr rfl others]
  omega

end Libraries

end Slots

namespace Session

/-- The numbers of the libraries that have a holder. -/
def held (session : Session) : Finset Nat :=
  (session.librarySlots.values ++ session.symbolSlots.values.map (·.library)).toFinset

theorem mem_held_iff (session : Session) (number : Nat) :
    number ∈ session.held ↔
      (∃ slot, session.librarySlots.get? slot = some number) ∨
        ∃ slot symbol, session.symbolSlots.get? slot = some symbol ∧
          symbol.library = number := by
  simp only [held, List.mem_toFinset, List.mem_append, List.mem_map, Slots.mem_values_iff]
  aesop

theorem holders_eq_zero_iff (session : Session) (number : Nat) :
    session.holders number = 0 ↔ number ∉ session.held := by
  simp [holders, held, List.count_eq_zero]

/-- The calls made since the numbers of references were `start` replay to the
present ones, and these are the shares of the libraries and of `spare`.  A library
that is kept has a holder or is `loose`. -/
structure Accounted (start : Handle → Nat) (session : Session) (spare : Option Handle)
    (loose : Finset Nat) : Prop where
  replayed : Call.replay start session.loader.calls = some session.loader.references
  counted : ∀ handle, session.loader.references handle =
    session.libraries.total handle + share spare handle
  numbers_lt : ∀ number ∈ session.libraries.numbers, number < session.nextNumber
  held_subset : session.held ⊆ session.libraries.numbers
  numbers_subset : session.libraries.numbers ⊆ session.held ∪ loose

namespace Accounted

variable {start : Handle → Nat} {session : Session} {spare given kept : Option Handle}
variable {loose : Finset Nat} {closed : List Handle}

/-- The library of a number has the reference that its handle stands for. -/
theorem references_pos (accounted : Accounted start session spare loose) (number : Nat)
    {handle : Handle} (owned : (session.library number).handle = some handle) :
    0 < session.loader.references handle := by
  have counted := accounted.counted handle
  rw [session.libraries.total_eq_add number] at counted
  have own : share (session.libraries.libraryOf number).handle handle = 1 := if_pos owned
  omega

theorem replayed_exchange (accounted : Accounted start session spare loose) {after : Loader}
    (exchanged : Loader.Exchange given kept closed session.loader after) :
    Call.replay start after.calls = some after.references := by
  obtain ⟨calls, made, replayed, _⟩ := exchanged.replayed
  rw [made, Call.replay_append, accounted.replayed]
  exact replayed

theorem exchange (accounted : Accounted start session given loose) {after : Loader}
    (exchanged : Loader.Exchange given kept closed session.loader after) :
    Accounted start { session with loader := after } kept loose where
  replayed := accounted.replayed_exchange exchanged
  counted := by
    intro handle
    have balanced := exchanged.balanced handle
    have counted := accounted.counted handle
    dsimp only
    omega
  numbers_lt := accounted.numbers_lt
  held_subset := accounted.held_subset
  numbers_subset := accounted.numbers_subset

/-- A library put in the place of another may take a spare reference and leave one. -/
theorem put {library : SharedLibrary} (accounted : Accounted start session given loose)
    {number : Nat} (member : number ∈ session.libraries.numbers)
    (shares : ∀ handle, share (session.library number).handle handle + share given handle =
      share library.handle handle + share kept handle) :
    Accounted start { session with libraries := session.libraries.put number library } kept
      loose := by
  have same : (session.libraries.put number library).numbers = session.libraries.numbers := by
    simp [member]
  refine ⟨accounted.replayed, ?_, ?_, ?_, ?_⟩
  · intro handle
    have counted := accounted.counted handle
    have moved := session.libraries.total_put number library handle
    have exchanged := shares handle
    dsimp only [Session.library] at counted moved exchanged ⊢
    rw [Slots.libraryOf] at moved
    omega
  · rw [same]
    exact accounted.numbers_lt
  · rw [same]
    exact accounted.held_subset
  · rw [same]
    exact accounted.numbers_subset

/-- A library taken out of its place leaves its reference spare. -/
theorem takeOut (accounted : Accounted start session none loose) {number : Nat}
    (member : number ∈ session.libraries.numbers) :
    Accounted start
      { session with libraries := session.libraries.put number .unloaded }
      (session.library number).handle loose :=
  accounted.put member fun _ => Nat.add_comm _ _

/-- A library in its place exchanges the handle that it has. -/
theorem replace {library : SharedLibrary} (accounted : Accounted start session none loose)
    {number : Nat} (member : number ∈ session.libraries.numbers) {after : Loader}
    (exchanged : Loader.Exchange (session.library number).handle library.handle closed
      session.loader after) :
    Accounted start
      { session with loader := after, libraries := session.libraries.put number library } none
      loose := by
  have taken := (accounted.takeOut member).exchange exchanged
  have member' : number ∈ (session.libraries.put number .unloaded).numbers := by
    simp
  have back : Accounted start
      { session with
        loader := after
        libraries := (session.libraries.put number .unloaded).put number library } none loose :=
    taken.put member' fun handle => by simp [Session.library, SharedLibrary.unloaded]
  simpa using back

/-- A library gets the next number and has no holder yet. -/
theorem adopt {library : SharedLibrary}
    (accounted : Accounted start session library.handle loose) (system : System) :
    Accounted start (Running.adopt library system session).2 none
      (insert session.nextNumber loose) where
  replayed := accounted.replayed
  counted := by
    intro handle
    have counted := accounted.counted handle
    have moved := session.libraries.total_put session.nextNumber library handle
    have fresh : session.nextNumber ∉ session.libraries.numbers := fun member =>
      Nat.lt_irrefl _ (accounted.numbers_lt _ member)
    rw [Slots.libraryOf_eq_unloaded _ _ fresh] at moved
    simp only [SharedLibrary.unloaded, share_none] at moved ⊢
    dsimp only [Running.adopt, Running.run_modifyGet]
    omega
  numbers_lt := by
    intro number member
    simp only [Running.adopt, Running.run_modifyGet, Slots.numbers_put,
      Finset.mem_insert] at member ⊢
    rcases member with rfl | member
    · exact Nat.lt_succ_self _
    · exact Nat.lt_succ_of_lt (accounted.numbers_lt _ member)
  held_subset := by
    simp only [Running.adopt, Running.run_modifyGet, Slots.numbers_put]
    exact accounted.held_subset.trans (Finset.subset_insert _ _)
  numbers_subset := by
    simp only [Running.adopt, Running.run_modifyGet, Slots.numbers_put]
    intro number member
    rw [Finset.union_insert]
    exact Finset.insert_subset_insert _ accounted.numbers_subset member

/-- Other holders in the slots; they hold libraries that are kept. -/
theorem rehold (accounted : Accounted start session spare loose)
    {librarySlots : Slots String Nat} {symbolSlots : Slots String HeldSymbol}
    {others : Finset Nat}
    (within : ({ session with librarySlots, symbolSlots } : Session).held ⊆
      session.libraries.numbers)
    (covers : session.held ∪ loose ⊆
      ({ session with librarySlots, symbolSlots } : Session).held ∪ others) :
    Accounted start { session with librarySlots, symbolSlots } spare others where
  replayed := accounted.replayed
  counted := accounted.counted
  numbers_lt := accounted.numbers_lt
  held_subset := within
  numbers_subset := accounted.numbers_subset.trans covers

/-- The only library that may be without a holder is unloaded if it is. -/
theorem release (accounted : Accounted start session none loose) {number : Nat}
    (only : loose ⊆ {number}) (system : System) :
    Accounted start (Running.release number system session).2 none ∅ := by
  have held_of_ne : ∀ other ∈ session.libraries.numbers, other ≠ number →
      other ∈ session.held := by
    intro other member different
    rcases Finset.mem_union.mp (accounted.numbers_subset member) with isHeld | isLoose
    · exact isHeld
    · exact absurd (Finset.mem_singleton.mp (only isLoose)) different
  by_cases abandoned : session.holders number = 0
  · have unheld := (session.holders_eq_zero_iff number).mp abandoned
    have exchanged := (session.library number).transfers_unload system session.loader
      fun handle owned => accounted.references_pos number owned
    rw [Running.release_of_abandoned abandoned]
    refine ⟨accounted.replayed_exchange exchanged, ?_, ?_, ?_, ?_⟩
    · intro handle
      have counted := accounted.counted handle
      have erased := session.libraries.total_erase number handle
      have balanced := exchanged.balanced handle
      simp only [share_none, Session.library] at counted balanced ⊢
      rw [Slots.libraryOf] at erased
      omega
    · intro other member
      rw [Slots.numbers_erase] at member
      exact accounted.numbers_lt other (Finset.mem_of_mem_erase member)
    · intro other member
      rw [Slots.numbers_erase]
      refine Finset.mem_erase.mpr ⟨?_, accounted.held_subset member⟩
      rintro rfl
      exact unheld member
    · intro other member
      rw [Slots.numbers_erase] at member
      rw [Finset.union_empty]
      exact held_of_ne other (Finset.mem_of_mem_erase member) (Finset.ne_of_mem_erase member)
  · rw [Running.release_of_held abandoned]
    refine { accounted with numbers_subset := ?_ }
    intro other member
    rw [Finset.union_empty]
    by_cases same : other = number
    · rw [same]
      exact of_not_not fun unheld => abandoned ((session.holders_eq_zero_iff number).mpr unheld)
    · exact held_of_ne other member same

end Accounted

end Session

end SharedObject
