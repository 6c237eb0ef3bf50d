import SharedObject.Proofs.Session.Change
import Mathlib.Algebra.BigOperators.Group.Finset.Piecewise

/-!
# Balance of opening and closing

After any steps every image has exactly as many references as there are live
libraries with its handle.  Images are closed only while they have a reference,
and once nothing is held any more they have been closed as often as opened.
-/

namespace SharedObject

namespace Session

/-- The live libraries with a handle. -/
def owners (session : Session) (handle : Handle) : Finset Nat :=
  session.held.filter fun number => (session.library number).handle = some handle

namespace Accounted

variable {start : Handle → Nat} {session : Session} {system : System}

theorem numbers_eq_held (accounted : Accounted start session none ∅) :
    session.libraries.numbers = session.held := by
  refine Finset.Subset.antisymm ?_ accounted.held_subset
  simpa using accounted.numbers_subset

/-- References and owners are the same in number. -/
theorem references_eq_card (accounted : Accounted start session none ∅) (handle : Handle) :
    session.loader.references handle = (session.owners handle).card := by
  rw [accounted.counted, share_none, Nat.add_zero, Slots.total, accounted.numbers_eq_held,
    owners, Finset.card_filter]
  rfl

/-- The calls made so far may be forgotten and counted from here. -/
theorem forgetCalls (accounted : Accounted start session none ∅) :
    Accounted session.loader.references session.forgetCalls none ∅ :=
  { accounted with replayed := rfl }

theorem releaseLost {lost : Option Nat} (accounted : Accounted start session none lost.toFinset) :
    Accounted start (lost.forM Running.release system session).2 none ∅ := by
  cases lost with
  | none => exact accounted
  | some number => exact accounted.release (by simp) system

theorem change {after : Session} {reloaded moved : Option Nat}
    (accounted : Accounted start session none ∅)
    (changed : Change system session reloaded moved after) : Accounted start after none ∅ := by
  cases changed with
  | loading exchanged => exact accounted.exchange exchanged
  | reloading own exchanged =>
      exact accounted.replace (accounted.held_subset (mem_held_of_own own)) exchanged
  | reholding exchanged reheld =>
      have shifted := accounted.exchange exchanged
      refine (shifted.rehold ?_ reheld.covers).releaseLost
      exact reheld.within.trans (by simpa using accounted.held_subset)
  | adopting exchanged reheld =>
      have adopted := (accounted.exchange exchanged).adopt system
      refine (adopted.rehold ?_ reheld.covers).releaseLost
      simp only [Running.adopt, Running.run_modifyGet, Slots.numbers_put]
      refine reheld.within.trans (Finset.union_subset ?_ (by simp))
      exact accounted.held_subset.trans (Finset.subset_insert _ _)
  | @moving slot number _ _ own reheld =>
      have taken := accounted.takeOut (accounted.held_subset (mem_held_of_own own))
      have adopted : Accounted start
          (Running.adopt (session.library number) system
            { session with libraries := session.libraries.put number .unloaded }).2
          none (insert session.nextNumber ∅) :=
        taken.adopt system
      refine (adopted.rehold ?_ reheld.covers).releaseLost
      refine reheld.within.trans (Finset.union_subset adopted.held_subset ?_)
      simp [Running.adopt]

theorem changeOfStep (accounted : Accounted start session none ∅) (system : System)
    (step : Step) :
    Change system session.forgetCalls (step.reloaded? session) (step.moved? session)
      (step.run system session.forgetCalls).2 :=
  change_run system session.forgetCalls step fun number _ => accounted.references_pos number

/-- A step keeps the account: what it calls replays to what it leaves. -/
theorem step (accounted : Accounted start session none ∅) (system : System) (step : Step) :
    Accounted session.loader.references (step.run system session.forgetCalls).2 none ∅ :=
  accounted.forgetCalls.change (accounted.changeOfStep system step)

/-- An action that keeps the account does so when it is repeated. -/
theorem forM {α : Type} {action : α → Running Unit} {system : System}
    (keeps : ∀ item (session : Session), Accounted start session none ∅ →
      Accounted start (action item system session).2 none ∅)
    (items : List α) (accounted : Accounted start session none ∅) :
    Accounted start (items.forM action system session).2 none ∅ := by
  induction items generalizing session with
  | nil => exact accounted
  | cons item items ih => exact ih (keeps item session accounted)

theorem dropSymbol (accounted : Accounted start session none ∅) (slot : String) :
    Accounted start (Running.dropSymbol slot system session).2 none ∅ :=
  accounted.change (.reholding (.refl session.loader) (reheld_dropSymbol session slot))

theorem dropLibrary (accounted : Accounted start session none ∅) (slot : String) :
    Accounted start (Running.dropLibrary slot system session).2 none ∅ :=
  accounted.change (.reholding (.refl session.loader) (reheld_dropLibrary session slot))

theorem dropAll (accounted : Accounted start session none ∅) :
    Accounted start (Running.dropAll system session).2 none ∅ :=
  (accounted.forM (fun slot _ kept => kept.dropSymbol slot) _).forM
    (fun slot _ kept => kept.dropLibrary slot) _

end Accounted

/-- A fresh session has nothing and has called nothing. -/
theorem accounted_start (pending : Option String) :
    Accounted (fun _ => 0) (start pending) none ∅ where
  replayed := rfl
  counted := fun _ => rfl
  numbers_lt := by simp [start, Slots.numbers, Slots.keys]
  held_subset := by simp [start, held, Slots.values]
  numbers_subset := by simp [start, Slots.numbers, Slots.keys]

/-- The calls of all steps replay from the references before them to those after. -/
theorem accounted_runSteps (system : System) {session : Session} {start : Handle → Nat}
    (accounted : Accounted start session none ∅) (steps : List Step) :
    (∃ last, Accounted last (runSteps system session steps).2 none ∅) ∧
      Call.replay session.loader.references
          ((runSteps system session steps).1.flatMap (·.2)) =
        some (runSteps system session steps).2.loader.references := by
  induction steps generalizing session start with
  | nil => exact ⟨⟨start, accounted⟩, rfl⟩
  | cons step steps ih =>
      have first := accounted.step system step
      obtain ⟨ended, others⟩ := ih first
      refine ⟨ended, ?_⟩
      simp only [runSteps_cons, List.flatMap_cons]
      rw [Call.replay_append, first.replayed]
      exact others

section Emptied

variable (system : System) (session : Session)

theorem slots_dropSymbol (slot : String) :
    (Running.dropSymbol slot system session).2.librarySlots = session.librarySlots ∧
      (Running.dropSymbol slot system session).2.symbolSlots = session.symbolSlots.erase slot :=
  Running.slots_forM_release _ system
    { session with symbolSlots := session.symbolSlots.erase slot }

theorem slots_dropLibrary (slot : String) :
    (Running.dropLibrary slot system session).2.librarySlots =
        session.librarySlots.erase slot ∧
      (Running.dropLibrary slot system session).2.symbolSlots = session.symbolSlots :=
  Running.slots_forM_release _ system
    { session with librarySlots := session.librarySlots.erase slot }

theorem get?_forM_dropSymbol (names : List String) (slot : String) :
    ((names.forM Running.dropSymbol) system session).2.symbolSlots.get? slot =
      if slot ∈ names then none else session.symbolSlots.get? slot := by
  induction names generalizing session with
  | nil => simp
  | cons name names ih =>
      have dropped := (slots_dropSymbol system session name).2
      have others := ih (Running.dropSymbol name system session).2
      rw [dropped, Slots.get?_erase] at others
      refine others.trans ?_
      grind

theorem get?_forM_dropLibrary (names : List String) (slot : String) :
    ((names.forM Running.dropLibrary) system session).2.librarySlots.get? slot =
        (if slot ∈ names then none else session.librarySlots.get? slot) ∧
      ((names.forM Running.dropLibrary) system session).2.symbolSlots =
        session.symbolSlots := by
  induction names generalizing session with
  | nil => simp
  | cons name names ih =>
      obtain ⟨dropped, untouched⟩ := slots_dropLibrary system session name
      have others := ih (Running.dropLibrary name system session).2
      rw [dropped, untouched, Slots.get?_erase] at others
      refine ⟨others.1.trans ?_, others.2⟩
      grind

/-- Nothing holds a library any more when all slots have been emptied. -/
theorem held_dropAll : (Running.dropAll system session).2.held = ∅ := by
  have symbols := get?_forM_dropSymbol system session session.symbolSlots.names
  have emptied : ∀ slot, (session.symbolSlots.names.forM Running.dropSymbol system
      session).2.symbolSlots.get? slot = none := by
    intro slot
    rw [symbols]
    split
    · rfl
    · exact Slots.get?_of_notMem_names _ ‹_›
  set between := (session.symbolSlots.names.forM Running.dropSymbol system session).2
  have libraries := get?_forM_dropLibrary system between between.librarySlots.names
  refine Finset.eq_empty_of_forall_notMem fun number member => ?_
  rcases (mem_held_iff _ number).mp member with ⟨slot, present⟩ | ⟨slot, symbol, present, _⟩
  · have gone := (libraries slot).1.symm.trans present
    split at gone
    · cases gone
    · rw [Slots.get?_of_notMem_names _ ‹_›] at gone
      cases gone
  · have gone := present
    rw [show (Running.dropAll system session).2.symbolSlots = between.symbolSlots from
      (libraries slot).2, emptied] at gone
    cases gone

end Emptied

end Session

/-- The calls of a session from its first step to its end. -/
def Transcript.calls (transcript : Transcript) : List Call :=
  transcript.steps.flatMap (·.2) ++ transcript.ending

namespace Session

/-- When a session has ended no image has a reference any more. -/
theorem replay_transcript (system : System) (pending : Option String) (steps : List Step) :
    Call.replay (fun _ => 0) (transcript system pending steps).calls = some fun _ => 0 := by
  obtain ⟨⟨last, accounted⟩, replayed⟩ :=
    accounted_runSteps system (accounted_start pending) steps
  set after := (runSteps system (start pending) steps).2
  have ended : Accounted after.loader.references
      (Running.dropAll system after.forgetCalls).2 none ∅ :=
    accounted.forgetCalls.dropAll
  have emptied : (Running.dropAll system after.forgetCalls).2.loader.references =
      fun _ => 0 := by
    funext handle
    rw [ended.references_eq_card, owners, held_dropAll]
    rfl
  have ending := ended.replayed
  rw [emptied] at ending
  calc
    Call.replay (fun _ => 0) (transcript system pending steps).calls
      = (Call.replay (fun _ => 0) ((runSteps system (start pending) steps).1.flatMap (·.2))).bind
          fun references => Call.replay references
            (Running.dropAll system after.forgetCalls).2.loader.calls :=
        Call.replay_append _ _ _
    _ = Call.replay after.loader.references
          (Running.dropAll system after.forgetCalls).2.loader.calls := by
        rw [show Call.replay (fun _ => 0) _ = some after.loader.references from replayed]
        rfl
    _ = some fun _ => 0 := ending

/-- After any steps an image has as many references as there are live libraries with
its handle.  It is closed only while it has a reference, and it has been closed as
often as opened when no library is held any more, which is so at the end. -/
theorem references_eq_card_owners (system : System) (pending : Option String)
    (steps : List Step) (handle : Handle) :
    let answers := (runSteps system (start pending) steps).1
    let after := (runSteps system (start pending) steps).2
    let calls := answers.flatMap (·.2)
    let allCalls := (transcript system pending steps).calls
    after.loader.references handle = (after.owners handle).card ∧
      Call.replay (fun _ => 0) calls = some after.loader.references ∧
      (∀ earlier left later, allCalls = earlier ++ .closed handle left :: later →
        earlier.countP (Call.opens handle) = earlier.countP (Call.closes handle) + left + 1) ∧
      (after.held = ∅ →
        calls.countP (Call.opens handle) = calls.countP (Call.closes handle)) ∧
      Call.replay (fun _ => 0) allCalls = some (fun _ => 0) ∧
      allCalls.countP (Call.opens handle) = allCalls.countP (Call.closes handle) := by
  intro answers after calls allCalls
  obtain ⟨⟨last, accounted⟩, replayed⟩ :=
    accounted_runSteps system (accounted_start pending) steps
  have counted : after.loader.references handle = (after.owners handle).card :=
    accounted.references_eq_card handle
  have ended : Call.replay (fun _ => 0) allCalls = some fun _ => 0 :=
    replay_transcript system pending steps
  refine ⟨counted, replayed, ?_, ?_, ended, ?_⟩
  · intro earlier left later isSplit
    rw [isSplit] at ended
    simpa using Call.replay_closed ended
  · intro emptied
    have balanced := Call.replay_count replayed handle
    have noOwner : (after.owners handle).card = 0 := by
      rw [owners, emptied]
      rfl
    change after.loader.references handle + calls.countP _ = 0 + calls.countP _ at balanced
    omega
  · have balanced := Call.replay_count ended handle
    omega

/-- A system where nothing but the running program can be opened, image 0. -/
def programOnly : System where
  program := none
  fileExists := fun _ => false
  canonical := fun _ => none
  opening := fun target => if target.isNone then .ok ⟨0⟩ else .error none
  symbol := fun _ _ => .ok (.memory (.object 7))
  linkMap := fun _ => .present none
  closing := fun _ => none
  modules := []
  memory := 0

/-- The running program is opened once and closed once. -/
theorem references_eq_card_owners_dropped :
    let steps := [.openSelf "program" .empty, .drop "program"]
    let after := (runSteps programOnly (start none) steps).2
    let calls := (runSteps programOnly (start none) steps).1.flatMap (·.2)
    after.held = ∅ ∧
      (transcript programOnly none steps).calls =
        [.opened none 1 (some ⟨0⟩)] ++ .closed ⟨0⟩ 0 :: [] ∧
      [Call.opened none 1 (some ⟨0⟩)].countP (Call.opens ⟨0⟩) =
        [Call.opened none 1 (some ⟨0⟩)].countP (Call.closes ⟨0⟩) + 0 + 1 ∧
      calls.countP (Call.opens ⟨0⟩) = calls.countP (Call.closes ⟨0⟩) := by
  intro steps after calls
  obtain ⟨_, _, closedAfterOpened, balanced, _⟩ :=
    references_eq_card_owners programOnly none steps ⟨0⟩
  have emptied : after.held = ∅ := by decide
  have allCalls : (transcript programOnly none steps).calls =
      [.opened none 1 (some ⟨0⟩)] ++ .closed ⟨0⟩ 0 :: [] := by decide +kernel
  exact ⟨emptied, allCalls, closedAfterOpened _ _ _ allCalls, balanced emptied⟩

end Session

end SharedObject
