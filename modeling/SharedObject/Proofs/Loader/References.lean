import SharedObject.Import
import Mathlib.Logic.Function.Basic

/-!
# References to images

The calls made to a loader determine how many references each image has.
`replay` computes the numbers from the calls alone and fails at a call that
closes an image without a reference.  Every operation makes calls that replay
to the numbers the loader keeps, and exchanges at most one reference that it is
given for at most one that goes with its result.
-/

namespace SharedObject

namespace Call

/-- Whether a call gave a reference to the image of a handle. -/
def opens (handle : Handle) : Call → Bool
  | .opened _ _ found => found == some handle
  | .lookedUp _ _ _ | .closed _ _ => false

/-- Whether a call took a reference to the image of a handle. -/
def closes (handle : Handle) : Call → Bool
  | .closed given _ => given == handle
  | .opened _ _ _ | .lookedUp _ _ _ => false

/-- The handle that a call closed. -/
def closedHandle? : Call → Option Handle
  | .closed handle _ => some handle
  | .opened _ _ _ | .lookedUp _ _ _ => none

/-- The numbers of references after a call.  A call that closes an image needs a
reference to take and has to say how many are left. -/
def effect (references : Handle → Nat) : Call → Option (Handle → Nat)
  | .opened _ _ (some handle) =>
      some (Function.update references handle (references handle + 1))
  | .opened _ _ none | .lookedUp _ _ _ => some references
  | .closed handle left =>
      if references handle = left + 1 then some (Function.update references handle left)
      else none

/-- The numbers of references after calls made one after the other. -/
def replay (references : Handle → Nat) (calls : List Call) : Option (Handle → Nat) :=
  calls.foldlM effect references

@[simp]
theorem replay_nil (references : Handle → Nat) : replay references [] = some references :=
  rfl

theorem replay_append (references : Handle → Nat) (first second : List Call) :
    replay references (first ++ second) =
      (replay references first).bind fun between => replay between second :=
  List.foldlM_append

theorem effect_count {references after : Handle → Nat} {call : Call}
    (taken : effect references call = some after) (handle : Handle) :
    after handle + [call].countP (closes handle) =
      references handle + [call].countP (opens handle) := by
  cases call with
  | opened target flags found =>
      cases found with
      | none =>
          cases taken
          simp [opens, closes]
      | some found =>
          cases taken
          by_cases same : handle = found
          · simp [opens, closes, same]
          · simp [opens, closes, same, Ne.symm same]
  | lookedUp found name present =>
      cases taken
      simp [opens, closes]
  | closed given left =>
      simp only [effect, Option.ite_none_right_eq_some, Option.some.injEq] at taken
      obtain ⟨counted, rfl⟩ := taken
      by_cases same : handle = given
      · simp [opens, closes, same, counted]
      · simp [opens, closes, same, Ne.symm same]

/-- Calls that can be replayed open an image as often as they close it, but for
the references that it has gained. -/
theorem replay_count {references after : Handle → Nat} {calls : List Call}
    (replayed : replay references calls = some after) (handle : Handle) :
    after handle + calls.countP (closes handle) =
      references handle + calls.countP (opens handle) := by
  induction calls generalizing references with
  | nil =>
      cases replayed
      simp
  | cons call calls ih =>
      obtain ⟨between, taken, rest⟩ := Option.bind_eq_some_iff.mp replayed
      have first := effect_count taken handle
      have others := ih rest
      rw [← List.singleton_append, List.countP_append, List.countP_append]
      omega

/-- Calls that can be replayed close an image only while it has a reference. -/
theorem replay_closed {references after : Handle → Nat} {earlier later : List Call}
    {handle : Handle} {left : Nat}
    (replayed : replay references (earlier ++ .closed handle left :: later) = some after) :
    references handle + earlier.countP (opens handle) =
      earlier.countP (closes handle) + left + 1 := by
  rw [replay_append] at replayed
  obtain ⟨between, before, rest⟩ := Option.bind_eq_some_iff.mp replayed
  obtain ⟨next, taken, _⟩ := Option.bind_eq_some_iff.mp rest
  simp only [effect, Option.ite_none_right_eq_some] at taken
  have counted := replay_count before handle
  omega

end Call

/-- How many references an owner of at most one handle has to an image. -/
def share (owned : Option Handle) (handle : Handle) : Nat :=
  if owned = some handle then 1 else 0

@[simp]
theorem share_none (handle : Handle) : share none handle = 0 := rfl

@[simp]
theorem share_self (handle : Handle) : share (some handle) handle = 1 := if_pos rfl

/-- One loader comes from another by calls that can be replayed and that close the
handles `closed`, a reference to `given` exchanged for one to `kept`. -/
structure Loader.Exchange (given kept : Option Handle) (closed : List Handle)
    (before after : Loader) : Prop where
  replayed : ∃ calls, after.calls = before.calls ++ calls ∧
    Call.replay before.references calls = some after.references ∧
    calls.filterMap Call.closedHandle? = closed
  balanced : ∀ handle, after.references handle + share given handle =
    before.references handle + share kept handle

namespace Loader.Exchange

variable {given middle kept : Option Handle} {closed first second : List Handle}
variable {before between after : Loader}

/-- Calls that leave every number of references as it is exchange nothing. -/
theorem of_references_eq (calls : List Call) (made : after.calls = before.calls ++ calls)
    (harmless : Call.replay before.references calls = some before.references)
    (openEnded : calls.filterMap Call.closedHandle? = [])
    (unchanged : after.references = before.references) :
    Exchange given given [] before after where
  replayed := ⟨calls, made, by rw [unchanged]; exact harmless, openEnded⟩
  balanced := by
    intro handle
    rw [unchanged]

theorem refl (loader : Loader) : Exchange given given [] loader loader :=
  of_references_eq [] (by simp) rfl rfl rfl

theorem trans (earlier : Exchange given middle first before between)
    (later : Exchange middle kept second between after) :
    Exchange given kept (first ++ second) before after where
  replayed := by
    obtain ⟨earlierCalls, earlierMade, earlierReplayed, earlierClosed⟩ := earlier.replayed
    obtain ⟨laterCalls, laterMade, laterReplayed, laterClosed⟩ := later.replayed
    refine ⟨earlierCalls ++ laterCalls, ?_, ?_, ?_⟩
    · rw [laterMade, earlierMade, List.append_assoc]
    · rw [Call.replay_append, earlierReplayed]
      exact laterReplayed
    · rw [List.filterMap_append, earlierClosed, laterClosed]
  balanced := by
    intro handle
    have earlierBalanced := earlier.balanced handle
    have laterBalanced := later.balanced handle
    omega

/-- An image whose reference has been handed on still has it. -/
theorem references_pos (exchange : Exchange given kept closed before after)
    (covered : ∀ handle, given = some handle → 0 < before.references handle)
    (handle : Handle) (owned : kept = some handle) : 0 < after.references handle := by
  have balanced := exchange.balanced handle
  by_cases same : given = some handle
  · have positive := covered handle same
    rw [same, owned] at balanced
    omega
  · rw [owned, share_self, share, if_neg same] at balanced
    omega

end Loader.Exchange

namespace Loading

variable {α β : Type}

/-- An operation that is given a reference to `given`, closes the handles `closed`
and leaves a reference to what `kept` says of its result. -/
def Transfers (operation : Loading α) (given : Option Handle) (kept : α → Option Handle)
    (closed : List Handle) : Prop :=
  ∀ (system : System) (loader : Loader),
    (∀ handle, given = some handle → 0 < loader.references handle) →
      Loader.Exchange given (kept (operation system loader).1) closed loader
        (operation system loader).2

namespace Transfers

variable {given : Option Handle}

theorem pure {kept : α → Option Handle} {value : α} (keeps : kept value = given) :
    Transfers (pure value) given kept [] := by
  subst keeps
  exact fun _ loader _ => .refl loader

theorem bind {operation : Loading α} {next : α → Loading β} {middle : α → Option Handle}
    {kept : β → Option Handle} {first second : List Handle}
    (earlier : Transfers operation given middle first)
    (later : ∀ value, Transfers (next value) (middle value) kept second) :
    Transfers (operation >>= next) given kept (first ++ second) := by
  intro system loader covered
  have exchange := earlier system loader covered
  exact exchange.trans (later _ system _ (exchange.references_pos covered))

/-- An operation without closing calls may be followed by any other. -/
theorem bind_nil {operation : Loading α} {next : α → Loading β} {middle : α → Option Handle}
    {kept : β → Option Handle} {closed : List Handle}
    (earlier : Transfers operation given middle [])
    (later : ∀ value, Transfers (next value) (middle value) kept closed) :
    Transfers (operation >>= next) given kept closed :=
  earlier.bind later

theorem read : Transfers read given (fun _ => given) [] :=
  fun _ loader _ => .refl loader

end Transfers

end Loading

end SharedObject
