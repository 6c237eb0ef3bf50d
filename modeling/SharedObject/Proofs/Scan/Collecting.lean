import Mathlib.Data.List.Forall2
import SharedObject.Proofs.Scan.Steady

/-!
# What a traversal collects

The parts of a steady scan can all be run from the cursor that the scan itself starts
from.  A traversal of a list by a steady scan therefore collects what the scan answers,
from that one cursor, at the items of the list.
-/

namespace List

/-- What is left when repeated items are dropped is without repetition. -/
theorem nodup_eraseDups {α : Type} [BEq α] [LawfulBEq α] (items : List α) :
    items.eraseDups.Nodup := by
  cases items with
  | nil => simp
  | cons item items =>
      -- Only items that differ from the first one are kept after it.
      have others := nodup_eraseDups (items.filter fun other => !other == item)
      rw [List.eraseDups_cons]
      apply List.nodup_cons.mpr
      exact ⟨by simp, others⟩
termination_by items.length
decreasing_by
  have filtered := items.length_filter_le fun other => !other == item
  simp_wf
  omega

end List

namespace SharedObject

namespace Scan

variable {α β : Type} {source : Source} {cursor : Cursor}

/-- A scan that answers leaves the cursor where it was. -/
def Stays (scan : Scan α) : Prop :=
  ∀ source cursor value moved, scan source cursor = .ok value moved → moved = cursor

namespace Stays

theorem pure (value : α) : Stays (pure value) := by
  rintro source cursor _ _ ⟨⟩
  rfl

theorem fail (failure : Failure) : Stays (throw failure : Scan α) := by
  rintro source cursor value moved ⟨⟩

theorem bind {scan : Scan α} {next : α → Scan β} (first : Stays scan)
    (rest : ∀ value, Stays (next value)) : Stays (scan >>= next) := by
  intro source cursor value moved given
  obtain ⟨intermediate, between, answered, given⟩ := bind_ok.mp given
  have kept := rest intermediate source between value moved given
  exact kept.trans (first source cursor intermediate between answered)

theorem checkRange (region : Region) (offset extent : Nat) :
    Stays (checkRange region offset extent) := by
  intro source cursor value moved given
  exact (checkRange_ok.mp given).2.symm

theorem sum (first second : Nat) : Stays (sum first second) := by
  unfold Scan.sum
  split
  · exact pure _
  · exact fail _

theorem product (first second : Nat) : Stays (product first second) := by
  unfold Scan.product
  split
  · exact pure _
  · exact fail _

theorem difference (first second : Nat) : Stays (difference first second) := by
  unfold Scan.difference
  split
  · exact pure _
  · exact fail _

theorem findM? {test : α → Scan Bool} (each : ∀ item, Stays (test item)) (items : List α) :
    Stays (items.findM? test) := by
  induction items with
  | nil => exact pure _
  | cons item items ih =>
      apply (each item).bind
      intro found
      cases found with
      | true => exact pure _
      | false => exact ih

/-- What follows such a scan starts from the same cursor. -/
theorem outcome_bind_ok {scan : Scan α} (stays : Stays scan) {next : α → Scan β} {result : β}
    (given : outcome (scan >>= next) source cursor = .ok result) :
    ∃ value, outcome scan source cursor = .ok value ∧
      outcome (next value) source cursor = .ok result := by
  obtain ⟨moved, answered⟩ := exists_of_outcome_ok given
  obtain ⟨value, between, first, rest⟩ := bind_ok.mp answered
  obtain rfl := stays source cursor value between first
  exact ⟨value, outcome_of_ok first, outcome_of_ok rest⟩

end Stays

/-- What follows a scan starts from some cursor of the same byte order. -/
theorem KeepsOrder.outcome_bind_ok {scan : Scan α} (keeps : KeepsOrder scan)
    {next : α → Scan β} {result : β}
    (given : outcome (scan >>= next) source cursor = .ok result) :
    ∃ value moved, outcome scan source cursor = .ok value ∧ moved.order = cursor.order ∧
      outcome (next value) source moved = .ok result := by
  obtain ⟨last, answered⟩ := exists_of_outcome_ok given
  obtain ⟨value, moved, first, rest⟩ := bind_ok.mp answered
  exact ⟨value, moved, outcome_of_ok first, keeps.order_of_ok first, outcome_of_ok rest⟩

/-- What follows a steady scan may as well start from the cursor that the scan started
from. -/
theorem outcome_bind_ok {scan : Scan α} {next : α → Scan β} {result : β}
    (given : outcome (scan >>= next) source cursor = .ok result) (first : Steady scan)
    (rest : ∀ value, Steady (next value)) :
    ∃ value, outcome scan source cursor = .ok value ∧
      outcome (next value) source cursor = .ok result := by
  obtain ⟨value, moved, answered, sameOrder, given⟩ := first.keeps.outcome_bind_ok given
  exact ⟨value, answered, ((rest value).settled source cursor moved sameOrder.symm).trans given⟩

/-- The converse: the parts of a steady scan answer one after the other. -/
theorem outcome_bind_of_steady {scan : Scan α} {next : α → Scan β} {value : α}
    (answered : outcome scan source cursor = .ok value) (first : Steady scan)
    (rest : Steady (next value)) :
    outcome (scan >>= next) source cursor = outcome (next value) source cursor := by
  obtain ⟨moved, answered⟩ := exists_of_outcome_ok answered
  rw [outcome_bind_of_ok answered]
  exact rest.settled source moved cursor (first.keeps.order_of_ok answered)

theorem outcome_pure {value result : α} :
    outcome (pure value) source cursor = .ok result ↔ value = result :=
  Except.ok.injEq value result ▸ Iff.rfl

/-- A sum that is answered is the sum. -/
theorem outcome_sum {first second value : Nat}
    (given : outcome (sum first second) source cursor = .ok value) : first + second = value := by
  unfold sum at given
  split at given
  · exact outcome_pure.mp given
  · cases given

theorem steady_select {wanted : Bool} {scan : Scan α} (steady : Steady scan) :
    Steady (do if wanted then return some (← scan) else return none) := by
  cases wanted with
  | true => exact steady.bind fun value => .pure (some value)
  | false => exact .pure none

/-- A scan that is run only for what is wanted selects what it answers. -/
theorem outcome_select {wanted : Bool} {scan : Scan α} (value : α) :
    outcome (do if wanted then return some (← scan) else return none) source cursor =
      .ok (some value) ↔ wanted = true ∧ outcome scan source cursor = .ok value := by
  cases wanted with
  | false => simp [outcome]
  | true =>
      cases answered : scan source cursor with
      | ok found moved => simp [outcome, run_bind, answered]
      | error failure moved => simp [outcome, run_bind, answered]

section Traversals

variable {items : List α}

/-- A traversal that succeeds has succeeded at each item, in their order. -/
theorem outcome_mapM {function : α → Scan β} (each : ∀ item, Steady (function item))
    {values : List β} (given : outcome (items.mapM function) source cursor = .ok values) :
    List.Forall₂ (fun item value => outcome (function item) source cursor = .ok value)
      items values := by
  induction items generalizing values with
  | nil =>
      rw [List.mapM_nil, outcome_pure] at given
      subst given
      exact .nil
  | cons item items ih =>
      have rest := Steady.mapM each items
      rw [List.mapM_cons] at given
      obtain ⟨value, answered, given⟩ :=
        outcome_bind_ok given (each item) fun _ => rest.bind fun _ => .pure _
      obtain ⟨others, followed, given⟩ := outcome_bind_ok given rest fun _ => .pure _
      obtain rfl := outcome_pure.mp given
      exact .cons answered (ih followed)

/-- The values collected are those that the scan answers at the items. -/
theorem mem_mapM {function : α → Scan β} (each : ∀ item, Steady (function item))
    {values : List β} (given : outcome (items.mapM function) source cursor = .ok values)
    (value : β) :
    value ∈ values ↔ ∃ item ∈ items, outcome (function item) source cursor = .ok value := by
  have paired := outcome_mapM each given
  clear given
  induction paired with
  | nil => simp
  | cons answered others ih => simp [ih, answered, eq_comm]

/-- At no item of a traversal that succeeds has the scan failed. -/
theorem answer_of_mapM {function : α → Scan β} (each : ∀ item, Steady (function item))
    {values : List β} (given : outcome (items.mapM function) source cursor = .ok values)
    {item : α} (member : item ∈ items) :
    ∃ value ∈ values, outcome (function item) source cursor = .ok value := by
  have paired := outcome_mapM each given
  clear given
  induction paired with
  | nil => cases member
  | cons answered others ih =>
      rcases List.mem_cons.mp member with rfl | member
      · exact ⟨_, List.mem_cons_self, answered⟩
      · obtain ⟨value, collected, found⟩ := ih member
        exact ⟨value, List.mem_cons_of_mem _ collected, found⟩

/-- The values collected are those that the scan selects among the items. -/
theorem mem_filterMapM {function : α → Scan (Option β)} (each : ∀ item, Steady (function item))
    {values : List β} (given : outcome (items.filterMapM function) source cursor = .ok values)
    (value : β) :
    value ∈ values ↔
      ∃ item ∈ items, outcome (function item) source cursor = .ok (some value) := by
  induction items generalizing values with
  | nil =>
      rw [List.filterMapM_nil, outcome_pure] at given
      simp [← given]
  | cons item items ih =>
      have rest := Steady.filterMapM each items
      rw [List.filterMapM_cons] at given
      obtain ⟨found, answered, given⟩ := outcome_bind_ok given (each item) fun found => by
        cases found with
        | none => exact rest
        | some value => exact rest.bind fun _ => .pure _
      cases found with
      | none => simp [ih given, answered]
      | some first =>
          obtain ⟨others, followed, given⟩ := outcome_bind_ok given rest fun _ => .pure _
          obtain rfl := outcome_pure.mp given
          simp [ih followed, answered, eq_comm]

end Traversals

end Scan

end SharedObject
