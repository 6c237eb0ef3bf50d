import SharedObject.Proofs.Scan.Reading
import SharedObject.Scan.Name

/-!
# Scans without defects

A scan is free of defects when it either gives an answer or stops with an error
to be reported.  What is known of the answer of one scan is what the next one
relies on; the cursor never matters.
-/

namespace SharedObject

namespace Scan

variable {α β : Type} {source : Source}

/-- From every cursor, the scan of a source stops with no defect, and its answer
satisfies `holds`. -/
def Ensures (source : Source) (scan : Scan α) (holds : α → Prop) : Prop :=
  ∀ cursor, match scan source cursor with
    | .ok value _ => holds value
    | .error failure _ => ∃ error, failure = .reported error

namespace Ensures

variable {scan : Scan α} {next : α → Scan β} {holds weaker : α → Prop} {after : β → Prop}

theorem mono (ensures : Ensures source scan holds) (weaken : ∀ value, holds value → weaker value) :
    Ensures source scan weaker := by
  intro cursor
  have ensured := ensures cursor
  cases result : scan source cursor with
  | ok value moved =>
      rw [result] at ensured
      exact weaken value ensured
  | error failure moved =>
      rw [result] at ensured
      exact ensured

theorem of_ok {cursor moved : Cursor} {value : α} (ensures : Ensures source scan holds)
    (given : scan source cursor = .ok value moved) : holds value := by
  have ensured := ensures cursor
  rw [given] at ensured
  exact ensured

theorem of_error {cursor moved : Cursor} {failure : Failure}
    (ensures : Ensures source scan holds)
    (stopped : scan source cursor = .error failure moved) (defect : Defect) :
    failure ≠ .defect defect := by
  have ensured := ensures cursor
  rw [stopped] at ensured
  obtain ⟨error, rfl⟩ := ensured
  exact nofun

theorem trivial (ensures : Ensures source scan holds) :
    Ensures source scan fun _ => True :=
  ensures.mono fun _ _ => .intro

theorem pure {value : α} (held : holds value) : Ensures source (pure value) holds :=
  fun _ => held

theorem report (error : Error) : Ensures source (throw (.reported error) : Scan α) holds :=
  fun _ => ⟨error, rfl⟩

theorem malformed (cause : Malformed) : Ensures source (malformed cause : Scan α) holds :=
  report (.malformedBinary cause)

theorem bind (first : Ensures source scan holds)
    (rest : ∀ value, holds value → Ensures source (next value) after) :
    Ensures source (scan >>= next) after := by
  intro cursor
  have ensured := first cursor
  rw [run_bind]
  cases result : scan source cursor with
  | ok value moved =>
      rw [result] at ensured
      exact rest value ensured moved
  | error failure moved =>
      rw [result] at ensured
      exact ensured

theorem recover {fallback : α} (ensures : Ensures source scan holds) (held : holds fallback) :
    Ensures source (recover scan fallback) holds := by
  intro cursor
  have ensured := ensures cursor
  rw [run_recover]
  cases result : scan source cursor with
  | ok value moved =>
      rw [result] at ensured
      exact ensured
  | error failure moved =>
      rw [result] at ensured
      obtain ⟨error, rfl⟩ := ensured
      exact held

theorem mapM {items : List β} {function : β → Scan α}
    (each : ∀ item ∈ items, Ensures source (function item) holds) :
    Ensures source (items.mapM function)
      fun values => values.length = items.length ∧ ∀ value ∈ values, holds value := by
  induction items with
  | nil => exact pure ⟨rfl, by simp⟩
  | cons item items ih =>
      rw [List.mapM_cons]
      refine (each item (List.mem_cons_self ..)).bind fun value held => ?_
      have others := ih fun other member => each other (List.mem_cons_of_mem _ member)
      refine others.bind fun values known => pure ⟨?_, ?_⟩
      · simp [known.1]
      · intro other member
        rcases List.mem_cons.mp member with rfl | member
        · exact held
        · exact known.2 other member

/-- As many answers as items, when nothing else is asked of them. -/
theorem mapM_length {items : List β} {function : β → Scan α}
    (each : ∀ item ∈ items, Ensures source (function item) fun _ => True) :
    Ensures source (items.mapM function) fun values => values.length = items.length :=
  (mapM each).mono fun _ known => known.1

theorem filterMapM {items : List β} {function : β → Scan (Option α)}
    (each : ∀ item ∈ items, Ensures source (function item) fun _ => True) :
    Ensures source (items.filterMapM function) fun _ => True := by
  induction items with
  | nil => exact pure .intro
  | cons item items ih =>
      rw [List.filterMapM_cons]
      refine (each item (List.mem_cons_self ..)).bind fun value _ => ?_
      have others := ih fun other member => each other (List.mem_cons_of_mem _ member)
      cases value with
      | none => exact others
      | some value => exact others.bind fun _ _ => pure .intro

theorem findM? {items : List α} {test : α → Scan Bool}
    (each : ∀ item ∈ items, Ensures source (test item) fun found => found = true → holds item) :
    Ensures source (items.findM? test) fun found => ∀ item, found = some item → holds item := by
  induction items with
  | nil => exact pure nofun
  | cons item items ih =>
      refine (each item (List.mem_cons_self ..)).bind fun found known => ?_
      cases found with
      | true =>
          refine pure fun other same => ?_
          cases same
          exact known rfl
      | false => exact ih fun other member => each other (List.mem_cons_of_mem _ member)

theorem findM?_trivial {items : List α} {test : α → Scan Bool}
    (each : ∀ item ∈ items, Ensures source (test item) fun _ => True) :
    Ensures source (items.findM? test) fun _ => True := by
  have found : Ensures source (items.findM? test) fun found =>
      ∀ item, found = some item → True :=
    findM? fun item member => (each item member).mono fun _ _ _ => .intro
  exact found.trivial

end Ensures

section Primitives

theorem ensures_size : Ensures source size (· = source.size) :=
  fun _ => rfl

theorem ensures_setOrder (order : ByteOrder) :
    Ensures source (setOrder order) fun _ => True :=
  fun _ => .intro

theorem ensures_refuseIf (wrong : Prop) [Decidable wrong] (cause : Malformed) :
    Ensures source (refuseIf wrong cause) fun _ => ¬ wrong := by
  unfold refuseIf
  split
  · exact .malformed cause
  · exact .pure ‹_›

theorem ensures_seek (offset : Nat) :
    Ensures source (seek offset) fun _ => offset ≤ source.size := by
  intro cursor
  rw [run_seek]
  by_cases outside : source.size < offset
  · rw [if_pos outside]
    exact ⟨_, rfl⟩
  · rw [if_neg outside]
    exact Nat.le_of_not_lt outside

theorem ensures_checkRange (region : Region) (offset extent : Nat) :
    Ensures source (checkRange region offset extent) fun _ => offset + extent ≤ source.size := by
  intro cursor
  rw [run_checkRange]
  by_cases outside : source.size < offset + extent
  · rw [if_pos outside]
    exact ⟨_, rfl⟩
  · rw [if_neg outside]
    exact Nat.le_of_not_lt outside

theorem ensures_readCall (wanted : Nat) :
    Ensures source (readCall wanted) fun _ => True := by
  intro cursor
  rw [run_readCall]
  cases source.serve cursor.position wanted with
  | error text => exact ⟨_, rfl⟩
  | ok bytes =>
      cases bytes with
      | nil => exact ⟨_, rfl⟩
      | cons byte bytes => exact .intro

theorem ensures_readWithin (calls count : Nat) :
    Ensures source (readWithin calls count) fun _ => True := by
  induction calls generalizing count with
  | zero =>
      cases count with
      | zero => exact .pure .intro
      | succ count => exact .malformed _
  | succ calls ih =>
      cases count with
      | zero => exact .pure .intro
      | succ count =>
          refine (ensures_readCall _).bind fun bytes _ => ?_
          exact (ih _).bind fun _ _ => .pure .intro

theorem ensures_take (count : Nat) :
    Ensures source (take count) fun bytes => bytes.length = count := by
  intro cursor
  have always : Ensures source (take count) fun _ => True := ensures_readWithin count count
  have ensured := always cursor
  cases result : take count source cursor with
  | ok bytes moved => exact (take_ok result).2
  | error failure moved =>
      rw [result] at ensured
      exact ensured

theorem ensures_leading (most : Nat) :
    Ensures source (leading most) fun bytes => bytes.length = min source.size most := by
  refine (ensures_seek 0).bind fun _ _ => ?_
  refine ensures_size.bind fun length same => ?_
  subst same
  exact ensures_take _

theorem ensures_number (count : Nat) : Ensures source (number count) fun _ => True := by
  refine (ensures_take count).bind fun bytes _ => ?_
  intro cursor
  exact .intro

theorem ensures_u8 : Ensures source u8 fun _ => True :=
  (ensures_number 1).bind fun _ _ => .pure .intro

theorem ensures_u16 : Ensures source u16 fun _ => True :=
  (ensures_number 2).bind fun _ _ => .pure .intro

theorem ensures_u32 : Ensures source u32 fun _ => True :=
  (ensures_number 4).bind fun _ _ => .pure .intro

theorem ensures_u64 : Ensures source u64 fun _ => True :=
  (ensures_number 8).bind fun _ _ => .pure .intro

theorem ensures_word (width : Width) : Ensures source (word width) fun _ => True := by
  cases width with
  | bits32 => exact ensures_u32.bind fun _ _ => .pure .intro
  | bits64 => exact ensures_u64

theorem offsetBound_eq : offsetBound = 2 ^ 64 :=
  rfl

theorem ensures_sum {first second : Nat} (small : first + second < 2 ^ 64) :
    Ensures source (sum first second) (· = first + second) := by
  rw [sum, offsetBound_eq, if_pos small]
  exact .pure rfl

theorem ensures_product {first second : Nat} (small : first * second < 2 ^ 64) :
    Ensures source (product first second) (· = first * second) := by
  rw [product, offsetBound_eq, if_pos small]
  exact .pure rfl

theorem ensures_difference {first second : Nat} (le : second ≤ first) :
    Ensures source (difference first second) (· = first - second) := by
  rw [difference, if_pos le]
  exact .pure rfl

theorem ensures_divide (dividend : Nat) {divisor : Nat} (positive : 0 < divisor) :
    Ensures source (divide dividend divisor)
      (· = (dividend / divisor, dividend % divisor)) := by
  rw [divide, if_neg (Nat.ne_of_gt positive)]
  exact .pure rfl

/-- The offset of an entry is in bounds when that of the entry after it is. -/
theorem ensures_entryOffset {table index count stride : Nat} (indexLt : index < count)
    (small : table + count * stride < 2 ^ 64) :
    Ensures source (entryOffset table index stride) (· = table + index * stride) := by
  have inside : index * stride ≤ count * stride :=
    Nat.mul_le_mul_right stride (Nat.le_of_lt indexLt)
  refine (ensures_product (by omega)).bind fun distance same => ?_
  subst same
  exact ensures_sum (by omega)

theorem ensures_item {table : Array α} {index : Nat} (indexLt : index < table.size) :
    Ensures source (item table index) fun _ => True := by
  rw [item, Array.getElem?_eq_getElem indexLt]
  exact .pure .intro

theorem ensures_front {items : List α} {count : Nat} (le : count ≤ items.length) :
    Ensures source (front items count) (· = items.take count) := by
  rw [front, if_pos le]
  exact .pure rfl

theorem ensures_paddedName (field : List UInt8) :
    Ensures source (paddedName field) fun _ => True :=
  (ensures_front List.findIdx_le_length).bind fun _ _ => .pure .intro

theorem ensures_bytesBeforeNul (taken : List UInt8) (limit : Nat) :
    Ensures source (bytesBeforeNul taken limit) fun _ => True := by
  induction limit generalizing taken with
  | zero => exact .pure .intro
  | succ limit ih =>
      refine ensures_u8.bind fun byte _ => ?_
      split
      · exact .pure .intro
      · exact ih _

theorem ensures_nameAt (offset tableEnd : Nat) :
    Ensures source (nameAt offset tableEnd) fun _ => True := by
  refine ensures_size.bind fun length _ => ?_
  refine (ensures_refuseIf _ _).bind fun _ _ => ?_
  refine (ensures_seek offset).bind fun _ _ => ?_
  refine (ensures_bytesBeforeNul _ _).bind fun found _ => ?_
  cases found with
  | none => exact .malformed _
  | some bytes => exact .pure .intro

theorem ensures_nameToEnd (offset : Nat) :
    Ensures source (nameToEnd offset) fun _ => True :=
  ensures_size.bind fun _ _ => ensures_nameAt offset _

end Primitives

end Scan

end SharedObject
