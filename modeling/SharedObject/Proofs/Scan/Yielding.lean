import Mathlib.Data.List.Forall2
import SharedObject.Proofs.Scan.Ensures
import SharedObject.Proofs.Scan.Holding

/-!
# What scans yield

A scan yields a value when, in a byte order, it answers that value from every position
and keeps the byte order.  What is read after going to an offset at which the file
holds its bytes is yielded, and so are names and whole tables.
-/

namespace SharedObject

namespace Scan

variable {α β : Type} {source : Source} {order : ByteOrder}

theorem run_sum {first second : Nat} (small : first + second < 2 ^ 64) {cursor : Cursor} :
    sum first second source cursor = .ok (first + second) cursor := by
  rw [sum, offsetBound_eq, if_pos small]
  rfl

/-- From a cursor, the scan answers the value, and the byte order is then this one. -/
def YieldsFrom (source : Source) (cursor : Cursor) (order : ByteOrder) (scan : Scan α)
    (value : α) : Prop :=
  ∃ moved, scan source cursor = .ok value { position := moved, order }

/-- From every position, in the byte order, the scan answers the value and keeps the
byte order. -/
def Yields (source : Source) (order : ByteOrder) (scan : Scan α) (value : α) : Prop :=
  ∀ position, YieldsFrom source { position, order } order scan value

namespace YieldsFrom

variable {cursor : Cursor} {scan : Scan α} {next : α → Scan β} {value : α} {result : β}

/-- What follows a scan that is known to the position. -/
theorem after {between : Cursor} (first : scan source cursor = .ok value between)
    (rest : YieldsFrom source between order (next value) result) :
    YieldsFrom source cursor order (scan >>= next) result := by
  obtain ⟨moved, answered⟩ := rest
  exact ⟨moved, bind_ok.mpr ⟨value, between, first, answered⟩⟩

theorem bind (first : YieldsFrom source cursor order scan value)
    (rest : Yields source order (next value) result) :
    YieldsFrom source cursor order (scan >>= next) result := by
  obtain ⟨between, answered⟩ := first
  exact after answered (rest between)

theorem parse {bytes : List UInt8} {position : Nat} (held : source.Holds position bytes)
    (parses : Parses source order scan bytes value) :
    YieldsFrom source { position, order } order scan value :=
  ⟨position + bytes.length, parses position held⟩

/-- A field with which the rest of a record starts. -/
theorem afterField {bytes others : List UInt8} {position : Nat}
    (parses : Parses source order scan bytes value) (held : source.Holds position (bytes ++ others))
    (rest : source.Holds (position + bytes.length) others →
      YieldsFrom source { position := position + bytes.length, order } order (next value) result) :
    YieldsFrom source { position, order } order (scan >>= next) result := by
  obtain ⟨here, there⟩ := Source.holds_append.mp held
  exact after (parses position here) (rest there)

theorem afterSeek {offset : Nat} {following : Scan β} (inside : offset ≤ source.size)
    (rest : YieldsFrom source { cursor with position := offset } order following result) :
    YieldsFrom source cursor order (seek offset >>= fun _ => following) result :=
  after (seek_of_inside inside cursor) rest

theorem afterSetOrder {chosen : ByteOrder} {following : Scan β}
    (rest : YieldsFrom source { cursor with order := chosen } order following result) :
    YieldsFrom source cursor order (setOrder chosen >>= fun _ => following) result := by
  have chose : setOrder chosen source cursor = .ok () { cursor with order := chosen } := rfl
  exact after chose rest

theorem afterRefuseIf {wrong : Prop} [Decidable wrong] {cause : Malformed} {following : Scan β}
    (right : ¬wrong) (rest : YieldsFrom source cursor order following result) :
    YieldsFrom source cursor order (refuseIf wrong cause >>= fun _ => following) result := by
  have passed : Scan.refuseIf wrong cause source cursor = .ok () cursor :=
    refuseIf_ok.mpr ⟨right, rfl⟩
  exact after passed rest

/-- A yielded value of which something is made. -/
theorem map (yields : YieldsFrom source cursor order scan value) (build : α → β) :
    YieldsFrom source cursor order (scan >>= fun value => pure (build value)) (build value) :=
  yields.bind fun position => ⟨position, rfl⟩

end YieldsFrom

namespace Yields

variable {scan : Scan α} {next : α → Scan β} {value : α} {result : β}

theorem yieldsFrom (yields : Yields source order scan value) (position : Nat) :
    YieldsFrom source { position, order } order scan value :=
  yields position

theorem pure (value : α) : Yields source order (pure value) value :=
  fun position => ⟨position, rfl⟩

theorem bind (first : Yields source order scan value)
    (rest : Yields source order (next value) result) :
    Yields source order (scan >>= next) result :=
  fun position => (first position).bind rest

/-- A yielded value of which something is made. -/
theorem map (yields : Yields source order scan value) (build : α → β) :
    Yields source order (scan >>= fun value => Pure.pure (build value)) (build value) :=
  yields.bind (pure _)

/-- The bytes at an offset are parsed after going there. -/
theorem parse {bytes : List UInt8} {offset : Nat} (parses : Parses source order scan bytes value)
    (inside : offset ≤ source.size) (held : source.Holds offset bytes) :
    Yields source order (seek offset >>= fun _ => scan) value :=
  fun _ => .afterSeek inside (.parse held parses)

/-- The same, when the scan goes on from there. -/
theorem parseThen {bytes : List UInt8} {offset : Nat}
    (parses : Parses source order scan bytes value) (inside : offset ≤ source.size)
    (held : source.Holds offset bytes) (rest : Yields source order (next value) result) :
    Yields source order (seek offset >>= fun _ => scan >>= next) result := by
  simpa only [bind_assoc] using (parse parses inside held).bind rest

theorem size : Yields source order size source.size :=
  fun position => ⟨position, rfl⟩

theorem refuseIf {wrong : Prop} [Decidable wrong] {cause : Malformed} (right : ¬wrong) :
    Yields source order (refuseIf wrong cause) () :=
  fun position => ⟨position, refuseIf_ok.mpr ⟨right, rfl⟩⟩

theorem checkRange {region : Region} {offset extent : Nat}
    (inside : offset + extent ≤ source.size) :
    Yields source order (checkRange region offset extent) () :=
  fun position => ⟨position, checkRange_ok.mpr ⟨inside, rfl⟩⟩

theorem sum {first second : Nat} (small : first + second < 2 ^ 64) :
    Yields source order (sum first second) (first + second) :=
  fun position => ⟨position, run_sum small⟩

theorem product {first second : Nat} (small : first * second < 2 ^ 64) :
    Yields source order (product first second) (first * second) := by
  rw [Scan.product, offsetBound_eq, if_pos small]
  exact pure _

theorem difference {first second : Nat} (ordered : second ≤ first) :
    Yields source order (difference first second) (first - second) := by
  rw [Scan.difference, if_pos ordered]
  exact pure _

theorem divide (dividend : Nat) {divisor : Nat} (positive : 0 < divisor) :
    Yields source order (divide dividend divisor) (dividend / divisor, dividend % divisor) := by
  rw [Scan.divide, if_neg (Nat.ne_of_gt positive)]
  exact pure _

theorem entryOffset {table index stride : Nat} (small : table + index * stride < 2 ^ 64) :
    Yields source order (entryOffset table index stride) (table + index * stride) :=
  (product (by omega)).bind (sum small)

theorem item {table : Array α} {index : Nat} (found : table[index]? = some value) :
    Yields source order (item table index) value := by
  rw [Scan.item, found]
  exact pure value

theorem front {items : List α} {count : Nat} (enough : count ≤ items.length) :
    Yields source order (front items count) (items.take count) := by
  rw [Scan.front, if_pos enough]
  exact pure _

/-- The answers of a table are those of its entries. -/
theorem mapM {function : α → Scan β} {items : List α} {values : List β}
    (each : List.Forall₂ (fun item value => Yields source order (function item) value)
      items values) : Yields source order (items.mapM function) values := by
  induction each with
  | nil => exact pure []
  | cons first _ ih =>
      rw [List.mapM_cons]
      exact first.bind (ih.map _)

theorem filterMapM {function : α → Scan (Option β)} {items : List α} {values : List (Option β)}
    (each : List.Forall₂ (fun item value => Yields source order (function item) value)
      items values) : Yields source order (items.filterMapM function) (values.filterMap id) := by
  induction each with
  | nil => exact pure []
  | @cons item value items values first _ ih =>
      rw [List.filterMapM_cons]
      apply first.bind
      cases value with
      | none => exact ih
      | some value => exact ih.map _

theorem findM? {test : α → Scan Bool} {decides : α → Bool}
    (each : ∀ item, Yields source order (test item) (decides item)) (items : List α) :
    Yields source order (items.findM? test) (items.find? decides) := by
  induction items with
  | nil => exact pure none
  | cons item items ih =>
      rw [List.findM?, List.find?_cons]
      apply (each item).bind
      cases decides item with
      | true => exact pure (some item)
      | false => exact ih

end Yields

/-- Numbered entries are related to the values when each of them is. -/
theorem forall₂_range' {relation : Nat → β → Prop} (values : List β) (start : Nat)
    (each : ∀ index, (inside : index < values.length) → relation (start + index) values[index]) :
    List.Forall₂ relation (List.range' start values.length) values := by
  induction values generalizing start with
  | nil => exact .nil
  | cons value values ih =>
      rw [List.length_cons, List.range'_succ]
      refine .cons (each 0 (Nat.succ_pos _)) (ih (start + 1) fun index inside => ?_)
      have related := each (index + 1) (Nat.succ_lt_succ inside)
      rw [Nat.add_assoc, Nat.add_comm 1 index]
      exact related

theorem forall₂_range {relation : Nat → β → Prop} (values : List β)
    (each : ∀ index, (inside : index < values.length) → relation index values[index]) :
    List.Forall₂ relation (List.range values.length) values := by
  rw [List.range_eq_range']
  apply forall₂_range'
  intro index inside
  rw [Nat.zero_add]
  exact each index inside

/-- The values of the entries of a table. -/
theorem Yields.mapM_range {γ : Type} {function : Nat → Scan β} {entries : List γ} (value : γ → β)
    (each : ∀ index, (inside : index < entries.length) →
      Yields source order (function index) (value entries[index])) :
    Yields source order ((List.range entries.length).mapM function) (entries.map value) := by
  apply mapM
  rw [List.forall₂_map_right_iff]
  exact forall₂_range entries each

/-- The values of the selected entries of a table. -/
theorem Yields.filterMapM_range {γ : Type} {function : Nat → Scan (Option β)} {entries : List γ}
    (selects : γ → Bool) (value : γ → β)
    (each : ∀ index, (inside : index < entries.length) →
      Yields source order (function index)
        (if selects entries[index] then some (value entries[index]) else none)) :
    Yields source order ((List.range entries.length).filterMapM function)
      ((entries.filter selects).map value) := by
  have selected : ((entries.map fun entry =>
      if selects entry then some (value entry) else none)).filterMap id =
        (entries.filter selects).map value := by
    rw [List.filterMap_map, ← List.filterMap_eq_map, List.filterMap_filter]
    rfl
  rw [← selected]
  apply filterMapM
  rw [List.forall₂_map_right_iff]
  exact forall₂_range entries each

/-- The text of a padded field ends before the first NUL byte. -/
theorem yields_paddedName (field : List UInt8) :
    Yields source order (paddedName field) (decodeLossy (field.takeWhile (· ≠ 0))) := by
  have cut : field.takeWhile (· ≠ 0) = field.take (field.findIdx (· == 0)) := by
    rw [List.takeWhile_eq_take_findIdx_not]
    congr 1
    simp [BEq.beq]
  rw [cut]
  exact (Yields.front List.findIdx_le_length).map _

/-- The bytes before the NUL byte are taken together. -/
theorem run_bytesBeforeNul {bytes : List UInt8} (noNul : 0 ∉ bytes) {position limit : Nat}
    (readable : source.ReadableTo (position + bytes.length + 1)) (room : bytes.length < limit)
    (held : source.Holds position (bytes ++ [0])) (taken : List UInt8) :
    bytesBeforeNul taken limit source { position, order } =
      .ok (some (taken.reverse ++ bytes))
        { position := position + bytes.length + 1, order } := by
  induction bytes generalizing position limit taken with
  | nil =>
      obtain ⟨limit, rfl⟩ : ∃ rest, limit = rest + 1 := ⟨limit - 1, by omega⟩
      have first : source.ReadableTo (position + 1) := readable
      have here : source.Holds position [0] := held
      rw [bytesBeforeNul, run_bind, run_u8 first here]
      simp
  | cons byte bytes ih =>
      obtain ⟨limit, rfl⟩ : ∃ rest, limit = rest + 1 := ⟨limit - 1, by omega⟩
      have split : source.Holds position ([byte] ++ (bytes ++ [0])) := held
      obtain ⟨here, there⟩ := Source.holds_append.mp split
      have nonzero : byte ≠ 0 := fun same => noNul (same ▸ List.mem_cons_self ..)
      have others : 0 ∉ bytes := fun member => noNul (List.mem_cons_of_mem byte member)
      have shorter : bytes.length < limit := by
        simpa using room
      rw [List.length_cons] at readable
      have first : source.ReadableTo (position + 1) := readable.mono (by omega)
      have rest : source.ReadableTo (position + 1 + bytes.length + 1) := readable.mono (by omega)
      rw [bytesBeforeNul, run_bind, run_u8 first here]
      dsimp only
      rw [if_neg nonzero]
      rw [ih others rest shorter there]
      simp [Nat.add_assoc, Nat.add_comm 1]

/-- A name is the text of the bytes from its offset to the first NUL byte, if that is there
before the table ends. -/
theorem run_nameAt {bytes : List UInt8} (noNul : 0 ∉ bytes) {offset tableEnd : Nat}
    (readable : source.ReadableTo (offset + bytes.length + 1))
    (held : source.Holds offset (bytes ++ [0])) (inTable : offset + bytes.length < tableEnd)
    (cursor : Cursor) :
    nameAt offset tableEnd source cursor =
      .ok (decodeLossy bytes) { cursor with position := offset + bytes.length + 1 } := by
  have inside := readable.inside
  have room : bytes.length < min tableEnd source.size - offset := by omega
  have before : ¬min tableEnd source.size ≤ offset := by omega
  have sought : seek offset source cursor = .ok () { cursor with position := offset } :=
    seek_of_inside (by omega) cursor
  rw [nameAt, run_bind, run_size]
  dsimp only
  rw [run_bind, run_refuseIf, if_neg before]
  dsimp only
  rw [run_bind, sought]
  dsimp only
  rw [run_bind, run_bytesBeforeNul noNul readable room held]
  simp

/-- A name is read where the file holds it. -/
theorem yields_nameAt (sound : source.fault = none) {offset tableEnd : Nat} {name : String}
    (held : source.HoldsName offset tableEnd name) :
    Yields source order (nameAt offset tableEnd) name := by
  obtain ⟨noNul, bytes, inTable⟩ := held
  have inside := bytes.inside (by simp)
  rw [List.length_append, List.length_singleton] at inside
  have readable : source.ReadableTo (offset + (utf8Bytes name).length + 1) :=
    ⟨inside, by simp [sound]⟩
  intro position
  have read := run_nameAt (zero_notMem_utf8Bytes noNul) readable bytes inTable { position, order }
  rw [decodeLossy_utf8Bytes] at read
  exact ⟨_, read⟩

theorem yields_nameToEnd (sound : source.fault = none) {offset : Nat} {name : String}
    (held : source.HoldsName offset source.size name) :
    Yields source order (nameToEnd offset) name :=
  Yields.size.bind (yields_nameAt sound held)

end Scan

end SharedObject
