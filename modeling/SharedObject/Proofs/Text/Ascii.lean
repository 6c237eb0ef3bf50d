import Mathlib.Data.List.Induction
import SharedObject.Proofs.Text.Utf8

/-!
# ASCII in decoded text

An ASCII byte is decoded to its own character, whatever stands around it, and no other byte
has a part in an ASCII character.  So a text starts or ends with some ASCII characters
exactly when the bytes that it was decoded from start or end with theirs.
-/

namespace SharedObject

namespace Utf8

/-- An open sequence of which nothing can come but a character beyond ASCII. -/
inductive Begun : Unfinished → Prop
  | last {value : Nat} {low high : UInt8} (tail : 0x80 ≤ low)
      (completes : ∀ byte, low ≤ byte → byte ≤ high →
        0x80 ≤ (Char.ofNat (value * 64 + (byte.toNat - 0x80))).toNat) :
      Begun ⟨value, low, high, 1⟩
  | inner {value remaining : Nat} {low high : UInt8} (tail : 0x80 ≤ low)
      (continues : ∀ byte, low ≤ byte → byte ≤ high →
        Begun ⟨value * 64 + (byte.toNat - 0x80), 0x80, 0xBF, remaining + 1⟩) :
      Begun ⟨value, low, high, remaining + 2⟩

theorem toNat_ofNat {code : Nat} (valid : code.isValidChar) : (Char.ofNat code).toNat = code := by
  rw [Char.ofNat, dif_pos valid]
  rfl

theorem toNat_ofNat_ascii {byte : UInt8} (ascii : byte < 0x80) :
    (Char.ofNat byte.toNat).toNat = byte.toNat := by
  have below : byte.toNat < 0x80 := UInt8.lt_iff_toNat_lt.mp ascii
  exact toNat_ofNat (.inl (by omega))

theorem Begun.of_value {value : Nat} {low high : UInt8} (tail : 0x80 ≤ low)
    (beyond : 0x80 ≤ value * 64 + (low.toNat - 0x80))
    (valid : value * 64 + (high.toNat - 0x80) < 0xD800 ∨
      0xDFFF < value * 64 + (low.toNat - 0x80) ∧ value * 64 + (high.toNat - 0x80) < 0x110000) :
    Begun ⟨value, low, high, 1⟩ := by
  refine .last tail fun byte atLeast atMost => ?_
  have notBelow := UInt8.le_iff_toNat_le.mp atLeast
  have notAbove := UInt8.le_iff_toNat_le.mp atMost
  rw [toNat_ofNat]
  · omega
  · show _ < 0xD800 ∨ 0xDFFF < _ ∧ _ < 0x110000
    omega

/-! The byte behind a lead byte has another bound than usual behind one of them. -/

section Bounds

variable {byte lead next special usual : UInt8}

theorem special_le (atLeast : (if byte = lead then special else usual) ≤ next)
    (isLead : byte.toNat = lead.toNat) : special.toNat ≤ next.toNat := by
  rw [if_pos (UInt8.toNat_inj.mp isLead)] at atLeast
  exact UInt8.le_iff_toNat_le.mp atLeast

theorem le_special (atMost : next ≤ if byte = lead then special else usual)
    (isLead : byte.toNat = lead.toNat) : next.toNat ≤ special.toNat := by
  rw [if_pos (UInt8.toNat_inj.mp isLead)] at atMost
  exact UInt8.le_iff_toNat_le.mp atMost

theorem le_usual (atMost : next ≤ if byte = lead then special else usual)
    (narrower : special ≤ usual) : next.toNat ≤ usual.toNat := by
  apply UInt8.le_iff_toNat_le.mp
  split at atMost
  · exact UInt8.le_trans atMost narrower
  · exact atMost

end Bounds

theorem Begun.of_triple {byte : UInt8} (low : 0xE0 ≤ byte.toNat) (high : byte.toNat ≤ 0xEF) :
    Begun ⟨byte.toNat - 0xE0, if byte = 0xE0 then 0xA0 else 0x80,
      if byte = 0xED then 0x9F else 0xBF, 2⟩ := by
  refine .inner (by split <;> decide) fun second atLeast atMost => ?_
  have notOverlong : byte.toNat = 0xE0 → 0xA0 ≤ second.toNat := special_le atLeast
  have notSurrogate : byte.toNat = 0xED → second.toNat ≤ 0x9F := le_special atMost
  have notAbove : second.toNat ≤ 0xBF := le_usual atMost (by decide)
  apply Begun.of_value (by decide)
  · simp only [UInt8.reduceToNat]
    omega
  · simp only [UInt8.reduceToNat]
    omega

theorem Begun.of_quadruple {byte : UInt8} (low : 0xF0 ≤ byte.toNat) (high : byte.toNat ≤ 0xF4) :
    Begun ⟨byte.toNat - 0xF0, if byte = 0xF0 then 0x90 else 0x80,
      if byte = 0xF4 then 0x8F else 0xBF, 3⟩ := by
  refine .inner (by split <;> decide) fun second atLeast atMost => ?_
  have notOverlong : byte.toNat = 0xF0 → 0x90 ≤ second.toNat := special_le atLeast
  have notBeyond : byte.toNat = 0xF4 → second.toNat ≤ 0x8F := le_special atMost
  have secondAtMost : second.toNat ≤ 0xBF := le_usual atMost (by decide)
  refine .inner (by decide) fun third _ thirdAtMost => ?_
  have thirdAtMost : third.toNat ≤ 0xBF := UInt8.le_iff_toNat_le.mp thirdAtMost
  apply Begun.of_value (by decide)
  · simp only [UInt8.reduceToNat]
    omega
  · simp only [UInt8.reduceToNat]
    omega

/-- A byte beyond ASCII opens a sequence, or is ill-formed on its own. -/
theorem leadByte_of_high {byte : UInt8} (high : ¬byte < 0x80) :
    leadByte byte = ([replacement], none) ∨
      ∃ unfinished, Begun unfinished ∧ leadByte byte = ([], some unfinished) := by
  have atLeast : 0x80 ≤ byte.toNat := by
    rw [UInt8.lt_iff_toNat_lt] at high
    exact Nat.not_lt.mp high
  by_cases pair : 0xC2 ≤ byte.toNat ∧ byte.toNat ≤ 0xDF
  · refine .inr ⟨_, .of_value (by decide) ?_ ?_, leadByte_pair pair.1 pair.2⟩
    · simp only [UInt8.reduceToNat]
      omega
    · simp only [UInt8.reduceToNat]
      omega
  by_cases triple : 0xE0 ≤ byte.toNat ∧ byte.toNat ≤ 0xEF
  · exact .inr ⟨_, .of_triple triple.1 triple.2, leadByte_triple triple.1 triple.2⟩
  by_cases quadruple : 0xF0 ≤ byte.toNat ∧ byte.toNat ≤ 0xF4
  · exact .inr ⟨_, .of_quadruple quadruple.1 quadruple.2,
      leadByte_quadruple quadruple.1 quadruple.2⟩
  · refine .inl ?_
    simp only [leadByte, UInt8.lt_iff_toNat_lt, UInt8.le_iff_toNat_le, UInt8.reduceToNat, pair,
      triple, quadruple, if_false, Nat.not_lt.mpr atLeast]

/-- What a byte means to an open sequence: it completes or continues the sequence, or else
it is read as if none were open. -/
theorem advance_of_begun {unfinished : Unfinished} (begun : Begun unfinished) (byte : UInt8) :
    (¬byte < 0x80 ∧ ∃ character, 0x80 ≤ character.toNat ∧
      advance (some unfinished) byte = ([character], none)) ∨
    (¬byte < 0x80 ∧ ∃ next, Begun next ∧ advance (some unfinished) byte = ([], some next)) ∨
    advance (some unfinished) byte = (replacement :: (leadByte byte).1, (leadByte byte).2) := by
  cases begun with
  | @last value low high tail completes =>
      by_cases fits : low ≤ byte ∧ byte ≤ high
      · have notAscii : ¬byte < 0x80 := UInt8.not_lt.mpr (UInt8.le_trans tail fits.1)
        exact .inl ⟨notAscii, _, completes byte fits.1 fits.2, advance_last fits⟩
      · exact .inr (.inr (by simp [advance, fits]))
  | @inner value remaining low high tail continues =>
      by_cases fits : low ≤ byte ∧ byte ≤ high
      · have notAscii : ¬byte < 0x80 := UInt8.not_lt.mpr (UInt8.le_trans tail fits.1)
        exact .inr (.inl ⟨notAscii, _, continues byte fits.1 fits.2, advance_inner fits⟩)
      · exact .inr (.inr (by simp [advance, fits]))

/-- A sequence that is open anywhere was begun by a byte that may begin one. -/
def BegunIn (unfinished : Option Unfinished) : Prop :=
  ∀ opened, unfinished = some opened → Begun opened

theorem begunIn_none : BegunIn none :=
  nofun

theorem begunIn_some {unfinished : Unfinished} (begun : Begun unfinished) :
    BegunIn (some unfinished) := by
  rintro _ ⟨⟩
  exact begun

theorem begunIn_leadByte (byte : UInt8) : BegunIn (leadByte byte).2 := by
  by_cases ascii : byte < 0x80
  · rw [leadByte, if_pos ascii]
    exact begunIn_none
  · rcases leadByte_of_high ascii with alone | ⟨_, begun, opens⟩
    · rw [alone]
      exact begunIn_none
    · rw [opens]
      exact begunIn_some begun

theorem begunIn_advance {unfinished : Option Unfinished} (begun : BegunIn unfinished)
    (byte : UInt8) : BegunIn (advance unfinished byte).2 := by
  cases unfinished with
  | none => exact begunIn_leadByte byte
  | some opened =>
      rcases advance_of_begun (begun opened rfl) byte with
        ⟨_, _, _, completes⟩ | ⟨_, _, stillBegun, continues⟩ | breaks
      · rw [completes]
        exact begunIn_none
      · rw [continues]
        exact begunIn_some stillBegun
      · rw [breaks]
        exact begunIn_leadByte byte

theorem toNat_replacement : 0x80 ≤ replacement.toNat := by
  decide

/-- An ASCII byte is decoded to its own character at the end of any text. -/
theorem decodeFrom_concat_of_ascii {byte : UInt8} (ascii : byte < 0x80)
    {unfinished : Option Unfinished} (begun : BegunIn unfinished) (bytes : List UInt8) :
    decodeFrom unfinished (bytes ++ [byte]) =
      decodeFrom unfinished bytes ++ [Char.ofNat byte.toNat] := by
  have alone := leadByte_ascii (UInt8.lt_iff_toNat_lt.mp ascii)
  induction bytes generalizing unfinished with
  | nil =>
      rw [List.nil_append, decodeFrom_cons]
      cases unfinished with
      | none => simp [advance, alone, decodeFrom]
      | some opened =>
          rcases advance_of_begun (begun opened rfl) byte with
            ⟨notAscii, _⟩ | ⟨notAscii, _⟩ | breaks
          · exact absurd ascii notAscii
          · exact absurd ascii notAscii
          · simp [breaks, alone, decodeFrom]
  | cons head bytes ih =>
      rw [List.cons_append, decodeFrom_cons, decodeFrom_cons, ih (begunIn_advance begun head),
        List.append_assoc]

/-- A byte beyond ASCII at the end of a text leaves a character beyond ASCII there. -/
theorem decodeFrom_concat_of_high {byte : UInt8} (high : ¬byte < 0x80)
    {unfinished : Option Unfinished} (begun : BegunIn unfinished) (bytes : List UInt8) :
    ∃ front last, decodeFrom unfinished (bytes ++ [byte]) = front ++ [last] ∧
      0x80 ≤ last.toNat := by
  induction bytes generalizing unfinished with
  | nil =>
      rw [List.nil_append, decodeFrom_cons]
      have lead : ∃ front last,
          (leadByte byte).1 ++ decodeFrom (leadByte byte).2 [] = front ++ [last] ∧
            0x80 ≤ last.toNat := by
        rcases leadByte_of_high high with alone | ⟨_, _, opens⟩
        · exact ⟨[], replacement, by simp [alone, decodeFrom], toNat_replacement⟩
        · exact ⟨[], replacement, by simp [opens, decodeFrom], toNat_replacement⟩
      cases unfinished with
      | none => exact lead
      | some opened =>
          rcases advance_of_begun (begun opened rfl) byte with
            ⟨_, character, beyond, completes⟩ | ⟨_, _, _, continues⟩ | breaks
          · exact ⟨[], character, by simp [completes, decodeFrom], beyond⟩
          · exact ⟨[], replacement, by simp [continues, decodeFrom], toNat_replacement⟩
          · obtain ⟨front, last, ends, beyond⟩ := lead
            exact ⟨replacement :: front, last, by simp [breaks, ends], beyond⟩
  | cons head bytes ih =>
      obtain ⟨front, last, ends, beyond⟩ := ih (begunIn_advance begun head)
      refine ⟨(advance unfinished head).1 ++ front, last, ?_, beyond⟩
      rw [List.cons_append, decodeFrom_cons, ends, List.append_assoc]

/-- What comes of an open sequence starts with a character beyond ASCII. -/
theorem decodeFrom_of_begun {unfinished : Unfinished} (begun : Begun unfinished)
    (bytes : List UInt8) :
    ∃ first rest, decodeFrom (some unfinished) bytes = first :: rest ∧ 0x80 ≤ first.toNat := by
  induction bytes generalizing unfinished with
  | nil => exact ⟨replacement, [], rfl, toNat_replacement⟩
  | cons byte bytes ih =>
      rw [decodeFrom_cons]
      rcases advance_of_begun begun byte with
        ⟨_, character, beyond, completes⟩ | ⟨_, next, stillBegun, continues⟩ | breaks
      · exact ⟨character, _, by rw [completes]; rfl, beyond⟩
      · rw [continues]
        exact ih stillBegun
      · exact ⟨replacement, _, by rw [breaks]; rfl, toNat_replacement⟩

theorem decodeFrom_cons_of_ascii {byte : UInt8} (ascii : byte < 0x80) (bytes : List UInt8) :
    decodeFrom none (byte :: bytes) = Char.ofNat byte.toNat :: decodeFrom none bytes := by
  rw [decodeFrom_cons, advance, leadByte_ascii (UInt8.lt_iff_toNat_lt.mp ascii)]
  rfl

theorem decodeFrom_cons_of_high {byte : UInt8} (high : ¬byte < 0x80) (bytes : List UInt8) :
    ∃ first rest, decodeFrom none (byte :: bytes) = first :: rest ∧ 0x80 ≤ first.toNat := by
  rw [decodeFrom_cons, advance]
  rcases leadByte_of_high high with alone | ⟨_, begun, opens⟩
  · exact ⟨replacement, _, by rw [alone]; rfl, toNat_replacement⟩
  · rw [opens]
    exact decodeFrom_of_begun begun bytes

/-- The text of bytes that are all ASCII. -/
def asciiText (bytes : List UInt8) : List Char :=
  bytes.map fun byte => Char.ofNat byte.toNat

theorem ofNat_toNat_inj {first second : UInt8} (firstAscii : first < 0x80)
    (secondAscii : second < 0x80) :
    Char.ofNat first.toNat = Char.ofNat second.toNat ↔ first = second := by
  constructor
  · intro same
    have codes := congrArg Char.toNat same
    rw [toNat_ofNat_ascii firstAscii, toNat_ofNat_ascii secondAscii] at codes
    exact UInt8.toNat_inj.mp codes
  · intro same
    rw [same]

theorem ofNat_toNat_ne {byte : UInt8} (ascii : byte < 0x80) {character : Char}
    (beyond : 0x80 ≤ character.toNat) : Char.ofNat byte.toNat ≠ character := by
  intro same
  have codes := congrArg Char.toNat same
  have below := UInt8.lt_iff_toNat_lt.mp ascii
  rw [toNat_ofNat_ascii ascii] at codes
  simp only [UInt8.reduceToNat] at below
  omega

theorem asciiText_prefix_iff {ascii : List UInt8} (low : ∀ byte ∈ ascii, byte < 0x80)
    (bytes : List UInt8) : asciiText ascii <+: decodeFrom none bytes ↔ ascii <+: bytes := by
  induction ascii generalizing bytes with
  | nil => simp [asciiText]
  | cons byte ascii ih =>
      have isAscii : byte < 0x80 := low byte (by simp)
      cases bytes with
      | nil => simp [asciiText, decodeFrom]
      | cons head bytes =>
          rw [asciiText, List.map_cons, List.cons_prefix_cons]
          by_cases headAscii : head < 0x80
          · rw [decodeFrom_cons_of_ascii headAscii, List.cons_prefix_cons,
              ofNat_toNat_inj isAscii headAscii]
            have lowRest : ∀ other ∈ ascii, other < 0x80 :=
              fun other member => low other (by simp [member])
            exact and_congr_right fun _ => ih lowRest bytes
          · obtain ⟨first, rest, starts, beyond⟩ := decodeFrom_cons_of_high headAscii bytes
            have differs : byte ≠ head := fun same => headAscii (same ▸ isAscii)
            simp [starts, List.cons_prefix_cons, ofNat_toNat_ne isAscii beyond, differs]

/-- Bytes are decoded to ASCII text only if they are this text. -/
theorem decodeFrom_eq_asciiText_iff {ascii : List UInt8} (low : ∀ byte ∈ ascii, byte < 0x80)
    (bytes : List UInt8) : decodeFrom none bytes = asciiText ascii ↔ bytes = ascii := by
  induction ascii generalizing bytes with
  | nil =>
      cases bytes with
      | nil => simp [asciiText, decodeFrom]
      | cons head bytes =>
          by_cases headAscii : head < 0x80
          · simp [asciiText, decodeFrom_cons_of_ascii headAscii]
          · obtain ⟨first, rest, starts, -⟩ := decodeFrom_cons_of_high headAscii bytes
            simp [asciiText, starts]
  | cons byte ascii ih =>
      have isAscii : byte < 0x80 := low byte List.mem_cons_self
      have lowRest : ∀ other ∈ ascii, other < 0x80 :=
        fun other member => low other (List.mem_cons_of_mem byte member)
      cases bytes with
      | nil => simp [asciiText, decodeFrom]
      | cons head bytes =>
          rw [asciiText, List.map_cons, List.cons.injEq]
          by_cases headAscii : head < 0x80
          · rw [decodeFrom_cons_of_ascii headAscii, List.cons.injEq,
              ofNat_toNat_inj headAscii isAscii]
            exact and_congr_right fun _ => ih lowRest bytes
          · obtain ⟨first, rest, starts, beyond⟩ := decodeFrom_cons_of_high headAscii bytes
            have differs : head ≠ byte := fun same => headAscii (same ▸ isAscii)
            simp [starts, (ofNat_toNat_ne isAscii beyond).symm, differs]

/-- The bytes of text that is all ASCII. -/
def asciiBytes (text : List Char) : List UInt8 :=
  text.map fun character => UInt8.ofNat character.toNat

theorem toNat_ofNat_of_ascii {character : Char} (low : character.toNat < 0x80) :
    (UInt8.ofNat character.toNat).toNat = character.toNat := by
  rw [UInt8.toNat_ofNat']
  omega

theorem asciiBytes_lt {text : List Char} (low : ∀ character ∈ text, character.toNat < 0x80) :
    ∀ byte ∈ asciiBytes text, byte < 0x80 := by
  intro byte member
  obtain ⟨character, among, rfl⟩ := List.mem_map.mp member
  rw [UInt8.lt_iff_toNat_lt, toNat_ofNat_of_ascii (low character among)]
  exact low character among

theorem asciiText_asciiBytes {text : List Char}
    (low : ∀ character ∈ text, character.toNat < 0x80) : asciiText (asciiBytes text) = text := by
  rw [asciiText, asciiBytes, List.map_map, List.map_congr_left, List.map_id]
  intro character among
  simp [toNat_ofNat_of_ascii (low character among)]

theorem concat_suffix_concat {α : Type} {front other : List α} {last final : α} :
    front ++ [last] <:+ other ++ [final] ↔ front <:+ other ∧ last = final := by
  rw [List.suffix_append_inj_of_length_eq (by simp), List.singleton_inj]

theorem asciiText_suffix_iff {ascii : List UInt8} (low : ∀ byte ∈ ascii, byte < 0x80)
    (bytes : List UInt8) : asciiText ascii <:+ decodeFrom none bytes ↔ ascii <:+ bytes := by
  induction ascii using List.reverseRecOn generalizing bytes with
  | nil => simp [asciiText]
  | append_singleton ascii byte ih =>
      have isAscii : byte < 0x80 := low byte (by simp)
      have lowFront : ∀ other ∈ ascii, other < 0x80 :=
        fun other member => low other (by simp [member])
      have text : asciiText (ascii ++ [byte]) = asciiText ascii ++ [Char.ofNat byte.toNat] := by
        simp [asciiText]
      rw [text]
      induction bytes using List.reverseRecOn with
      | nil => simp [decodeFrom]
      | append_singleton bytes last _ =>
          by_cases lastAscii : last < 0x80
          · rw [decodeFrom_concat_of_ascii lastAscii begunIn_none, concat_suffix_concat,
              concat_suffix_concat, ih lowFront, ofNat_toNat_inj isAscii lastAscii]
          · obtain ⟨front, final, ends, beyond⟩ :=
              decodeFrom_concat_of_high lastAscii begunIn_none bytes
            have differs : byte ≠ last := fun same => lastAscii (same ▸ isAscii)
            simp [ends, concat_suffix_concat, ofNat_toNat_ne isAscii beyond, differs]

/-! No character but that of the NUL byte is NUL. -/

theorem pos_of_mem_leadByte {byte : UInt8} (nonzero : byte ≠ 0) {character : Char}
    (member : character ∈ (leadByte byte).1) : 0 < character.toNat := by
  by_cases ascii : byte < 0x80
  · rw [leadByte, if_pos ascii] at member
    obtain rfl := List.mem_singleton.mp member
    rw [toNat_ofNat_ascii ascii]
    exact Nat.pos_of_ne_zero fun zero => nonzero (UInt8.toNat_inj.mp zero)
  · rcases leadByte_of_high ascii with alone | ⟨_, _, opens⟩
    · rw [alone] at member
      obtain rfl := List.mem_singleton.mp member
      exact Nat.lt_of_lt_of_le (by decide) toNat_replacement
    · rw [opens] at member
      cases member

theorem pos_of_mem_advance {unfinished : Option Unfinished} (begun : BegunIn unfinished)
    {byte : UInt8} (nonzero : byte ≠ 0) {character : Char}
    (member : character ∈ (advance unfinished byte).1) : 0 < character.toNat := by
  cases unfinished with
  | none => exact pos_of_mem_leadByte nonzero member
  | some opened =>
      rcases advance_of_begun (begun opened rfl) byte with
        ⟨_, completed, beyond, completes⟩ | ⟨_, _, _, continues⟩ | breaks
      · rw [completes] at member
        obtain rfl := List.mem_singleton.mp member
        exact Nat.lt_of_lt_of_le (by decide) beyond
      · rw [continues] at member
        cases member
      · rw [breaks] at member
        rcases List.mem_cons.mp member with rfl | member
        · exact Nat.lt_of_lt_of_le (by decide) toNat_replacement
        · exact pos_of_mem_leadByte nonzero member

theorem pos_of_mem_decodeFrom {unfinished : Option Unfinished} (begun : BegunIn unfinished)
    {bytes : List UInt8} (noNul : 0 ∉ bytes) {character : Char}
    (member : character ∈ decodeFrom unfinished bytes) : 0 < character.toNat := by
  induction bytes generalizing unfinished with
  | nil =>
      cases unfinished with
      | none => cases member
      | some opened =>
          obtain rfl := List.mem_singleton.mp member
          exact Nat.lt_of_lt_of_le (by decide) toNat_replacement
  | cons byte bytes ih =>
      rw [List.mem_cons, not_or] at noNul
      rw [decodeFrom_cons] at member
      rcases List.mem_append.mp member with here | later
      · exact pos_of_mem_advance begun (Ne.symm noNul.1) here
      · exact ih (begunIn_advance begun byte) noNul.2 later

end Utf8

/-- Bytes without a NUL byte are decoded to a text without a NUL character. -/
theorem nul_notMem_decodeLossy {bytes : List UInt8} (noNul : 0 ∉ bytes) :
    '\x00' ∉ (decodeLossy bytes).toList := by
  rw [decodeLossy, String.toList_ofList]
  intro member
  exact Nat.lt_irrefl 0 (Utf8.pos_of_mem_decodeFrom Utf8.begunIn_none noNul member)

/-- Decoded text starts with some ASCII characters when the bytes start with theirs. -/
theorem prefix_decodeLossy_iff {ascii : List UInt8} (low : ∀ byte ∈ ascii, byte < 0x80)
    (bytes : List UInt8) :
    Utf8.asciiText ascii <+: (decodeLossy bytes).toList ↔ ascii <+: bytes := by
  rw [decodeLossy, String.toList_ofList, Utf8.asciiText_prefix_iff low]

/-- Decoded text ends with some ASCII characters when the bytes end with theirs. -/
theorem suffix_decodeLossy_iff {ascii : List UInt8} (low : ∀ byte ∈ ascii, byte < 0x80)
    (bytes : List UInt8) :
    Utf8.asciiText ascii <:+ (decodeLossy bytes).toList ↔ ascii <:+ bytes := by
  rw [decodeLossy, String.toList_ofList, Utf8.asciiText_suffix_iff low]

end SharedObject
