import SharedObject.Text
import Mathlib.Data.List.Basic

/-!
# Decoding what was encoded

The decoder gives back every text from its UTF-8 bytes.  It does so character by
character: the bytes of one character complete that character and leave no sequence
open.
-/

namespace SharedObject

/-- The UTF-8 bytes of a text. -/
def utf8Bytes (text : String) : List UInt8 :=
  text.toList.flatMap String.utf8EncodeChar

namespace Utf8

theorem leadByte_ascii {byte : UInt8} (ascii : byte.toNat < 0x80) :
    leadByte byte = ([Char.ofNat byte.toNat], none) := by
  have below : byte < 0x80 := UInt8.lt_iff_toNat_lt.mpr ascii
  rw [leadByte, if_pos below]

theorem leadByte_pair {byte : UInt8} (low : 0xC2 ≤ byte.toNat) (high : byte.toNat ≤ 0xDF) :
    leadByte byte = ([], some ⟨byte.toNat - 0xC0, 0x80, 0xBF, 1⟩) := by
  have notAscii : ¬byte < 0x80 := by
    rw [UInt8.lt_iff_toNat_lt]
    simpa using Nat.le_trans (by decide) low
  have pair : 0xC2 ≤ byte ∧ byte ≤ 0xDF :=
    ⟨UInt8.le_iff_toNat_le.mpr low, UInt8.le_iff_toNat_le.mpr high⟩
  rw [leadByte, if_neg notAscii, if_pos pair]

theorem leadByte_triple {byte : UInt8} (low : 0xE0 ≤ byte.toNat) (high : byte.toNat ≤ 0xEF) :
    leadByte byte =
      ([], some ⟨byte.toNat - 0xE0, if byte = 0xE0 then 0xA0 else 0x80,
        if byte = 0xED then 0x9F else 0xBF, 2⟩) := by
  have notAscii : ¬byte < 0x80 := by
    rw [UInt8.lt_iff_toNat_lt]
    simpa using Nat.le_trans (by decide) low
  have notPair : ¬(0xC2 ≤ byte ∧ byte ≤ 0xDF) := by
    rw [UInt8.le_iff_toNat_le, UInt8.le_iff_toNat_le]
    simp only [UInt8.reduceToNat]
    omega
  have triple : 0xE0 ≤ byte ∧ byte ≤ 0xEF :=
    ⟨UInt8.le_iff_toNat_le.mpr low, UInt8.le_iff_toNat_le.mpr high⟩
  rw [leadByte, if_neg notAscii, if_neg notPair, if_pos triple]

theorem leadByte_quadruple {byte : UInt8} (low : 0xF0 ≤ byte.toNat) (high : byte.toNat ≤ 0xF4) :
    leadByte byte =
      ([], some ⟨byte.toNat - 0xF0, if byte = 0xF0 then 0x90 else 0x80,
        if byte = 0xF4 then 0x8F else 0xBF, 3⟩) := by
  have notAscii : ¬byte < 0x80 := by
    rw [UInt8.lt_iff_toNat_lt]
    simpa using Nat.le_trans (by decide) low
  have notPair : ¬(0xC2 ≤ byte ∧ byte ≤ 0xDF) := by
    rw [UInt8.le_iff_toNat_le, UInt8.le_iff_toNat_le]
    simp only [UInt8.reduceToNat]
    omega
  have notTriple : ¬(0xE0 ≤ byte ∧ byte ≤ 0xEF) := by
    rw [UInt8.le_iff_toNat_le, UInt8.le_iff_toNat_le]
    simp only [UInt8.reduceToNat]
    omega
  have quadruple : 0xF0 ≤ byte ∧ byte ≤ 0xF4 :=
    ⟨UInt8.le_iff_toNat_le.mpr low, UInt8.le_iff_toNat_le.mpr high⟩
  rw [leadByte, if_neg notAscii, if_neg notPair, if_neg notTriple, if_pos quadruple]

/-- The last byte of a sequence completes its character. -/
theorem advance_last {value : Nat} {low high byte : UInt8} (fits : low ≤ byte ∧ byte ≤ high) :
    advance (some ⟨value, low, high, 1⟩) byte =
      ([Char.ofNat (value * 64 + (byte.toNat - 0x80))], none) := by
  simp [advance, fits]

/-- A byte before the last leaves the sequence open. -/
theorem advance_inner {value remaining : Nat} {low high byte : UInt8}
    (fits : low ≤ byte ∧ byte ≤ high) :
    advance (some ⟨value, low, high, remaining + 2⟩) byte =
      ([], some ⟨value * 64 + (byte.toNat - 0x80), 0x80, 0xBF, remaining + 1⟩) := by
  simp [advance, fits]

theorem decodeFrom_cons (unfinished : Option Unfinished) (byte : UInt8) (bytes : List UInt8) :
    decodeFrom unfinished (byte :: bytes) =
      (advance unfinished byte).1 ++ decodeFrom (advance unfinished byte).2 bytes :=
  rfl

/-- The bytes that follow the first of a sequence. -/
def IsTail (byte : UInt8) : Prop :=
  0x80 ≤ byte.toNat ∧ byte.toNat ≤ 0xBF

theorem IsTail.between {byte : UInt8} (tail : IsTail byte) : 0x80 ≤ byte ∧ byte ≤ 0xBF :=
  ⟨UInt8.le_iff_toNat_le.mpr tail.1, UInt8.le_iff_toNat_le.mpr tail.2⟩

theorem decodeFrom_pair {lead last : UInt8} (low : 0xC2 ≤ lead.toNat) (high : lead.toNat ≤ 0xDF)
    (tail : IsTail last) (bytes : List UInt8) :
    decodeFrom none (lead :: last :: bytes) =
      Char.ofNat ((lead.toNat - 0xC0) * 64 + (last.toNat - 0x80)) :: decodeFrom none bytes := by
  rw [decodeFrom_cons, advance, leadByte_pair low high, decodeFrom_cons,
    advance_last tail.between]
  rfl

theorem decodeFrom_triple {lead second last : UInt8} (low : 0xE0 ≤ lead.toNat)
    (high : lead.toNat ≤ 0xEF) (secondTail : IsTail second)
    (notOverlong : lead.toNat = 0xE0 → 0xA0 ≤ second.toNat)
    (notSurrogate : lead.toNat = 0xED → second.toNat ≤ 0x9F) (tail : IsTail last)
    (bytes : List UInt8) :
    decodeFrom none (lead :: second :: last :: bytes) =
      Char.ofNat (((lead.toNat - 0xE0) * 64 + (second.toNat - 0x80)) * 64 + (last.toNat - 0x80)) ::
        decodeFrom none bytes := by
  have fits : (if lead = 0xE0 then 0xA0 else 0x80) ≤ second ∧
      second ≤ if lead = 0xED then 0x9F else 0xBF := by
    constructor
    · split
      · rename_i same
        exact UInt8.le_iff_toNat_le.mpr (notOverlong (congrArg UInt8.toNat same))
      · exact secondTail.between.1
    · split
      · rename_i same
        exact UInt8.le_iff_toNat_le.mpr (notSurrogate (congrArg UInt8.toNat same))
      · exact secondTail.between.2
  rw [decodeFrom_cons, advance, leadByte_triple low high, decodeFrom_cons, advance_inner fits,
    decodeFrom_cons, advance_last tail.between]
  rfl

theorem decodeFrom_quadruple {lead second third last : UInt8} (low : 0xF0 ≤ lead.toNat)
    (high : lead.toNat ≤ 0xF4) (secondTail : IsTail second)
    (notOverlong : lead.toNat = 0xF0 → 0x90 ≤ second.toNat)
    (notBeyond : lead.toNat = 0xF4 → second.toNat ≤ 0x8F) (thirdTail : IsTail third)
    (tail : IsTail last) (bytes : List UInt8) :
    decodeFrom none (lead :: second :: third :: last :: bytes) =
      Char.ofNat ((((lead.toNat - 0xF0) * 64 + (second.toNat - 0x80)) * 64 +
        (third.toNat - 0x80)) * 64 + (last.toNat - 0x80)) :: decodeFrom none bytes := by
  have fits : (if lead = 0xF0 then 0x90 else 0x80) ≤ second ∧
      second ≤ if lead = 0xF4 then 0x8F else 0xBF := by
    constructor
    · split
      · rename_i same
        exact UInt8.le_iff_toNat_le.mpr (notOverlong (congrArg UInt8.toNat same))
      · exact secondTail.between.1
    · split
      · rename_i same
        exact UInt8.le_iff_toNat_le.mpr (notBeyond (congrArg UInt8.toNat same))
      · exact secondTail.between.2
  rw [decodeFrom_cons, advance, leadByte_quadruple low high, decodeFrom_cons, advance_inner fits,
    decodeFrom_cons, advance_inner thirdTail.between, decodeFrom_cons, advance_last tail.between]
  rfl

/-- The bytes of a character decode to it, whatever follows them. -/
theorem decodeFrom_utf8EncodeChar (character : Char) (bytes : List UInt8) :
    decodeFrom none (String.utf8EncodeChar character ++ bytes) =
      character :: decodeFrom none bytes := by
  have restored : Char.ofNat character.val.toNat = character := Char.ofNat_toNat character
  have valid : character.val.toNat < 0xD800 ∨
      0xDFFF < character.val.toNat ∧ character.val.toNat < 0x110000 := character.valid
  have small : ∀ {number : Nat}, number < 256 → (UInt8.ofNat number).toNat = number :=
    fun below => UInt8.toNat_ofNat_of_lt' below
  unfold String.utf8EncodeChar
  generalize character.val.toNat = code at restored valid
  have tailAt : ∀ part, (UInt8.ofNat (part % 64 + 128)).toNat = part % 64 + 128 :=
    fun part => small (by omega)
  have isTail : ∀ part, IsTail (UInt8.ofNat (part % 64 + 128)) := by
    intro part
    rw [IsTail, tailAt]
    omega
  dsimp only
  by_cases ascii : code ≤ 127
  · have byte : (UInt8.ofNat code).toNat = code := small (by omega)
    rw [if_pos ascii, List.singleton_append, decodeFrom_cons, advance, leadByte_ascii (by omega),
      byte, restored]
    rfl
  rw [if_neg ascii]
  by_cases pair : code ≤ 0x7FF
  · have lead : (UInt8.ofNat (code / 64 % 32 + 192)).toNat = code / 64 % 32 + 192 :=
      small (by omega)
    rw [if_pos pair, List.cons_append, List.singleton_append,
      decodeFrom_pair (by omega) (by omega) (isTail code), lead, tailAt]
    rw [show (code / 64 % 32 + 192 - 0xC0) * 64 + (code % 64 + 128 - 0x80) = code by omega,
      restored]
  rw [if_neg pair]
  by_cases triple : code ≤ 0xFFFF
  · have lead : (UInt8.ofNat (code / 4096 % 16 + 224)).toNat = code / 4096 % 16 + 224 :=
      small (by omega)
    have second := tailAt (code / 64)
    rw [if_pos triple, List.cons_append, List.cons_append, List.singleton_append,
      decodeFrom_triple (by omega) (by omega) (isTail _) (by omega) (by omega) (isTail code),
      lead, second, tailAt]
    rw [show ((code / 4096 % 16 + 224 - 0xE0) * 64 + (code / 64 % 64 + 128 - 0x80)) * 64 +
      (code % 64 + 128 - 0x80) = code by omega, restored]
  · have lead : (UInt8.ofNat (code / 262144 % 8 + 240)).toNat = code / 262144 % 8 + 240 :=
      small (by omega)
    have second := tailAt (code / 4096)
    rw [if_neg triple, List.cons_append, List.cons_append, List.cons_append,
      List.singleton_append,
      decodeFrom_quadruple (by omega) (by omega) (isTail _) (by omega) (by omega) (isTail _)
        (isTail code),
      lead, second, tailAt, tailAt]
    rw [show (((code / 262144 % 8 + 240 - 0xF0) * 64 + (code / 4096 % 64 + 128 - 0x80)) * 64 +
      (code / 64 % 64 + 128 - 0x80)) * 64 + (code % 64 + 128 - 0x80) = code by omega, restored]

/-- The bytes of some characters decode to them. -/
theorem decodeFrom_flatMap_utf8EncodeChar (characters : List Char) :
    decodeFrom none (characters.flatMap String.utf8EncodeChar) = characters := by
  induction characters with
  | nil => rfl
  | cons character characters ih =>
      rw [List.flatMap_cons, decodeFrom_utf8EncodeChar, ih]

/-- Only the NUL character has a NUL byte. -/
theorem zero_notMem_utf8EncodeChar {character : Char} (notNul : character ≠ '\x00') :
    0 ∉ String.utf8EncodeChar character := by
  have code : 0 < character.val.toNat := by
    apply Nat.pos_of_ne_zero
    intro zero
    exact notNul (Char.ext (UInt32.toNat_inj.mp zero))
  have nonzero : ∀ {number : Nat}, 0 < number → number < 256 →
      (0 : UInt8) ≠ UInt8.ofNat number := by
    intro number positive below same
    have numbers := congrArg UInt8.toNat same
    rw [UInt8.toNat_ofNat_of_lt' below] at numbers
    exact absurd numbers (Nat.ne_of_lt positive)
  have marked : ∀ part bound base : Nat, 0 < base → 0 < bound → bound + base ≤ 256 →
      (0 : UInt8) ≠ UInt8.ofNat (part % bound + base) := by
    intro part bound base marks positive room
    have remainder := Nat.mod_lt part positive
    exact nonzero (by omega) (by omega)
  intro member
  unfold String.utf8EncodeChar at member
  generalize character.val.toNat = number at code member
  dsimp only at member
  split at member
  · exact nonzero code (by omega) (List.mem_singleton.mp member)
  split at member
  · simp only [List.mem_cons, List.not_mem_nil, or_false] at member
    rcases member with same | same <;>
      exact marked _ _ _ (by decide) (by decide) (by decide) same
  split at member
  · simp only [List.mem_cons, List.not_mem_nil, or_false] at member
    rcases member with same | same | same <;>
      exact marked _ _ _ (by decide) (by decide) (by decide) same
  · simp only [List.mem_cons, List.not_mem_nil, or_false] at member
    rcases member with same | same | same | same <;>
      exact marked _ _ _ (by decide) (by decide) (by decide) same

end Utf8

theorem zero_notMem_utf8Bytes {text : String} (noNul : '\x00' ∉ text.toList) :
    0 ∉ utf8Bytes text := by
  intro member
  obtain ⟨character, among, member⟩ := List.mem_flatMap.mp member
  have notNul : character ≠ '\x00' := fun same => noNul (same ▸ among)
  exact Utf8.zero_notMem_utf8EncodeChar notNul member

/-- Well-formed text is decoded as it was encoded. -/
@[simp]
theorem decodeLossy_utf8Bytes (text : String) : decodeLossy (utf8Bytes text) = text := by
  rw [decodeLossy, utf8Bytes, Utf8.decodeFrom_flatMap_utf8EncodeChar, String.ofList_toList]

end SharedObject
