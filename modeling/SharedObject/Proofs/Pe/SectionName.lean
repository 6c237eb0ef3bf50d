import SharedObject.Proofs.Format.CutOff
import SharedObject.Proofs.Pe.Listing
import SharedObject.Proofs.Scan.Decoding
import SharedObject.Proofs.Text.Ascii

/-!
# Names of PE sections

A section name is in a field of eight bytes, or in the string table when the field refers
to it.  Whether it does is decided on the text of the field; it comes to the same to look at
the bytes.  Where the fields and the string table are follows from the headers.
-/

namespace SharedObject

namespace Pe

open Scan

/-! ## References -/

/-- A number written in decimal, in bytes. -/
structure IsDecimal (digits : List UInt8) (number : Nat) : Prop where
  nonempty : digits ≠ []
  decimal : ∀ digit ∈ digits, 0x30 ≤ digit ∧ digit ≤ 0x39
  value : Nat.ofDigitChars 10 (Utf8.asciiText digits) 0 = number

/-- The bytes are a slash, a sign and a number written in decimal. -/
def RefersTo (sign bytes : List UInt8) (number : Nat) : Prop :=
  ∃ digits, bytes = 0x2F :: (sign ++ digits) ∧ IsDecimal digits number

/-- The signs that a number may have: none, or a plus. -/
def numberSigns : List (List UInt8) := [[], [0x2B]]

theorem isDigit_iff {character : Char} :
    character.isDigit = true ↔ 48 ≤ character.toNat ∧ character.toNat ≤ 57 := by
  simp [Char.isDigit, UInt32.le_iff_toNat_le]

theorem ascii_of_isDigit {digits : List Char}
    (decimal : ∀ digit ∈ digits, digit.isDigit = true) :
    ∀ digit ∈ digits, digit.toNat < 0x80 := by
  intro digit member
  have code := isDigit_iff.mp (decimal digit member)
  omega

/-- The digits that are read from text are those of the bytes of this text. -/
theorem isDecimal_asciiBytes {digits : List Char} {number : Nat}
    (read : digits ≠ [] ∧ (∀ digit ∈ digits, digit.isDigit = true) ∧
      Nat.ofDigitChars 10 digits 0 = number) :
    IsDecimal (Utf8.asciiBytes digits) number := by
  obtain ⟨nonempty, decimal, value⟩ := read
  have ascii := ascii_of_isDigit decimal
  constructor
  · simpa [Utf8.asciiBytes] using nonempty
  · intro digit member
    obtain ⟨character, among, rfl⟩ := List.mem_map.mp member
    rw [UInt8.le_iff_toNat_le, UInt8.le_iff_toNat_le,
      Utf8.toNat_ofNat_of_ascii (ascii character among)]
    exact isDigit_iff.mp (decimal character among)
  · rw [Utf8.asciiText_asciiBytes ascii, value]

theorem IsDecimal.ascii {digits : List UInt8} {number : Nat} (decimal : IsDecimal digits number) :
    ∀ digit ∈ digits, digit < 0x80 := by
  intro digit member
  exact UInt8.lt_of_le_of_lt (decimal.decimal digit member).2 (by decide)

theorem IsDecimal.read {digits : List UInt8} {number : Nat} (decimal : IsDecimal digits number) :
    Utf8.asciiText digits ≠ [] ∧ (∀ digit ∈ Utf8.asciiText digits, digit.isDigit = true) ∧
      Nat.ofDigitChars 10 (Utf8.asciiText digits) 0 = number := by
  refine ⟨by simpa [Utf8.asciiText] using decimal.nonempty, ?_, decimal.value⟩
  intro character member
  obtain ⟨digit, among, rfl⟩ := List.mem_map.mp member
  rw [isDigit_iff, Utf8.toNat_ofNat_ascii (decimal.ascii digit among)]
  obtain ⟨low, high⟩ := decimal.decimal digit among
  exact ⟨UInt8.le_iff_toNat_le.mp low, UInt8.le_iff_toNat_le.mp high⟩

/-- Whether a field refers to a number can be told from its bytes. -/
theorem nameReference?_decodeLossy_iff {bytes : List UInt8} {number : Nat} :
    nameReference? (decodeLossy bytes) = some number ↔
      ∃ sign ∈ numberSigns, RefersTo sign bytes number := by
  rw [nameReference?_iff, decodeLossy, String.toList_ofList]
  constructor
  · rintro ⟨sign, digits, isSign, text, read⟩
    have ascii : ∀ character ∈ '/' :: (sign ++ digits), character.toNat < 0x80 := by
      have ofDigits := ascii_of_isDigit read.2.1
      rcases isSign with rfl | rfl <;> simpa using ofDigits
    have lowBytes := Utf8.asciiBytes_lt ascii
    rw [← Utf8.asciiText_asciiBytes ascii, Utf8.decodeFrom_eq_asciiText_iff lowBytes] at text
    refine ⟨Utf8.asciiBytes sign, ?_, Utf8.asciiBytes digits, ?_, isDecimal_asciiBytes read⟩
    · rcases isSign with rfl | rfl <;> decide
    · rw [text]
      simp [Utf8.asciiBytes]
  · rintro ⟨sign, isSign, digits, rfl, decimal⟩
    have ascii : ∀ byte ∈ 0x2F :: (sign ++ digits), byte < 0x80 := by
      have ofDigits := decimal.ascii
      simp only [numberSigns, List.mem_cons, List.not_mem_nil, or_false] at isSign
      rcases isSign with rfl | rfl <;> simpa using ofDigits
    refine ⟨Utf8.asciiText sign, Utf8.asciiText digits, ?_, ?_, decimal.read⟩
    · have isSigned : ∀ sign ∈ numberSigns, Utf8.asciiText sign = [] ∨
          Utf8.asciiText sign = ['+'] := by decide
      exact isSigned sign isSign
    · rw [(Utf8.decodeFrom_eq_asciiText_iff ascii _).mpr rfl]
      simp [Utf8.asciiText]

/-! ## Where the names are -/

/-- The number in so many bytes of the headers. -/
def headerField (source : Source) (offset count : Nat) : Nat :=
  littleEndianValue (source.slice (headersOffset source + offset) count)

/-- How many sections the headers declare. -/
def sectionCount (source : Source) : Nat :=
  headerField source 6 2

/-- Where the section table starts, behind the optional header. -/
def sectionTable (source : Source) : Nat :=
  headersOffset source + 24 + headerField source 20 2

/-- Where the string table starts, behind the symbol table; 0 without a symbol table. -/
def stringTable (source : Source) : Nat :=
  if headerField source 12 4 = 0 then 0
  else headerField source 12 4 + headerField source 16 4 * coffSymbolSize

/-- The field of the name of a section. -/
def nameField (source : Source) (index : Nat) : List UInt8 :=
  source.slice (sectionTable source + index * sectionHeaderSize) 8

variable {source : Source} {cursor moved : Cursor}

theorem headerField_lt (source : Source) (offset count : Nat) :
    headerField source offset count < 256 ^ count := by
  have bounded := littleEndianValue_lt (source.slice (headersOffset source + offset) count)
  have most : (source.slice (headersOffset source + offset) count).length ≤ count := by
    rw [Source.length_slice]
    exact Nat.min_le_left _ _
  exact Nat.lt_of_lt_of_le bounded (Nat.pow_le_pow_right (by decide) most)

theorem toNat_headerField16 (offset : Nat) :
    (UInt16.ofNat (ByteOrder.little.value (source.slice (headersOffset source + offset) 2))).toNat =
      headerField source offset 2 :=
  UInt16.toNat_ofNat_of_lt' (headerField_lt source offset 2)

theorem toNat_headerField32 (offset : Nat) :
    (UInt32.ofNat (ByteOrder.little.value (source.slice (headersOffset source + offset) 4))).toNat =
      headerField source offset 4 :=
  UInt32.toNat_ofNat_of_lt' (headerField_lt source offset 4)

theorem locateOptionalHeader_found {found : Nat × UInt16}
    (located : locateOptionalHeader source cursor = .ok found moved) :
    found.1 = headersOffset source + 24 ∧ moved.order = .little := by
  have small := headersOffset_lt source
  obtain ⟨_, _, ordered, located⟩ := bind_ok.mp located
  cases ordered
  replace located := refuseIf_next ((Decodes.take 2).next (seek_next located))
  replace located := Decodes.u32.next (seek_next located)
  dsimp only at located
  rw [toNat_headersField] at located
  replace located := refuseIf_next ((Decodes.take 4).next (seek_next located))
  rw [optionalHeaderOffset_bind small] at located
  replace located := Decodes.u16.next (seek_next located)
  cases located
  exact ⟨rfl, rfl⟩

theorem stringTable_next {β : Type} {next : Nat → Scan β} {result : β}
    (answered : (stringTableOffset (headerField source 12 4) (headerField source 16 4) >>= next)
      source cursor = .ok result moved) :
    next (stringTable source) source cursor = .ok result moved := by
  unfold stringTableOffset at answered
  unfold stringTable
  split at answered
  · rename_i noTable
    rw [if_pos noTable]
    exact answered
  · rename_i hasTable
    rw [if_neg hasTable]
    exact entryOffset_next answered

theorem readSection_name {table offset : Nat} {part : Section}
    (read : readSection table offset source cursor = .ok part moved) :
    ∃ start after, sectionName (source.slice offset 8) table source start =
      .ok part.name after := by
  replace read := (Decodes.take 8).next (seek_next read)
  replace read := Decodes.u32.next (Decodes.u32.next (Decodes.u32.next (Decodes.u32.next read)))
  obtain ⟨name, after, named, given⟩ := bind_ok.mp read
  cases given
  exact ⟨_, _, named⟩

/-- The name of a section with a field, in a file with a string table at an offset, which is
0 when there is none: the text in the string table if the field refers to it, and the text
of the field otherwise. -/
structure IsNameOf (source : Source) (table : Nat) (field : List UInt8) (name : String) :
    Prop where
  referred : ∀ sign ∈ numberSigns, ∀ number, table ≠ 0 →
    RefersTo sign (field.takeWhile (· ≠ 0)) number → source.HoldsText (table + number) name
  plain : (table = 0 ∨ ∀ sign ∈ numberSigns, ∀ number,
    ¬RefersTo sign (field.takeWhile (· ≠ 0)) number) → name = decodeLossy (field.takeWhile (· ≠ 0))

/-- A number of so many digits. -/
theorem ofDigitChars_lt {digits : List Char} (decimal : ∀ digit ∈ digits, digit.isDigit = true)
    (start : Nat) : Nat.ofDigitChars 10 digits start < (start + 1) * 10 ^ digits.length := by
  induction digits generalizing start with
  | nil => simp
  | cons digit digits ih =>
      have code := isDigit_iff.mp (decimal digit List.mem_cons_self)
      have next : 10 * start + (digit.toNat - '0'.toNat) + 1 ≤ (start + 1) * 10 := by
        have zero : '0'.toNat = 48 := rfl
        omega
      have rest := ih (fun other member => decimal other (List.mem_cons_of_mem digit member))
        (10 * start + (digit.toNat - '0'.toNat))
      rw [Nat.ofDigitChars_cons, List.length_cons, Nat.pow_succ', ← Nat.mul_assoc]
      exact Nat.lt_of_lt_of_le rest (Nat.mul_le_mul_right _ next)

theorem RefersTo.lt {sign bytes : List UInt8} {number : Nat} (refers : RefersTo sign bytes number)
    (short : bytes.length ≤ 8) : number < 10 ^ 7 := by
  obtain ⟨digits, rfl, decimal⟩ := refers
  obtain ⟨_, digital, rfl⟩ := decimal.read
  have small := ofDigitChars_lt digital 0
  have few : (Utf8.asciiText digits).length ≤ 7 := by
    simp only [Utf8.asciiText, List.length_map, List.length_cons, List.length_append] at short ⊢
    omega
  have atMost : 10 ^ (Utf8.asciiText digits).length ≤ 10 ^ 7 :=
    Nat.pow_le_pow_right (by decide) few
  omega

theorem stringTable_lt (source : Source) : stringTable source < 2 ^ 40 := by
  have table := headerField_lt source 12 4
  have count := headerField_lt source 16 4
  rw [stringTable, coffSymbolSize]
  split <;> omega

theorem sectionName_ok {table : Nat} {field : List UInt8} {name : String}
    (short : field.length ≤ 8) (small : table < 2 ^ 40)
    (named : sectionName field table source cursor = .ok name moved) :
    IsNameOf source table field name := by
  obtain ⟨text, between, padded, named⟩ := bind_ok.mp named
  have padding : Yields source cursor.order (paddedName field) _ := yields_paddedName field
  obtain ⟨_, known⟩ := padding cursor.position
  cases padded.symm.trans known
  cases reference : nameReference? (decodeLossy (field.takeWhile (· ≠ 0))) with
  | none =>
      rw [reference] at named
      cases named
      have unreferred (sign : List UInt8) (isSign : sign ∈ numberSigns) (number : Nat) :
          ¬RefersTo sign (field.takeWhile (· ≠ 0)) number := by
        intro refers
        rw [nameReference?_decodeLossy_iff.mpr ⟨sign, isSign, refers⟩] at reference
        cases reference
      exact ⟨fun sign isSign number _ refers => absurd refers (unreferred sign isSign number),
        fun _ => rfl⟩
  | some number =>
      rw [reference] at named
      dsimp only at named
      obtain ⟨sign, isSign, refers⟩ := nameReference?_decodeLossy_iff.mp reference
      by_cases noTable : table = 0
      · rw [if_pos noTable] at named
        cases named
        exact ⟨fun _ _ _ hasTable => absurd noTable hasTable, fun _ => rfl⟩
      · have few : number < 10 ^ 7 :=
          refers.lt (Nat.le_trans (List.takeWhile_prefix _).length_le short)
        have offset : saturatingSum table number = table + number := by
          rw [saturatingSum, offsetBound]
          omega
        rw [if_neg noTable, offset] at named
        constructor
        · intro other isOther found _ refersToo
          have alsoReference := nameReference?_decodeLossy_iff.mpr ⟨other, isOther, refersToo⟩
          obtain rfl := Option.some.inj (reference.symm.trans alsoReference)
          exact nameToEnd_ok named
        · rintro (isNone | plain)
          · exact absurd isNone noTable
          · exact absurd refers (plain sign isSign number)

/-- What the headers say of the names of a PE file that opens. -/
theorem names_of_parse {width : Width} {image : Image}
    (parsed : parse width source cursor = .ok image moved) :
    List.Forall₂ (fun index part =>
        IsNameOf source (stringTable source) (nameField source index) part.name)
      (List.range (sectionCount source)) image.sections := by
  obtain ⟨⟨optional, field⟩, start, located, parsed⟩ := bind_ok.mp parsed
  obtain ⟨same, little⟩ := locateOptionalHeader_found located
  obtain ⟨position, order⟩ := start
  dsimp only at same little parsed
  subst same little
  replace parsed := seek_next (sum_next (difference_next parsed))
  replace parsed :=
    Decodes.u32.next (Decodes.u32.next (Decodes.u32.next (Decodes.u16.next parsed)))
  replace parsed := checkRange_next (refuseIf_next (Decodes.u16.next parsed))
  have coff : headersOffset source + 24 - coffHeaderSize + 2 = headersOffset source + 6 := by
    rw [coffHeaderSize]
    omega
  simp only [coff, Nat.add_assoc, Nat.reduceAdd, toNat_headerField16, toNat_headerField32] at parsed
  obtain ⟨directory, between, _, parsed⟩ := bind_ok.mp parsed
  replace parsed := checkRange_next (product_next (sum_next (stringTable_next parsed)))
  obtain ⟨sections, after, collected, given⟩ := bind_ok.mp parsed
  cases given
  apply (mapM_ok collected).imp
  rintro index part ⟨start, after, read⟩
  obtain ⟨_, _, named⟩ := readSection_name (entryOffset_next read)
  have short : (nameField source index).length ≤ 8 := by
    rw [nameField, Source.length_slice]
    exact Nat.min_le_left _ _
  exact sectionName_ok short (stringTable_lt source) named

end Pe

end SharedObject
