import SharedObject.Proofs.Format.CutOff

/-!
# Which files can be completed

A file can be completed when a file of some format starts with it.  What is cut off can be
completed, field by field, unless a field of which there is only a part, or with nothing
behind it, already has a byte that it has in no file of the format.  Two such bytes are not
looked at before a file is called cut off: the class byte of an ELF file, and the first byte
of the first field of the optional header of a PE file.
-/

namespace SharedObject

open Scan

namespace Source

variable {source long short : Source} {offset : Nat} {bytes : List UInt8}

theorem Extends.trans {longest : Source} (further : longest.Extends long)
    (extended : long.Extends short) : longest.Extends short := by
  obtain ⟨first, same⟩ := extended.bytes
  obtain ⟨second, alsoSame⟩ := further.bytes
  exact ⟨further.sound, first ++ second, by rw [alsoSame, same, Array.append_assoc]⟩

theorem Extends.holds (extended : long.Extends short) (held : short.Holds offset bytes)
    (nonempty : bytes ≠ []) : long.Holds offset bytes :=
  (extended.slice_eq (held.inside nonempty)).trans held

/-- A file that is no longer than its beginning has the same bytes. -/
theorem Extends.slice_eq_of_size_le (extended : long.Extends short) (le : long.size ≤ short.size)
    (position count : Nat) : long.slice position count = short.slice position count := by
  obtain ⟨suffix, same⟩ := extended.bytes
  have counted := congrArg Array.size same
  rw [Array.size_append] at counted
  have nothing : suffix = #[] := by
    apply Array.eq_empty_of_size_eq_zero
    rw [size, size] at le
    omega
  rw [slice, slice, same, nothing, Array.append_empty]

/-- Behind its end a file has nothing that could be wrong. -/
theorem slice_prefix_of_outside (outside : source.size ≤ offset) {count : Nat} :
    source.slice offset count <+: bytes := by
  have nothing : source.slice offset count = [] := by
    apply List.eq_nil_of_length_eq_zero
    rw [length_slice]
    omega
  exact nothing ▸ List.nil_prefix

/-- A slice that starts the bytes, and is as long, is all of them. -/
theorem holds_of_slice_prefix {count : Nat} (counted : bytes.length = count)
    (agrees : source.slice offset count <+: bytes) (inside : offset + count ≤ source.size) :
    source.Holds offset bytes := by
  subst counted
  apply agrees.eq_of_length
  rw [length_slice]
  omega

/-- Bytes that have a beginning of others at an offset, or end in front of it, padded up to
the offset and continued with the rest of the others. -/
theorem take_drop_continued {content bytes : List UInt8} {offset : Nat}
    (agrees : (content.drop offset).take bytes.length = bytes.take (content.length - offset)) :
    ((content ++ (List.replicate (offset - content.length) 0 ++
      bytes.drop (content.length - offset))).drop offset).take bytes.length = bytes := by
  have reach : offset ≤ (content ++ List.replicate (offset - content.length) 0).length := by
    rw [List.length_append, List.length_replicate]
    omega
  have padded : (content ++ List.replicate (offset - content.length) 0).drop offset =
      content.drop offset := by
    rw [List.drop_append, List.drop_replicate, Nat.sub_self, List.replicate_zero,
      List.append_nil]
  have fits : (bytes.drop (content.length - offset)).length =
      bytes.length - (content.drop offset).length := by
    rw [List.length_drop, List.length_drop]
  rw [← List.append_assoc, List.drop_append_of_le_length reach, padded, List.take_append, agrees,
    List.take_of_length_le (Nat.le_of_eq fits)]
  exact List.take_append_drop _ _

/-- A file that has a beginning of some bytes at an offset, or ends in front of it, goes on
with the rest of them in some longer file. -/
theorem exists_extends_holds {count : Nat} (counted : bytes.length = count)
    (agrees : source.slice offset count <+: bytes) :
    ∃ long : Source, long.Extends source ∧ long.size = max source.size (offset + count) ∧
      long.Holds offset bytes := by
  subst counted
  have length : source.bytes.toList.length = source.size := Array.length_toList
  have present : (source.bytes.toList.drop offset).take bytes.length =
      bytes.take (source.bytes.toList.length - offset) := by
    rw [slice_prefix_iff, slice_eq_take_drop] at agrees
    rw [agrees, Nat.min_comm, ← List.take_eq_take_min, length]
  let suffix : List UInt8 := List.replicate (offset - source.bytes.toList.length) 0 ++
    bytes.drop (source.bytes.toList.length - offset)
  refine ⟨{ bytes := source.bytes ++ suffix.toArray }, ⟨rfl, _, rfl⟩, ?_, ?_⟩
  · simp only [size, Array.size_append, List.size_toArray, List.length_append,
      List.length_replicate, List.length_drop, length, suffix]
    omega
  · rw [Holds, slice_eq_take_drop, Array.toList_append]
    exact take_drop_continued present

end Source

namespace Elf

variable {source long short : Source}

/-- The file is the magic number of an ELF file and one byte more, which is of no class. -/
structure Spoiled (source : Source) : Prop where
  whole : source.size = 5
  marked : source.Holds 0 magic
  classless : ∀ width, ¬source.Holds 4 [classByte width]

theorem Spoiled.cutOff (spoiled : Spoiled source) : CutOff source := by
  have whole := spoiled.whole
  have marked : source.slice 0 4 = magic := spoiled.marked
  exact ⟨by omega, by omega, marked ▸ List.prefix_rfl⟩

/-- No class has the byte that a spoiled file has for its class. -/
theorem Spoiled.not_hasIdentity (spoiled : Spoiled short) (extended : long.Extends short)
    {width : Width} {cursor moved : Cursor} :
    hasIdentity width long cursor ≠ .ok true moved := by
  intro identified
  obtain ⟨_, held⟩ := (hasIdentity_iff extended.sound).mp ⟨moved, identified⟩
  have classed : long.Holds 4 [classByte width] := (Source.holds_append.mp held).2
  have inside : 4 + 1 ≤ short.size := Nat.le_of_eq spoiled.whole.symm
  exact spoiled.classless width ((extended.slice_eq inside).symm.trans classed)

/-- What is there of the first six bytes is that of some class. -/
theorem CutOff.starts (cut : CutOff source) (unspoiled : ¬Spoiled source) :
    ∃ width, source.slice 0 6 <+: magic ++ [classByte width, 0] := by
  obtain ⟨_, few, starts⟩ := cut
  have content (count : Nat) (enough : source.size ≤ count) :
      source.slice 0 count = source.slice 0 source.size := by
    rw [source.slice_eq_slice_length, source.length_slice, Nat.sub_zero, Nat.min_eq_right enough]
  by_cases classless : source.size ≤ 4
  · refine ⟨.bits32, ?_⟩
    rw [content 6 (by omega), ← content 4 classless]
    exact starts.trans (List.prefix_append _ _)
  · have five : source.size = 5 := by omega
    have marked : source.Holds 0 magic := Source.holds_of_slice_prefix (by rfl) starts (by omega)
    obtain ⟨width, classed⟩ : ∃ width, source.Holds 4 [classByte width] := by
      by_contra otherwise
      exact unspoiled ⟨five, marked, not_exists.mp otherwise⟩
    have held : source.Holds 0 (magic ++ [classByte width]) :=
      Source.holds_append.mpr ⟨marked, classed⟩
    have first : source.slice 0 5 = magic ++ [classByte width] := held
    refine ⟨width, ?_⟩
    rw [content 6 (by omega), ← content 5 (by omega), first]
    exact ⟨[0], rfl⟩

theorem exists_hasIdentity_of_cutOff (cut : CutOff source) (unspoiled : ¬Spoiled source) :
    ∃ long : Source, long.Extends source ∧
      ∃ width moved, hasIdentity width long {} = .ok true moved := by
  obtain ⟨width, starts⟩ := cut.starts unspoiled
  obtain ⟨long, extended, size, held⟩ := Source.exists_extends_holds (by rfl) starts
  have whole : 6 ≤ long.size := by
    rw [size]
    exact Nat.le_max_right _ _
  have marked : long.Holds 0 ((magic ++ [classByte width]) ++ [0]) := held
  exact ⟨long, extended, width,
    (hasIdentity_iff extended.sound).mpr ⟨whole, (Source.holds_append.mp marked).1⟩⟩

end Elf

namespace MachO

variable {source : Source}

/-- Each magic number is that of a width. -/
theorem isMagic_of_mem {bytes : List UInt8} (among : bytes ∈ magicBytes) :
    ∃ width, UInt32.ofNat (littleEndianValue bytes) = magic width ∨
      UInt32.ofNat (littleEndianValue bytes) = swappedMagic width := by
  have either : ∀ bytes ∈ magicBytes,
      (UInt32.ofNat (littleEndianValue bytes) = magic .bits32 ∨
        UInt32.ofNat (littleEndianValue bytes) = swappedMagic .bits32) ∨
      (UInt32.ofNat (littleEndianValue bytes) = magic .bits64 ∨
        UInt32.ofNat (littleEndianValue bytes) = swappedMagic .bits64) := by
    decide
  rcases either bytes among with narrow | wide
  · exact ⟨.bits32, narrow⟩
  · exact ⟨.bits64, wide⟩

theorem exists_hasIdentity_of_cutOff (cut : CutOff source) :
    ∃ long : Source, long.Extends source ∧
      ∃ width moved, hasIdentity width long {} = .ok true moved := by
  obtain ⟨_, _, bytes, among, starts⟩ := cut
  have four : ∀ bytes ∈ magicBytes, bytes.length = 4 := by decide
  obtain ⟨long, extended, size, held⟩ := Source.exists_extends_holds (four bytes among) starts
  obtain ⟨width, isMagic⟩ := isMagic_of_mem among
  have content : long.slice 0 4 = bytes := four bytes among ▸ held
  have whole : 4 ≤ long.size := by
    rw [size]
    exact Nat.le_max_right _ _
  exact ⟨long, extended, width,
    (hasIdentity_iff extended.sound).mpr ⟨whole, content.symm ▸ isMagic⟩⟩

end MachO

namespace Pe

variable {source long short : Source}

/-- The file stops in the middle of the first field of the optional header, of which it has a
byte that is that of neither width. -/
structure Spoiled (source : Source) : Prop where
  dos : source.Holds 0 dosMagic
  pointer : signaturePointer + 4 ≤ source.size
  signed : source.Holds (headersOffset source) signature
  whole : source.size = headersOffset source + 25
  foreign : ∀ width,
    ¬source.Holds (headersOffset source + 24) [(optionalMagic width).toUInt8]

theorem Spoiled.cutOff (spoiled : Spoiled source) : CutOff source := by
  have whole := spoiled.whole
  have dos : source.slice 0 2 = dosMagic := spoiled.dos
  have signed : source.slice (headersOffset source) 4 = signature := spoiled.signed
  exact ⟨by omega, dos ▸ List.prefix_rfl,
    .inr ⟨by omega, signed ▸ List.prefix_rfl, by omega⟩⟩

/-- The first byte of a field of two bytes is the low byte of its value. -/
theorem eq_toUInt8_of_slice {first : UInt8} {rest : List UInt8} {value : UInt16}
    (same : UInt16.ofNat (littleEndianValue (first :: rest)) = value) : first = value.toUInt8 := by
  have byteLt := first.toNat_lt
  rw [← same]
  apply UInt8.toNat_inj.mp
  rw [littleEndianValue, UInt16.toNat_toUInt8, UInt16.toNat_ofNat']
  omega

theorem Spoiled.not_marked (spoiled : Spoiled short) (extended : long.Extends short)
    {width : Width} : ¬Marked width long := by
  intro marked
  have sameHeaders := headersOffset_extends extended spoiled.pointer
  have whole := marked.whole
  have field := marked.field
  rw [sameHeaders] at whole field
  have inside : headersOffset short + 24 + 1 ≤ short.size := Nat.le_of_eq spoiled.whole.symm
  have split := long.slice_append_slice (headersOffset short + 24) 1 1
  obtain ⟨byte, first⟩ : ∃ byte, long.slice (headersOffset short + 24) 1 = [byte] := by
    apply List.length_eq_one_iff.mp
    rw [Source.length_slice]
    omega
  rw [← split, first] at field
  have isLow := eq_toUInt8_of_slice field
  rw [isLow] at first
  exact spoiled.foreign width ((extended.slice_eq inside).symm.trans first)

/-- Where the DOS header is whole, and what is there of the signature and of the first field
of the optional header is right, the rest can be added. -/
theorem exists_marked_of_headed (dos : source.Holds 0 dosMagic)
    (pointer : signaturePointer + 4 ≤ source.size) (short : source.size ≤ headersOffset source + 26)
    (signs : source.slice (headersOffset source) 4 <+: signature)
    (begins : source.slice (headersOffset source + 24) 2 <+: [0x0B, 1]) :
    ∃ long : Source, long.Extends source ∧ Marked .bits32 long := by
  obtain ⟨signedFile, signing, signedSize, signed⟩ := Source.exists_extends_holds (by rfl) signs
  have stillBegins : signedFile.slice (headersOffset source + 24) 2 <+: [0x0B, 1] := by
    by_cases before : source.size ≤ headersOffset source + 24
    · exact Source.slice_prefix_of_outside (by omega)
    · rwa [signing.slice_eq_of_size_le (by omega)]
  obtain ⟨long, completing, size, field⟩ := Source.exists_extends_holds (by rfl) stillBegins
  have extended := completing.trans signing
  have sameHeaders := headersOffset_extends extended pointer
  have value : long.slice (headersOffset source + 24) 2 = [0x0B, 1] := field
  refine ⟨long, extended, ?_⟩
  constructor
  · exact extended.holds dos (List.cons_ne_nil _ _)
  · exact Nat.le_trans pointer extended.size_le
  · rw [sameHeaders]
    exact completing.holds signed (List.cons_ne_nil _ _)
  · omega
  · rw [sameHeaders, value]
    rfl

/-- A DOS header that stops before the end of its pointer can be completed so that it points
behind itself. -/
theorem exists_isStub (starts : source.slice 0 2 <+: dosMagic)
    (short : source.size < signaturePointer + 4) :
    ∃ long : Source, long.Extends source ∧ long.Holds 0 dosMagic ∧ IsStub long := by
  obtain ⟨begun, beginning, begunSize, dos⟩ := Source.exists_extends_holds (by rfl) starts
  rw [signaturePointer] at short
  have unset : begun.slice 0x3F 1 <+: [1] := Source.slice_prefix_of_outside (by omega)
  obtain ⟨long, pointing, size, high⟩ := Source.exists_extends_holds (by rfl) unset
  have far : 0x1000000 ≤ headersOffset long := by
    have highByte : long.slice 0x3F 1 = [1] := high
    have length : (long.slice 0x3C 3).length = 3 := by
      rw [Source.length_slice]
      omega
    have field := long.slice_append_slice 0x3C 3 1
    obtain ⟨first, second, third, low⟩ := List.length_eq_three.mp length
    rw [low, highByte] at field
    rw [headersOffset, signaturePointer, ← field]
    simp only [List.cons_append, List.nil_append, littleEndianValue, UInt8.toNat_one]
    omega
  refine ⟨long, pointing.trans beginning, pointing.holds dos (List.cons_ne_nil _ _), ?_, ?_⟩
  · rw [signaturePointer]
    omega
  · omega

theorem exists_marked_of_isStub (dos : source.Holds 0 dosMagic) (stub : IsStub source) :
    ∃ long : Source, long.Extends source ∧ Marked .bits32 long := by
  obtain ⟨pointer, before⟩ := stub
  apply exists_marked_of_headed dos pointer (by omega)
  · exact Source.slice_prefix_of_outside before
  · exact Source.slice_prefix_of_outside (by omega)

/-- A file that ends in the headers and is not spoiled has nothing wrong in the place of the
first field of the optional header. -/
theorem field_begins (dos : source.Holds 0 dosMagic) (pointer : signaturePointer + 4 ≤ source.size)
    (signs : source.slice (headersOffset source) 4 <+: signature)
    (ends : source.size < headersOffset source + 26) (unspoiled : ¬Spoiled source) :
    source.slice (headersOffset source + 24) 2 <+: [0x0B, 1] := by
  by_cases before : source.size ≤ headersOffset source + 24
  · exact Source.slice_prefix_of_outside before
  -- The file has one byte of the field, which is the right one.
  have whole : source.size = headersOffset source + 25 := by omega
  have signed : source.Holds (headersOffset source) signature :=
    Source.holds_of_slice_prefix (by rfl) signs (by omega)
  obtain ⟨width, low⟩ : ∃ width,
      source.Holds (headersOffset source + 24) [(optionalMagic width).toUInt8] := by
    by_contra otherwise
    exact unspoiled ⟨dos, pointer, signed, whole, not_exists.mp otherwise⟩
  have first : source.slice (headersOffset source + 24) 1 = [0x0B] := by
    cases width <;> exact low
  have one : (source.slice (headersOffset source + 24) 2).length = 1 := by
    rw [source.length_slice]
    omega
  rw [source.slice_eq_slice_length, one, first]
  exact ⟨[1], rfl⟩

theorem exists_marked_of_cutOff (cut : CutOff source) (unspoiled : ¬Spoiled source) :
    ∃ long : Source, long.Extends source ∧ Marked .bits32 long := by
  obtain ⟨_, starts, place⟩ := cut
  by_cases short : source.size < signaturePointer + 4
  · obtain ⟨header, heading, dos, stub⟩ := exists_isStub starts short
    obtain ⟨long, extended, marked⟩ := exists_marked_of_isStub dos stub
    exact ⟨long, extended.trans heading, marked⟩
  · obtain ⟨_, signs, ends⟩ := place.resolve_left short
    have pointer : signaturePointer + 4 ≤ source.size := Nat.le_of_not_lt short
    have started : 0 + 2 ≤ source.size := by
      rw [signaturePointer] at pointer
      omega
    have dos : source.Holds 0 dosMagic := Source.holds_of_slice_prefix (by rfl) starts started
    have begins := field_begins dos pointer signs ends unspoiled
    exact exists_marked_of_headed dos pointer (Nat.le_of_lt ends) signs begins

end Pe

namespace Format

variable {source long short : Source}

/-- Some file that starts with the bytes of this one is of a format. -/
def Completable (source : Source) : Prop :=
  ∃ (suffix : Array UInt8) (format : Format),
    outcome (firstDetected probeOrder) { bytes := source.bytes ++ suffix } {} = .ok (some format)

theorem completable_iff :
    Completable source ↔ ∃ long : Source, long.Extends source ∧
      ∃ format : Format, format.fits long = true := by
  unfold Completable
  simp only [outcome_firstDetected, Except.ok.injEq]
  constructor
  · rintro ⟨suffix, format, found⟩
    have fitting := List.find?_some found
    exact ⟨_, ⟨rfl, suffix, rfl⟩, format, fitting⟩
  · rintro ⟨long, extended, format, fitting⟩
    obtain ⟨suffix, same⟩ := extended.bytes
    have alike : Source.Extends { bytes := source.bytes ++ suffix } long :=
      ⟨rfl, #[], by rw [same, Array.append_empty]⟩
    exact ⟨suffix, format, find?_fits (mem_probeOrder format) (fits_extends alike fitting)⟩

/-- The file is cut off behind a byte that a file of the format does not have there. -/
def Spoiled (source : Source) : Prop :=
  Elf.Spoiled source ∨ Pe.Spoiled source

theorem cutOff_of_spoiled (spoiled : Spoiled source) : CutOff source := by
  rcases spoiled with elf | pe
  · exact .inl elf.cutOff
  · exact .inr (.inl pe.cutOff)

/-- A file that starts with a byte is of no format whose files do not. -/
theorem mem_firstBytes_of_holds {byte : UInt8} {bytes : List UInt8} {format : Format}
    (held : source.Holds 0 (byte :: bytes)) (fitting : format.fits source = true) :
    byte ∈ format.firstBytes := by
  obtain ⟨first, among, isFirst⟩ := firstByte_of_fits fitting
  cases (Source.getElem?_of_slice_eq_cons held.symm).symm.trans isFirst
  exact among

theorem not_completable_of_spoiled (spoiled : Spoiled source) : ¬Completable source := by
  rw [completable_iff]
  rintro ⟨long, extended, format, fitting⟩
  obtain ⟨moved, identified⟩ := hasIdentity_of_fits fitting
  rcases spoiled with elf | pe
  · have among := mem_firstBytes_of_holds (extended.holds elf.marked (List.cons_ne_nil _ _)) fitting
    cases format with
    | elf width => exact elf.not_hasIdentity extended identified
    | pe width => simp [firstBytes] at among
    | machO width => simp [firstBytes] at among
  · have among := mem_firstBytes_of_holds (extended.holds pe.dos (List.cons_ne_nil _ _)) fitting
    cases format with
    | elf width => simp [firstBytes] at among
    | pe width =>
        exact pe.not_marked extended ((Pe.hasIdentity_iff extended.sound).mp ⟨_, identified⟩)
    | machO width => simp [firstBytes] at among

theorem completable_of_cutOff (cut : CutOff source) (unspoiled : ¬Spoiled source) :
    Completable source := by
  rw [completable_iff]
  rcases cut with elf | pe | machO
  · obtain ⟨long, extended, width, _, identified⟩ :=
      Elf.exists_hasIdentity_of_cutOff elf fun spoiled => unspoiled (.inl spoiled)
    exact ⟨long, extended, .elf width, fits_of_hasIdentity identified⟩
  · obtain ⟨long, extended, marked⟩ :=
      Pe.exists_marked_of_cutOff pe fun spoiled => unspoiled (.inr spoiled)
    obtain ⟨_, identified⟩ := (Pe.hasIdentity_iff extended.sound).mpr marked
    exact ⟨long, extended, .pe .bits32, fits_of_hasIdentity identified⟩
  · obtain ⟨long, extended, width, _, identified⟩ := MachO.exists_hasIdentity_of_cutOff machO
    exact ⟨long, extended, .machO width, fits_of_hasIdentity identified⟩

theorem pos_of_cutOff (cut : CutOff source) : 0 < source.size := by
  rcases cut with elf | pe | machO
  · exact elf.1
  · exact pe.1
  · exact machO.1

/-- A file of no format is cut off exactly when it is spoiled, or when it can be completed and
is neither empty nor a DOS program. -/
theorem cutOff_iff (sound : source.fault = none)
    (misfit : ∀ format : Format, ¬format.fits source = true) :
    CutOff source ↔
      Spoiled source ∨ 0 < source.size ∧ ¬Pe.IsStub source ∧ Completable source := by
  constructor
  · intro cut
    by_cases spoiled : Spoiled source
    · exact .inl spoiled
    · exact .inr ⟨pos_of_cutOff cut, fun stub => not_cutOff_of_isStub stub cut,
        completable_of_cutOff cut spoiled⟩
  · rintro (spoiled | ⟨nonempty, headed, completable⟩)
    · exact cutOff_of_spoiled spoiled
    · obtain ⟨long, extended, format, fitting⟩ := completable_iff.mp completable
      exact cutOff_of_extends extended sound nonempty fitting (misfit format) fun stub =>
        headed stub.2

end Format

end SharedObject
