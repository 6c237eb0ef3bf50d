import SharedObject.Proofs.Elf.Listing
import SharedObject.Proofs.LibraryFile.Extension
import SharedObject.Proofs.LibraryFile.Queries
import SharedObject.Proofs.MachO.Listing
import SharedObject.Proofs.Pe.Listing

/-!
# Listings are exact

A file that has the bytes of a layout opens, whatever its read calls give at a time,
and every query about it, after whichever queries, lists what the layout describes.
-/

namespace SharedObject

open Scan

variable {source : Source}

/-- A file of a format opens if its headers can be read; if each query then yields a
listing, every sequence of queries is answered with these listings. -/
theorem LibraryFile.ofSource_of_fits (known : source.lengthFault = none) {format : Format}
    (fitting : format.fits source = true) {nativeOnly : Bool}
    (permitted : format.permit nativeOnly = pure ()) {image : Image} {order : ByteOrder}
    (parsed : ∀ cursor, YieldsFrom source cursor order (Image.parse format) image)
    {listing : Query → List String}
    (lists : ∀ query, Yields source order (image.answer query) (listing query)) :
    ∃ file, (ofSource source nativeOnly).outcome = .ok file ∧ file.image = image ∧
      ∀ queries, file.askAll queries = queries.map fun query => .ok (listing query) := by
  have among : format ∈ Format.probeOrder := by
    rcases format with width | width | width <;> cases width <;> decide
  obtain ⟨between, recognized⟩ := Format.recognize_of_find? (Format.find?_fits among fitting) {}
  obtain ⟨moved, parsed⟩ := parsed between
  have read : format.readImage nativeOnly source between =
      .ok image { position := moved, order } := by
    rw [Format.readImage, permitted]
    exact parsed
  let file : LibraryFile := { source, cursor := { position := moved, order }, image }
  refine ⟨file, ofSource_ok.mpr ⟨known, rfl, format, between, recognized, read⟩, rfl, ?_⟩
  intro queries
  rw [askAll_eq_map]
  apply List.map_congr_left
  intro query _
  obtain ⟨last, answered⟩ := lists query moved
  exact ask_ok.mpr ⟨_, answered⟩

namespace Elf

variable {width : Width}

theorem Layout.HeldBy.fits {layout : Layout width} (held : layout.HeldBy source)
    (sound : source.fault = none) : (Format.elf width).fits source = true := by
  have whole : (layout.file.identity layout.order).length = 16 := by
    simp [FileRecord.identity]
  have enough := held.identity.inside (List.ne_nil_of_length_pos (by omega))
  rw [whole] at enough
  obtain ⟨start, _⟩ := Source.holds_append.mp held.identity
  have read : leading 6 source {} = .ok (source.slice 0 6) { position := 6 } := by
    have least : min source.size 6 = 6 := by omega
    rw [leading, run_bind, seek_of_inside (Nat.zero_le _)]
    dsimp only
    rw [run_bind, run_size]
    dsimp only
    rw [least]
    exact take_of_inside sound (by simpa using by omega)
  have identity : source.slice 0 6 = _ := start
  rw [identity] at read
  have identified : hasIdentity width source {} = .ok true { position := 6 } := by
    refine bind_ok.mpr ⟨_, _, read, ?_⟩
    cases width <;> rfl
  exact Format.fits_of_hasIdentity identified

end Elf

theorem MachO.Layout.HeldBy.fits {width : Width} {layout : MachO.Layout width}
    (held : layout.HeldBy source) (sound : source.fault = none) :
    (Format.machO width).fits source = true := by
  have read := MachO.run_readMagic sound held.file {}
  have identified : MachO.hasIdentity width source {} =
      .ok true { position := 4, order := .little } := by
    refine bind_ok.mpr ⟨_, _, read, ?_⟩
    cases width <;> cases layout.order <;> rfl
  exact Format.fits_of_hasIdentity identified

theorem Pe.Layout.HeldBy.fits {width : Width} {layout : Pe.Layout width}
    (held : layout.HeldBy source) (sound : source.fault = none) :
    (Format.pe width).fits source = true := by
  obtain ⟨moved, located⟩ := held.yields_locateOptionalHeader sound {}
  have identified : Pe.hasIdentity width source {} =
      .ok true { position := moved, order := .little } :=
    bind_ok.mpr ⟨_, _, located, by simp⟩
  exact Format.fits_of_hasIdentity identified

namespace LibraryFile

/-- A name in a field that it leaves room in. -/
def paddedField {count : Nat} (text : String) : Vector UInt8 count :=
  Vector.ofFn fun index => (utf8Bytes text)[index]?.getD 0

/-- An ELF file of either class and either byte order opens, also where only the formats
of the host are wanted, and lists the sections and the exported symbols of its layout. -/
theorem ofSource_elf {width : Width} (layout : Elf.Layout width) (bytes : Array UInt8)
    (chunk : Nat → Option Nat) (bounded : bytes.size < 2 ^ 64)
    (held : layout.HeldBy { bytes, chunk }) (nativeOnly : Bool) :
    ∃ file, (ofSource { bytes, chunk } nativeOnly).outcome = .ok file ∧
      file.format = .elf width ∧
      ∀ queries, file.askAll queries = queries.map fun query => .ok (layout.listing query) := by
  have permitted : (Format.elf width).permit nativeOnly = pure () := by
    cases nativeOnly <;> rfl
  obtain ⟨file, opened, image, answers⟩ := ofSource_of_fits rfl (held.fits rfl) permitted
    (fun cursor => (held.yields_parse rfl bounded cursor).map Image.elf)
    (held.yields_answer rfl bounded)
  exact ⟨file, opened, by rw [format, image]; rfl, answers⟩

/-- A big-endian file with two symbols of one name. -/
def elfSample : Elf.Layout .bits32 where
  order := .big
  file :=
    { identityRest := Vector.replicate 10 0, kind := 3, machine := 20, version := 1, entry := 0
      programHeaders := 0, tableOffset := 127, flags := 0, headerSize := 52
      programEntrySize := 0, programCount := 0, entrySize := 40, sectionCount := 4
      nameTable := 3 }
  nameTable := 3
  sections :=
    [{ name := "", record := ⟨0, 0, 0, 0, 0, 0, 0, 0, 0, 0⟩ },
      { name := ".text", record := ⟨1, 1, 0, 0, 0, 0, 0, 0, 0, 0⟩ },
      { name := ".symtab", record := ⟨7, 2, 0, 0, 79, 48, 3, 1, 0, 0⟩
        symbols :=
          [{ name := "", record := ⟨⟨0, 0, 0, 0⟩, 0, 0⟩ },
            { name := "run", record := ⟨⟨23, 0x12, 0, 1⟩, 0, 0⟩ },
            { name := "run", record := ⟨⟨23, 0x22, 3, 3⟩, 0, 0⟩ }] },
      { name := ".strtab", record := ⟨15, 3, 0, 0, 52, 27, 0, 0, 0, 0⟩ }]

theorem ofSource_elf_of_sample :
    let names := ["", ".text", ".symtab", ".strtab", "run"]
    let entries := elfSample.sections.flatMap (·.symbols)
    let bytes := elfSample.file.identity .big ++ elfSample.file.fields .big ++
      names.flatMap (utf8Bytes · ++ [0]) ++ entries.flatMap (·.record.bytes .big) ++
      elfSample.sections.flatMap (·.record.bytes .big)
    elfSample.HeldBy { bytes := bytes.toArray } ∧
      ∃ file, (ofSource { bytes := bytes.toArray } true).outcome = .ok file ∧
        file.askAll [.sections, .symbols, .sectionSymbols ".text", .sectionSymbols ".symtab"] =
          [.ok ["", ".text", ".symtab", ".strtab"], .ok ["run"], .ok ["run"], .ok []] := by
  intro names entries bytes
  have held : elfSample.HeldBy { bytes := bytes.toArray } :=
    { identity := by decide +kernel
      fields := by decide +kernel
      table := .inr ⟨elfSample.sections[0],
        { present := by decide
          starts := rfl
          entrySize := by decide
          inside := by decide +kernel
          count := rfl
          nameTable := rfl
          named := by decide
          headers := by decide +kernel
          names := ⟨elfSample.sections[3], rfl, by decide +kernel, by decide +kernel⟩
          symbols := by
            intro table among isTable
            have member : table ∈ elfSample.sections.filter (·.IsTable) :=
              List.mem_filter.mpr ⟨among, decide_eq_true isTable⟩
            obtain rfl := List.mem_singleton.mp member
            exact ⟨elfSample.sections[3], .inl rfl, by decide, by decide +kernel,
              by decide +kernel, rfl, by decide +kernel, by decide +kernel⟩ }⟩ }
  obtain ⟨file, opened, _, answers⟩ := ofSource_elf elfSample _ _ (by decide +kernel) held true
  refine ⟨held, file, opened, ?_⟩
  rw [answers]
  decide +kernel

/-- A Mach-O file of either width and either byte order opens and lists the sections and
the exported symbols of its layout. -/
theorem ofSource_machO {width : Width} (layout : MachO.Layout width) (bytes : Array UInt8)
    (chunk : Nat → Option Nat) (held : layout.HeldBy { bytes, chunk }) :
    ∃ file, (ofSource { bytes, chunk } false).outcome = .ok file ∧
      file.format = .machO width ∧
      ∀ queries, file.askAll queries = queries.map fun query => .ok (layout.listing query) := by
  have permitted : (Format.machO width).permit false = pure () := rfl
  obtain ⟨file, opened, image, answers⟩ := ofSource_of_fits rfl (held.fits rfl) permitted
    (fun cursor => (held.yields_parse rfl cursor).map Image.machO) (held.yields_answer rfl)
  exact ⟨file, opened, by rw [format, image]; rfl, answers⟩

/-- A file with a section in each of two segments and a command in between. -/
def machOSample : MachO.Layout .bits64 where
  order := .little
  file := { processor := 7, subtype := 3, kind := 6, commandsSize := 336, flags := 0 }
  commands :=
    [.segment 152 [⟨paddedField "__text", paddedField "__TEXT"⟩],
      .other 0x1B 8,
      .segment 152 [⟨paddedField "__data", paddedField "__DATA"⟩],
      .symbolTable 24 ⟨368, 3, 416, 15⟩]
  symbols :=
    [{ name := "_run", record := ⟨⟨1, 0x0F, 1⟩, 0, 0⟩ },
      { name := "_", record := ⟨⟨6, 0x0F, 2⟩, 0, 0⟩ },
      { name := "_state", record := ⟨⟨8, 0x0F, 2⟩, 0, 0⟩ }]

theorem ofSource_machO_of_sample :
    let segment (size : Nat) (record : MachO.SectionRecord) :=
      ByteOrder.little.bytes 4 0x19 ++ ByteOrder.little.bytes 4 size ++ List.replicate 56 0 ++
        ByteOrder.little.bytes 4 1 ++ List.replicate 4 0 ++
        record.sectionField.toList ++ record.segmentField.toList ++ List.replicate 48 0
    let bytes := machOSample.file.bytes .bits64 .little 4 ++ List.replicate 4 0 ++
      segment 152 ⟨paddedField "__text", paddedField "__TEXT"⟩ ++
      ByteOrder.little.bytes 4 0x1B ++ ByteOrder.little.bytes 4 8 ++
      segment 152 ⟨paddedField "__data", paddedField "__DATA"⟩ ++
      ByteOrder.little.bytes 4 2 ++ ByteOrder.little.bytes 4 24 ++
      MachO.SymbolTable.bytes .little ⟨368, 3, 416, 15⟩ ++
      machOSample.symbols.flatMap (·.record.bytes .little) ++
      ["", "_run", "_", "_state"].flatMap (utf8Bytes · ++ [0])
    machOSample.HeldBy { bytes := bytes.toArray } ∧
      ∃ file, (ofSource { bytes := bytes.toArray } false).outcome = .ok file ∧
        file.askAll [.sections, .symbols, .sectionSymbols "__DATA,__data"] =
          [.ok ["__TEXT,__text", "__DATA,__data"], .ok ["run", "state"], .ok ["state"]] := by
  intro segment bytes
  have held : machOSample.HeldBy { bytes := bytes.toArray } :=
    { file := by decide +kernel
      areaInside := by decide +kernel
      commands := by
        refine ⟨⟨by decide +kernel, by decide +kernel, by decide +kernel, by decide +kernel⟩,
          ⟨by decide +kernel, by decide, by decide, by decide⟩,
          ⟨by decide +kernel, by decide +kernel, by decide +kernel, by decide +kernel⟩,
          ⟨by decide +kernel, by decide, by decide +kernel⟩, Nat.le_refl 368⟩
      symbols := by
        intro table found
        obtain rfl : table = ⟨368, 3, 416, 15⟩ := Option.some.inj found.symm
        exact ⟨rfl, by decide +kernel, by decide +kernel, by decide +kernel, by decide +kernel⟩
      noSymbols := by decide }
  obtain ⟨file, opened, _, answers⟩ := ofSource_machO machOSample _ _ held
  refine ⟨held, file, opened, ?_⟩
  rw [answers]
  decide +kernel

/-- A PE file of either width opens and lists the sections and the exports of its layout,
those of a section by the addresses of their functions. -/
theorem ofSource_pe {width : Width} (layout : Pe.Layout width) (bytes : Array UInt8)
    (chunk : Nat → Option Nat) (bounded : bytes.size < 2 ^ 64)
    (held : layout.HeldBy { bytes, chunk }) :
    ∃ file, (ofSource { bytes, chunk } false).outcome = .ok file ∧
      file.format = .pe width ∧
      ∀ queries, file.askAll queries = queries.map fun query => .ok (layout.listing query) := by
  have permitted : (Format.pe width).permit false = pure () := rfl
  obtain ⟨file, opened, image, answers⟩ := ofSource_of_fits rfl (held.fits rfl) permitted
    (fun cursor => (held.yields_parse rfl bounded cursor).map Image.pe)
    (held.yields_answer rfl bounded)
  exact ⟨file, opened, by rw [format, image]; rfl, answers⟩

/-- A file whose two names have their functions in the other order, one of them in a
section with a long name. -/
def peSample : Pe.Layout .bits32 where
  file :=
    { headersOffset := 64, machine := 0x14C, timestamp := 0, symbolTable := 382
      symbolCount := 0, optionalSize := 104, characteristics := 0x2022, directoryCount := 1 }
  sections :=
    let others := Vector.replicate 16 0
    [{ name := ".text", record := ⟨paddedField ".text", 16, 0x1000, 0, 0, others⟩ },
      { name := ".edata", record := ⟨paddedField ".edata", 0, 0x2000, 70, 312, others⟩ },
      { name := ".data_section", record := ⟨paddedField "/4", 16, 0x3000, 0, 0, others⟩ }]
  exportTable := some
    { directory := 0x2000, functionsAddress := 0x2028, namesAddress := 0x2030
      ordinalsAddress := 0x2038, functions := [0x3000, 0x1004]
      exports := [⟨"run", 0x203C, 1⟩, ⟨"state", 0x2040, 0⟩] }

theorem ofSource_pe_of_sample :
    let number (count value : Nat) := ByteOrder.little.bytes count value
    let optional := List.replicate 90 0 ++ number 4 1 ++ number 4 0x2000 ++ number 4 70
    let directory := List.replicate 20 0 ++ number 4 2 ++ number 4 2 ++ number 4 0x2028 ++
      number 4 0x2030 ++ number 4 0x2038
    let tables := number 4 0x3000 ++ number 4 0x1004 ++ number 4 0x203C ++ number 4 0x2040 ++
      number 2 1 ++ number 2 0
    let bytes := [0x4D, 0x5A] ++ List.replicate 58 0 ++ number 4 64 ++
      peSample.file.headers .bits32 3 ++ optional ++ peSample.sections.flatMap (·.record.bytes) ++
      directory ++ tables ++ ["run", "state"].flatMap (utf8Bytes · ++ [0]) ++
      number 4 18 ++ utf8Bytes ".data_section" ++ [0]
    peSample.HeldBy { bytes := bytes.toArray } ∧
      ∃ file, (ofSource { bytes := bytes.toArray } false).outcome = .ok file ∧
        file.askAll
            [.sections, .symbols, .sectionSymbols ".text", .sectionSymbols ".data_section"] =
          [.ok [".text", ".edata", ".data_section"], .ok ["run", "state"], .ok ["run"],
            .ok ["state"]] := by
  intro number optional directory tables bytes
  have kept {address : UInt32} {extent offset : Nat}
      (keeps : peSample.sections[1].record.Keeps address.toNat extent offset)
      (inside : offset + extent ≤ bytes.toArray.size) :
      peSample.Keeps { bytes := bytes.toArray } address extent offset :=
    ⟨⟨_, List.getElem_mem (by decide), keeps⟩, inside⟩
  have held : peSample.HeldBy { bytes := bytes.toArray } :=
    { dosMagic := by decide +kernel
      headersOffset := by decide +kernel
      headers := by decide +kernel
      optionalSize := by decide
      directoryCount := by decide +kernel
      sectionCount := by decide
      tableInside := by decide +kernel
      sections := by decide +kernel
      names := by
        simp only [peSample, List.forall_mem_cons]
        refine ⟨.inl (by decide +kernel), .inl (by decide +kernel), .inr ⟨by decide, ['4'], ?_⟩,
          nofun⟩
        exact ⟨by decide, List.forall_mem_singleton.mpr rfl, by decide +kernel, by decide +kernel⟩
      disjoint := by
        simp [peSample, Pe.SectionRecord.Spans]
        grind
      exports :=
        { declared := by decide
          room := by decide
          address := by decide +kernel
          present := by decide
          functionCount := by decide
          exportCount := by decide
          directory := ⟨312, kept (by decide +kernel) (by decide +kernel), by decide +kernel⟩
          tables := fun _ => ⟨360, 368, 352,
            { names := kept (by decide +kernel) (by decide +kernel)
              nameEntries := by decide +kernel
              ordinals := kept (by decide +kernel) (by decide +kernel)
              ordinalEntries := by decide +kernel
              functions := kept (by decide +kernel) (by decide +kernel)
              functionEntries := by decide +kernel
              ordinalsInside := by decide
              nameTexts := by
                rw [List.forall_mem_cons, List.forall_mem_singleton]
                exact ⟨⟨372, kept (by decide +kernel) (by decide +kernel), by decide +kernel⟩,
                  ⟨376, kept (by decide +kernel) (by decide +kernel), by decide +kernel⟩⟩ }⟩ } }
  obtain ⟨file, opened, _, answers⟩ := ofSource_pe peSample _ _ (by decide +kernel) held
  refine ⟨held, file, opened, ?_⟩
  rw [answers]
  decide +kernel

end LibraryFile

end SharedObject
