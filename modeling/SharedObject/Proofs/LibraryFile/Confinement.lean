import SharedObject.Proofs.LibraryFile.CutOff
import SharedObject.Proofs.MachO.Confinement

/-!
# What opening a Mach-O file depends on

Two files that have the same header and the same load commands open alike, or fail alike,
provided that the symbol table commands among them have room for their fields.
-/

namespace SharedObject

open Scan

theorem Image.agrees_parse_machO {first second : Source} {bound : Nat}
    (agree : first.AgreeBelow bound second) {width : Width}
    (reach : MachO.commandsEndIn width first ≤ bound)
    (fit : MachO.SymbolTablesFit width first ∨ MachO.commandsEndIn width first + 16 ≤ bound)
    (cursor : Cursor) :
    outcome (Image.parse (.machO width)) first cursor =
      outcome (Image.parse (.machO width)) second cursor := by
  have agrees : Agrees first second cursor (Image.parse (.machO width)) fun _ _ => True :=
    (MachO.agrees_parse agree width reach fit).bind fun image moved _ => .pure .intro
  rw [outcome, outcome, agrees.1]

namespace LibraryFile

/-- Opening a Mach-O file depends on nothing behind the area of its load commands if every
symbol table command has room for its fields, and on at most 16 bytes behind it otherwise.
Of two files that are the same that far, and go on as they like, both open, with the same
sections and the same places of the symbols and their names, or both fail alike. -/
theorem ofSource_confined (bytes other : Array UInt8) (chunk otherChunk : Nat → Option Nat)
    (bound : Nat) {width : Width}
    (detected : outcome (Format.machO width).detect { bytes, chunk } {} = .ok true)
    (reach : MachO.commandsEndIn width { bytes, chunk } ≤ bound)
    (fit : MachO.SymbolTablesFit width { bytes, chunk } ∨
      MachO.commandsEndIn width { bytes, chunk } + 16 ≤ bound)
    (inside : bound ≤ bytes.size) (otherInside : bound ≤ other.size)
    (same : bytes.extract 0 bound = other.extract 0 bound) (nativeOnly : Bool) :
    (ofSource { bytes, chunk } nativeOnly).outcome.map (·.image) =
      (ofSource { bytes := other, chunk := otherChunk } nativeOnly).outcome.map (·.image) := by
  let first : Source := { bytes, chunk }
  let second : Source := { bytes := other, chunk := otherChunk }
  have agree : first.AgreeBelow bound second :=
    { firstSound := rfl
      secondSound := rfl
      firstInside := inside
      secondInside := otherInside
      same := by simp only [Source.slice, Nat.zero_add, first, second, same] }
  have fitting : (Format.machO width).fits first = true := by
    rw [Format.outcome_detect] at detected
    exact Except.ok.inj detected
  have fittingOther : (Format.machO width).fits second = true := by
    have magic : 4 ≤ bound := by
      have header : 28 ≤ MachO.headerSize width := by
        cases width <;> decide
      unfold MachO.commandsEndIn at reach
      omega
    obtain ⟨_, isMagic⟩ := (MachO.hasIdentity_iff rfl).mp (Format.fits_iff.mp fitting)
    rw [agree.slice_eq (by omega)] at isMagic
    exact Format.fits_iff.mpr ((MachO.hasIdentity_iff rfl).mpr
      ⟨Nat.le_trans magic otherInside, isMagic⟩)
  obtain ⟨cursor, opening⟩ := outcome_ofSource_of_fits rfl fitting nativeOnly
  obtain ⟨start, openingOther⟩ := outcome_ofSource_of_fits rfl fittingOther nativeOnly
  rw [opening, openingOther]
  rcases Format.readImage_cases (.machO width) nativeOnly with parsed | ⟨error, refused⟩
  · rw [parsed, (Image.restarts_parse (.machO width)).settled first cursor start]
    exact Image.agrees_parse_machO agree reach fit start
  · rw [refused]
    rfl

/-- The header and the load commands of a file with a symbol table command in full, and two
ways in which the file may go on. -/
theorem ofSource_confined_of_table :
    let area : Array UInt8 :=
      #[0xCE, 0xFA, 0xED, 0xFE] ++ Array.replicate 12 0 ++ #[1, 0, 0, 0, 24, 0, 0, 0, 0, 0, 0, 0] ++
        #[2, 0, 0, 0, 24, 0, 0, 0, 52, 0, 0, 0, 0, 0, 0, 0, 52, 0, 0, 0, 1, 0, 0, 0]
    MachO.commandsEndIn .bits32 { bytes := area ++ #[1] } = 52 ∧
      MachO.SymbolTablesFit .bits32 { bytes := area ++ #[1] } ∧
      (ofSource { bytes := area ++ #[1] } false).outcome.isOk = true ∧
      (ofSource { bytes := area ++ #[1] } false).outcome.map (·.image) =
        (ofSource { bytes := area ++ #[2, 3] } false).outcome.map (·.image) := by
  intro area
  let first : Source := { bytes := area ++ #[1] }
  have detected : outcome (Format.machO .bits32).detect first {} = .ok true := by
    rw [Format.outcome_detect]
    decide +kernel
  have areaEnd : MachO.commandsEndIn .bits32 first = 52 := by decide +kernel
  have opens : (ofSource first false).outcome.isOk = true := by decide +kernel
  have alike := ofSource_confined first.bytes (area ++ #[2, 3]) first.chunk (fun _ => none) 52
    detected (Nat.le_of_eq areaEnd) (.inl (by decide +kernel)) (by decide +kernel)
    (by decide +kernel) (by decide +kernel) false
  exact ⟨areaEnd, by decide +kernel, opens, alike⟩

/-- Two files have the same header and the same load commands, a symbol table command of
8 bytes, and open with different symbol tables. -/
theorem ofSource_not_confined :
    let area : Array UInt8 :=
      #[0xCE, 0xFA, 0xED, 0xFE] ++ Array.replicate 12 0 ++ #[1, 0, 0, 0, 8, 0, 0, 0, 0, 0, 0, 0] ++
        #[2, 0, 0, 0, 8, 0, 0, 0]
    let bytes := area ++ Array.replicate 16 0
    let other := area ++ Array.replicate 16 1
    let bound := MachO.commandsEndIn .bits32 { bytes }
    bound ≤ bytes.size ∧ bound ≤ other.size ∧ bytes.extract 0 bound = other.extract 0 bound ∧
      ¬MachO.SymbolTablesFit .bits32 { bytes } ∧
      (ofSource { bytes } false).outcome.toOption.map (·.image) =
        some (.machO ⟨.bits32, 1, ⟨[], some ⟨0, 0, 0, 0⟩⟩⟩) ∧
      (ofSource { bytes := other } false).outcome.toOption.map (·.image) =
        some (.machO ⟨.bits32, 1, ⟨[], some ⟨0x01010101, 0x01010101, 0x01010101, 0x01010101⟩⟩⟩) := by
  decide +kernel

end LibraryFile

end SharedObject
