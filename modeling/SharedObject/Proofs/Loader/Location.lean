import Mathlib.Algebra.Group.Nat.Defs
import SharedObject.Locator

/-!
# Which module an address lies in

A segment covers the addresses from its start, which is counted from the base of its module
at 64 bits, as far as its size goes.  An address is looked for in one module after the
other, in the order of the loader, and the first one with a loaded segment that covers it
is the module of the address, whatever its name and whatever modules come after it.
-/

namespace SharedObject

namespace Segment

variable (segment : Segment) (base address : UInt64)

/-- The first address of a segment of a module based at `base`. -/
def start : Nat :=
  (base.toNat + segment.address.toNat) % 2 ^ 64

/-- The segment ends in front of the last address. -/
def EndsInside : Prop :=
  segment.start base + segment.size.toNat < 2 ^ 64

instance : Decidable (segment.EndsInside base) :=
  inferInstanceAs (Decidable (_ < _))

/-- The address is one of those that the segment takes up. -/
def Spans : Prop :=
  segment.start base ≤ address.toNat ∧ address.toNat < segment.start base + segment.size.toNat

instance : Decidable (segment.Spans base address) :=
  inferInstanceAs (Decidable (_ ∧ _))

variable {segment base address}

/-- Where the end of a segment does not wrap around, the segment covers what it spans. -/
theorem covers_iff (inside : segment.EndsInside base) :
    segment.covers base address = true ↔ segment.Spans base address := by
  have first : (base + segment.address).toNat = segment.start base := UInt64.toNat_add _ _
  have ending : (base + segment.address + segment.size).toNat =
      segment.start base + segment.size.toNat := by
    rw [UInt64.toNat_add, first]
    exact Nat.mod_eq_of_lt inside
  simp only [covers, Bool.and_eq_true, decide_eq_true_eq, UInt64.le_iff_toNat_le,
    UInt64.lt_iff_toNat_lt, first, ending]
  rfl

end Segment

namespace Module

variable (candidate : Module) (address : UInt64)

/-- The segments of a module that are loaded; none if it has no table of segments. -/
def loaded : List Segment :=
  (candidate.segments.getD []).filter (·.kind == Segment.loadKind)

/-- No loaded segment of the module runs up to the last address. -/
def EndsInside : Prop :=
  ∀ segment ∈ candidate.loaded, segment.EndsInside candidate.base

instance : Decidable candidate.EndsInside :=
  inferInstanceAs (Decidable (∀ segment ∈ candidate.loaded, segment.EndsInside candidate.base))

/-- A loaded segment of the module spans the address. -/
def Holds : Prop :=
  ∃ segment ∈ candidate.loaded, segment.Spans candidate.base address

instance : Decidable (candidate.Holds address) :=
  inferInstanceAs (Decidable (∃ segment ∈ candidate.loaded, segment.Spans candidate.base address))

variable {candidate address}

theorem covers_iff (inside : candidate.EndsInside) :
    candidate.covers address = true ↔ candidate.Holds address := by
  have among : candidate.covers address = true ↔
      ∃ segment ∈ candidate.loaded, segment.covers candidate.base address = true := by
    simp [covers, loaded, and_assoc]
  rw [among]
  constructor
  · rintro ⟨segment, member, covers⟩
    exact ⟨segment, member, (Segment.covers_iff (inside segment member)).mp covers⟩
  · rintro ⟨segment, member, spans⟩
    exact ⟨segment, member, (Segment.covers_iff (inside segment member)).mpr spans⟩

end Module

namespace System

variable {system : System} {address : UInt64}

theorem find?_covers_eq_none_iff (inside : ∀ candidate ∈ system.modules, candidate.EndsInside) :
    system.modules.find? (·.covers address) = none ↔
      ∀ candidate ∈ system.modules, ¬candidate.Holds address := by
  rw [List.find?_eq_none]
  constructor
  · intro uncovered candidate member
    exact mt (Module.covers_iff (inside candidate member)).mpr (uncovered candidate member)
  · intro uncovered candidate member
    exact mt (Module.covers_iff (inside candidate member)).mp (uncovered candidate member)

/-- The file of the running program is found, or it is not for a reason of the system. -/
theorem kind_of_programLocation {error : Error} (failed : system.programLocation = .error error) :
    error.kind = .io := by
  unfold programLocation at failed
  cases known : system.program with
  | some path =>
      rw [known] at failed
      cases failed
  | none =>
      rw [known] at failed
      cases failed
      rfl

theorem locationOfName_of_named {path : Path} (named : path.isEmpty = false) :
    system.locationOfName (some path) = .ok path := by
  simp [locationOfName, named]

theorem locationOfName_of_unnamed {name : Option Path}
    (unnamed : ∀ path, name = some path → path.isEmpty = true) :
    system.locationOfName name = system.programLocation := by
  cases name with
  | none => rfl
  | some path => simp [locationOfName, unnamed path rfl]

/-- A module that was found is never reported as missing. -/
theorem kind_of_locationOfName {name : Option Path} {error : Error}
    (failed : system.locationOfName name = .error error) : error.kind = .io := by
  unfold locationOfName at failed
  split at failed
  · split at failed
    · exact kind_of_programLocation failed
    · cases failed
  · exact kind_of_programLocation failed

/-- An address is located in the first module that holds it. -/
theorem moduleOf_of_first (inside : ∀ candidate ∈ system.modules, candidate.EndsInside)
    {before after : List Module} {found : Module}
    (modules : system.modules = before ++ found :: after) (holds : found.Holds address)
    (earlier : ∀ other ∈ before, ¬other.Holds address) :
    system.moduleOf address = system.locationOfName found.name := by
  have foundInside : found.EndsInside := inside found (by simp [modules])
  have covers := (Module.covers_iff foundInside).mpr holds
  have passed : ∀ other ∈ before, ¬other.covers address = true := by
    intro other member
    have otherInside : other.EndsInside := inside other (by simp [modules, member])
    exact mt (Module.covers_iff otherInside).mp (earlier other member)
  have first : system.modules.find? (·.covers address) = some found := by
    rw [List.find?_eq_some_iff_append]
    exact ⟨covers, before, after, modules, fun other member => by simpa using passed other member⟩
  rw [moduleOf, first]

theorem moduleOf_notMapped_iff (inside : ∀ candidate ∈ system.modules, candidate.EndsInside) :
    (∃ error, system.moduleOf address = .error error ∧ error.kind = .addressNotMapped) ↔
      ∀ candidate ∈ system.modules, ¬candidate.Holds address := by
  rw [← find?_covers_eq_none_iff inside, moduleOf]
  cases system.modules.find? (·.covers address) with
  | none => simp [Error.kind]
  | some found =>
      dsimp only
      constructor
      · rintro ⟨error, failed, notMapped⟩
        cases (kind_of_locationOfName failed).symm.trans notMapped
      · exact nofun

end System

namespace Loading

theorem run_locate {address : UInt64} (nonNull : address ≠ 0) (system : System)
    (loader : Loader) : (locate address system loader).1 = system.moduleOf address := by
  simp only [locate, if_neg nonNull]
  rfl

/-- An address that is not null is located in the first module, in the order of the loader,
that has a loaded segment over it: in the file that this module is named by, or in that of
the running program if it has no name, which may not be found.  The address is not mapped
exactly when no module has such a segment. -/
theorem locate_first (system : System) (loader : Loader) {address : UInt64}
    (nonNull : address ≠ 0) (inside : ∀ candidate ∈ system.modules, candidate.EndsInside) :
    let result := (locate address system loader).1
    (∀ before found after, system.modules = before ++ found :: after →
      found.Holds address → (∀ earlier ∈ before, ¬earlier.Holds address) →
        (∀ path, found.name = some path → path.isEmpty = false → result = .ok path) ∧
        ((∀ path, found.name = some path → path.isEmpty = true) →
          result = system.programLocation ∧
            ∀ error, system.programLocation = .error error → error.kind = .io)) ∧
    ((∃ error, result = .error error ∧ error.kind = .addressNotMapped) ↔
      ∀ candidate ∈ system.modules, ¬candidate.Holds address) := by
  intro result
  have located : result = system.moduleOf address := run_locate nonNull system loader
  rw [located]
  constructor
  · intro before found after modules holds earlier
    rw [System.moduleOf_of_first inside modules holds earlier]
    constructor
    · intro path named nonempty
      rw [named]
      exact System.locationOfName_of_named nonempty
    · intro unnamed
      exact ⟨System.locationOfName_of_unnamed unnamed, fun _ => System.kind_of_programLocation⟩
  · exact System.moduleOf_notMapped_iff inside

/-- A module without segments, one with a segment over an address that is not loaded, the
running program with a loaded segment over it whose start wraps around, and one more that is
loaded there: the address lies in the program, and no module has the one behind. -/
theorem locate_first_of_program :
    let program : Path := .ofString "/opt/app"
    let bare : Module := ⟨some (.ofString "/lib/a.so"), 0x5000, none⟩
    let noted : Module := ⟨some (.ofString "/lib/b.so"), 0x5000, some [⟨4, 0, 0x1000⟩]⟩
    let own : Module := ⟨none, 0xFFFFFFFFFFFFF000, some [⟨1, 0x6000, 0⟩, ⟨1, 0x6000, 0x1000⟩]⟩
    let late : Module := ⟨some (.ofString "/lib/c.so"), 0x4000, some [⟨1, 0, 0x2000⟩]⟩
    let system : System :=
      { program := some program
        fileExists := fun _ => false
        canonical := fun _ => none
        opening := fun _ => .error none
        symbol := fun _ _ => .error none
        linkMap := fun _ => .absent
        closing := fun _ => none
        modules := [bare, noted, own, late]
        memory := 0 }
    (∀ candidate ∈ system.modules, candidate.EndsInside) ∧
      (locate 0x5FFF system {}).1 = .ok program ∧
      ∃ error, (locate 0x6000 system {}).1 = .error error ∧ error.kind = .addressNotMapped := by
  intro program bare noted own late system
  have inside : ∀ candidate ∈ system.modules, candidate.EndsInside := by
    decide
  have held : (0x5FFF : UInt64) ≠ 0 := by decide
  have free : (0x6000 : UInt64) ≠ 0 := by decide
  obtain ⟨located, _⟩ := locate_first system {} held inside
  obtain ⟨_, missing⟩ := locate_first system {} free inside
  obtain ⟨_, unnamed⟩ := located [bare, noted] own [late] rfl (by decide) (by decide)
  have here := (unnamed nofun).1
  exact ⟨inside, here, missing.mpr (by decide)⟩

end Loading

end SharedObject
