import SharedObject.Elf.Header
import SharedObject.Elf.Symbol
import SharedObject.Error
import SharedObject.FileTree
import SharedObject.Format
import SharedObject.Import
import SharedObject.IoFailure
import SharedObject.LibraryFile
import SharedObject.LoadMode
import SharedObject.Loader
import SharedObject.Locator
import SharedObject.MachO.Header
import SharedObject.MachO.Symbol
import SharedObject.Malformed
import SharedObject.Path.Basic
import SharedObject.Path.Components
import SharedObject.Path.Decoration
import SharedObject.Pe.Export
import SharedObject.Pe.Header
import SharedObject.Scan.Arithmetic
import SharedObject.Scan.Basic
import SharedObject.Scan.Field
import SharedObject.Scan.Name
import SharedObject.Scan.Source
import SharedObject.Script
import SharedObject.Session.Basic
import SharedObject.Session.Slots
import SharedObject.Session.Step
import SharedObject.SharedLibrary
import SharedObject.System
import SharedObject.Text
import SharedObject.Proofs.Loader.References
import SharedObject.Proofs.Loader.Transfers
import SharedObject.Proofs.Session.Accounts
import SharedObject.Proofs.Session.Change
import SharedObject.Proofs.Session.Balance
import SharedObject.Proofs.Session.Succession
import SharedObject.Proofs.Session.Origins
import SharedObject.Proofs.Session.Lifetime
import SharedObject.Proofs.Scan.Reading
import SharedObject.Proofs.Scan.Ensures
import SharedObject.Proofs.LibraryFile.Opening
import SharedObject.Proofs.Elf.Defects
import SharedObject.Proofs.Pe.Defects
import SharedObject.Proofs.MachO.Defects
import SharedObject.Proofs.LibraryFile.Defects
import SharedObject.Proofs.Scan.Regular
import SharedObject.Proofs.Scan.Extension
import SharedObject.Proofs.Scan.Restart
import SharedObject.Proofs.Elf.Regularity
import SharedObject.Proofs.MachO.Regularity
import SharedObject.Proofs.Pe.Regularity
import SharedObject.Proofs.Format.Detection
import SharedObject.Proofs.LibraryFile.Extension
import SharedObject.Proofs.Scan.Faults
import SharedObject.Proofs.Scan.Steady
import SharedObject.Proofs.Elf.Steady
import SharedObject.Proofs.MachO.Steady
import SharedObject.Proofs.Pe.Steady
import SharedObject.Proofs.LibraryFile.Queries
import SharedObject.Proofs.LibraryFile.Faults
import SharedObject.Proofs.Text.Utf8
import SharedObject.Proofs.Scan.Holding
import SharedObject.Proofs.Scan.Yielding
import SharedObject.Proofs.Elf.Layout
import SharedObject.Proofs.Elf.Listing
import SharedObject.Proofs.MachO.Layout
import SharedObject.Proofs.MachO.Listing
import SharedObject.Proofs.Pe.Layout
import SharedObject.Proofs.Pe.Listing
import SharedObject.Proofs.LibraryFile.Listing
import SharedObject.Proofs.Scan.Collecting
import SharedObject.Proofs.Elf.Membership
import SharedObject.Proofs.MachO.Membership
import SharedObject.Proofs.Pe.Membership
import SharedObject.Proofs.LibraryFile.Independence
import SharedObject.Proofs.LibraryFile.Coherence
import SharedObject.Proofs.Scan.Truncation
import SharedObject.Proofs.Scan.Sound
import SharedObject.Proofs.Format.CutOff
import SharedObject.Proofs.LibraryFile.CutOff
import SharedObject.Proofs.Loader.Pending
import SharedObject.Proofs.Loader.Diagnosis
import SharedObject.Proofs.Session.Pending
import SharedObject.Proofs.Session.Diagnosis
import SharedObject.Proofs.LibraryFile.Classification
import SharedObject.Proofs.Loader.Flags
import SharedObject.Proofs.Loader.Fallback
import SharedObject.Proofs.LibraryFile.SectionLookup
import SharedObject.Proofs.Scan.Agreement
import SharedObject.Proofs.MachO.Confinement
import SharedObject.Proofs.LibraryFile.Confinement
import SharedObject.Proofs.Text.Ascii
import SharedObject.Proofs.Path.Components
import SharedObject.Proofs.Path.Decoration
import SharedObject.Proofs.Loader.Search
import SharedObject.Proofs.Pe.Translation
import SharedObject.Proofs.LibraryFile.Translation
import SharedObject.Proofs.Scan.Reaching
import SharedObject.Proofs.Format.Faults
import SharedObject.Proofs.LibraryFile.OpeningFaults
import SharedObject.Proofs.Elf.ReservedIndex
import SharedObject.Proofs.LibraryFile.ReservedIndex
import SharedObject.Proofs.Loader.CurrentDirectory
import SharedObject.Proofs.Scan.Decoding
import SharedObject.Proofs.Pe.SectionName
import SharedObject.Proofs.LibraryFile.SectionNames
import SharedObject.Proofs.LibraryFile.ProbeOrder
import SharedObject.Proofs.Loader.Location
import SharedObject.Proofs.Scan.NameBounds
import SharedObject.Proofs.Scan.TextCount
import SharedObject.Proofs.Format.SectionCount
import SharedObject.Proofs.LibraryFile.ListingBounds
import SharedObject.Proofs.Format.Completion
import SharedObject.Proofs.LibraryFile.Completion
