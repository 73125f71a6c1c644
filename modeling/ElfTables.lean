import ElfTables.Main
import ElfTables.Proofs.AbsentTables
import ElfTables.Proofs.AddressColumns
import ElfTables.Proofs.AddressTranslation
import ElfTables.Proofs.AnnouncedCounts
import ElfTables.Proofs.Classification
import ElfTables.Proofs.CoveringSegments
import ElfTables.Proofs.DisplayConvention
import ElfTables.Proofs.EntryReads
import ElfTables.Proofs.FirstFailure
import ElfTables.Proofs.HeaderReading
import ElfTables.Proofs.ItemBounds
import ElfTables.Proofs.JsonAnswers
import ElfTables.Proofs.JsonListings
import ElfTables.Proofs.LoadMessages
import ElfTables.Proofs.NameMatches
import ElfTables.Proofs.OpeningConditions
import ElfTables.Proofs.PrintedAddresses
import ElfTables.Proofs.ResolvedAddresses
import ElfTables.Proofs.SectionRoundTrip
import ElfTables.Proofs.SectionScans
import ElfTables.Proofs.SectionSearch
import ElfTables.Proofs.SegmentDependence
import ElfTables.Proofs.SegmentKinds
import ElfTables.Proofs.SegmentRoundTrip
import ElfTables.Proofs.SessionHistory
import ElfTables.Proofs.TableHistory
import ElfTables.Proofs.Truncation
import ElfTables.Proofs.UnclassifiedSessions
