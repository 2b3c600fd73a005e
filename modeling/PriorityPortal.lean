import PriorityPortal.Main
import PriorityPortal.RequestId
import PriorityPortal.Settings.Writer
import PriorityPortal.Tally.Handles
import PriorityPortal.Tally.Snapshot
import PriorityPortal.Trial.Bus
import PriorityPortal.Trial.Services
import PriorityPortal.Proofs.Decimal
import PriorityPortal.Proofs.PidMapping
import PriorityPortal.Proofs.RelayStep
import PriorityPortal.Proofs.Course
import PriorityPortal.Proofs.Archive
import PriorityPortal.Proofs.Completion
import PriorityPortal.Proofs.PrivilegedCalls
import PriorityPortal.Proofs.Serving
import PriorityPortal.Proofs.TrustBoundary
import PriorityPortal.Proofs.Relisting
import PriorityPortal.Proofs.PidIsolation
import PriorityPortal.Proofs.OpenRecords
import PriorityPortal.Proofs.Logbook
import PriorityPortal.Proofs.LinkOutcome
import PriorityPortal.Proofs.Locality
import PriorityPortal.Proofs.Exchange
import PriorityPortal.Proofs.LinkTurns
import PriorityPortal.Proofs.Independence
import PriorityPortal.Proofs.ErrorRelay
import PriorityPortal.Proofs.KeyfileName
import PriorityPortal.Proofs.Passage
import PriorityPortal.Proofs.Utf8
import PriorityPortal.Proofs.CallerOrigin
import PriorityPortal.Proofs.Respelling
import PriorityPortal.Proofs.NameGrammar
import PriorityPortal.Proofs.NameChecks
import PriorityPortal.Proofs.QuotedText
import PriorityPortal.Proofs.DocumentText
import PriorityPortal.Proofs.SettingsText
import PriorityPortal.Proofs.SendableErrors
import PriorityPortal.Proofs.Occasion
import PriorityPortal.Proofs.ServedCalls
import PriorityPortal.Proofs.Replies
import PriorityPortal.Proofs.Counting
import PriorityPortal.Proofs.Families
import PriorityPortal.Proofs.Latency
import PriorityPortal.Proofs.Signatures
import PriorityPortal.Proofs.PropertyReading
import PriorityPortal.Proofs.FirstExport
import PriorityPortal.Proofs.SpecifiedNames
import PriorityPortal.Proofs.IdlePolls
import PriorityPortal.Proofs.TrimmedLines
import PriorityPortal.Proofs.KeyfileEdits
import PriorityPortal.Proofs.Overlay
import PriorityPortal.Proofs.ArgumentTokens
import PriorityPortal.Proofs.TextLayout
import PriorityPortal.Proofs.NestedPids
