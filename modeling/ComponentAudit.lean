import ComponentAudit.Main
import ComponentAudit.Proofs.Places
import ComponentAudit.Proofs.Retaining
import ComponentAudit.Proofs.Verdicts
import ComponentAudit.Proofs.ByteOrder
import ComponentAudit.Proofs.Reporting
import ComponentAudit.Proofs.Files
import ComponentAudit.Proofs.Parts
import ComponentAudit.Proofs.Requiring
import ComponentAudit.Proofs.Paths
import ComponentAudit.Proofs.Walking
import ComponentAudit.Proofs.ParserChoice
import ComponentAudit.Proofs.Passing
import ComponentAudit.Proofs.Following
import ComponentAudit.Proofs.Naming
import ComponentAudit.Proofs.Calendar
import ComponentAudit.Proofs.Moments
import ComponentAudit.Proofs.Fields
import ComponentAudit.Proofs.Records
import ComponentAudit.Proofs.Braces
import ComponentAudit.Proofs.Declarations
import ComponentAudit.Proofs.Ordering
import ComponentAudit.Proofs.Drawing
import ComponentAudit.Proofs.Exits
import ComponentAudit.Proofs.Addresses
import ComponentAudit.Proofs.Culprits
import ComponentAudit.Proofs.Isolating
import ComponentAudit.Proofs.TopLevels
import ComponentAudit.Proofs.LineEndings
import ComponentAudit.Proofs.Advice
import ComponentAudit.Proofs.LegacyImports
import ComponentAudit.Proofs.Compact
import ComponentAudit.Proofs.Resolving
import ComponentAudit.Proofs.FinalFeeds
import ComponentAudit.Proofs.IllFormed
import ComponentAudit.Proofs.Ignoring
import ComponentAudit.Proofs.Absorbing
import ComponentAudit.Proofs.Offsets
import ComponentAudit.Proofs.Identifiers
import ComponentAudit.Proofs.Faults
import ComponentAudit.Proofs.Guarded
