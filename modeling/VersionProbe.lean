import VersionProbe.Main
import VersionProbe.Proofs.Conservation
import VersionProbe.Proofs.Counters
import VersionProbe.Proofs.Deadline
import VersionProbe.Proofs.Stream
import VersionProbe.Proofs.Chunking
import VersionProbe.Proofs.Frames
import VersionProbe.Proofs.Grammar
import VersionProbe.Proofs.VersionReply
import VersionProbe.Proofs.Query
import VersionProbe.Proofs.Failures
import VersionProbe.Proofs.Packets
import VersionProbe.Proofs.Course
import VersionProbe.Proofs.Lines
import VersionProbe.Proofs.Wording
import VersionProbe.Proofs.JsonText
import VersionProbe.Proofs.Options
import VersionProbe.Proofs.Printout
import VersionProbe.Proofs.Phases
import VersionProbe.Proofs.Totals
import VersionProbe.Proofs.Entries
import VersionProbe.Proofs.Ties
import VersionProbe.Proofs.Prefixes
import VersionProbe.Proofs.Arrangement
import VersionProbe.Proofs.Endings
import VersionProbe.Proofs.Sending
import VersionProbe.Proofs.Extension
import VersionProbe.Proofs.Portions
import VersionProbe.Proofs.CallBounds
import VersionProbe.Proofs.Places
import VersionProbe.Proofs.PlainListing
import VersionProbe.Proofs.Reports
import VersionProbe.Proofs.Summary
import VersionProbe.Proofs.HexLine
