import ReleaseStamp.Declaration.Lemmas
import ReleaseStamp.Succession
import ReleaseStamp.Files.Arrange
import ReleaseStamp.Main
import ReleaseStamp.Proofs.Declaration.All
import ReleaseStamp.Proofs.Declaration.Opening
import ReleaseStamp.Proofs.Text.Replacement
import ReleaseStamp.Proofs.Declaration.Order
import ReleaseStamp.Proofs.Revision.Write
import ReleaseStamp.Proofs.Revision.Carry
import ReleaseStamp.Proofs.Revision.Locality
import ReleaseStamp.Proofs.Revision.Overlap
import ReleaseStamp.Proofs.Revision.Standing
import ReleaseStamp.Proofs.Revision.Succession
import ReleaseStamp.Proofs.Files.Route
import ReleaseStamp.Proofs.Files.Overwrite
import ReleaseStamp.Proofs.Update.Course
import ReleaseStamp.Proofs.Update.Series
import ReleaseStamp.Proofs.Revision.Report
import ReleaseStamp.Proofs.Update.Abort
import ReleaseStamp.Proofs.Update.Preview
import ReleaseStamp.Proofs.Declaration.Match
import ReleaseStamp.Proofs.Files.Change
import ReleaseStamp.Proofs.Update.Use
import ReleaseStamp.Proofs.Update.Idle
import ReleaseStamp.Proofs.CommandLine.Wish
import ReleaseStamp.Proofs.CommandLine.Item
import ReleaseStamp.Proofs.CommandLine.Grammar
import ReleaseStamp.Proofs.Files.ReadBack
import ReleaseStamp.Proofs.Value.Tag
import ReleaseStamp.Proofs.Value.Checksum
import ReleaseStamp.Proofs.Value.Request
import ReleaseStamp.Proofs.Declaration.Scope
import ReleaseStamp.Proofs.Update.Telling
import ReleaseStamp.Proofs.Revision.Journal
import ReleaseStamp.Proofs.CommandLine.Stop
import ReleaseStamp.Proofs.CommandLine.Headline
import ReleaseStamp.Journal.Entry
import ReleaseStamp.Proofs.Journal.Match
import ReleaseStamp.Proofs.Declaration.Reading
import ReleaseStamp.Proofs.Declaration.Pattern
import ReleaseStamp.Proofs.Journal.Filter
import ReleaseStamp.Proofs.Output
