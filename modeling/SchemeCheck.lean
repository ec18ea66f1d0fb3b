import SchemeCheck.Host.Memory
import SchemeCheck.Main
import SchemeCheck.Proofs.Buffer.Points
import SchemeCheck.Proofs.Buffer.Spans
import SchemeCheck.Proofs.Caret.Columns
import SchemeCheck.Proofs.Caret.Line
import SchemeCheck.Proofs.Caret.Position
import SchemeCheck.Proofs.Caret.RoundTrip
import SchemeCheck.Proofs.Caret.Row
import SchemeCheck.Proofs.Caret.Run
import SchemeCheck.Proofs.Catalog.Assigned
import SchemeCheck.Proofs.Coverage.Alternatives
import SchemeCheck.Proofs.Coverage.Collect
import SchemeCheck.Proofs.Coverage.Extract
import SchemeCheck.Proofs.Coverage.Missing
import SchemeCheck.Proofs.Coverage.Report
import SchemeCheck.Proofs.Dict
import SchemeCheck.Proofs.Disk.Find
import SchemeCheck.Proofs.Disk.Location
import SchemeCheck.Proofs.Disk.Resources
import SchemeCheck.Proofs.Disk.Tree
import SchemeCheck.Proofs.Fixture.Assertion
import SchemeCheck.Proofs.Fixture.AssertionLine
import SchemeCheck.Proofs.Fixture.Caseless
import SchemeCheck.Proofs.Fixture.Directive
import SchemeCheck.Proofs.Fixture.FirstLine
import SchemeCheck.Proofs.Fixture.Gate
import SchemeCheck.Proofs.Fixture.Grammar
import SchemeCheck.Proofs.Fixture.Letters
import SchemeCheck.Proofs.Fixture.Outcome
import SchemeCheck.Proofs.Fixture.Run
import SchemeCheck.Proofs.Fixture.Search
import SchemeCheck.Proofs.Glob
import SchemeCheck.Proofs.List
import SchemeCheck.Proofs.Number.Decimal
import SchemeCheck.Proofs.Score
import SchemeCheck.Proofs.Selector
import SchemeCheck.Proofs.Suite.Calls
import SchemeCheck.Proofs.Suite.Coverage
import SchemeCheck.Proofs.Suite.Discover
import SchemeCheck.Proofs.Suite.Progress
import SchemeCheck.Proofs.Suite.Run
import SchemeCheck.Proofs.Suite.Schemes
import SchemeCheck.Proofs.Text.Letters
import SchemeCheck.Proofs.Text.Lines
import SchemeCheck.Proofs.Text.Order
import SchemeCheck.Proofs.Text.Position
import SchemeCheck.Proofs.Theme.Asking
import SchemeCheck.Proofs.Theme.Colors
import SchemeCheck.Proofs.Theme.FontStyle
import SchemeCheck.Proofs.Theme.Generations
import SchemeCheck.Proofs.Theme.History
import SchemeCheck.Proofs.Theme.HostStyle
import SchemeCheck.Proofs.Theme.Matching
import SchemeCheck.Proofs.Theme.Ranking
import SchemeCheck.Proofs.Theme.Variable
