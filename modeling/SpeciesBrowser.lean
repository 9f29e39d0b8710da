import SpeciesBrowser.Cache.Desk
import SpeciesBrowser.Cache.Direct
import SpeciesBrowser.Files.Tree
import SpeciesBrowser.Keyboard
import SpeciesBrowser.Main
import SpeciesBrowser.Program
import SpeciesBrowser.Session
import SpeciesBrowser.Worker
import SpeciesBrowser.Proofs.Cache.Change
import SpeciesBrowser.Proofs.Cache.Consistency
import SpeciesBrowser.Proofs.Cache.Transparency
import SpeciesBrowser.Proofs.Worker.Chronicle
import SpeciesBrowser.Proofs.Worker.Bookkeeping
import SpeciesBrowser.Proofs.Worker.Freshness
import SpeciesBrowser.Proofs.Worker.Delivery
import SpeciesBrowser.Proofs.Cache.Failure
import SpeciesBrowser.Proofs.Cache.LatestUses
import SpeciesBrowser.Proofs.Worker.Retry
import SpeciesBrowser.Proofs.Browser.Highlight
import SpeciesBrowser.Proofs.Worker.Serving
import SpeciesBrowser.Proofs.Worker.Walk
import SpeciesBrowser.Proofs.Session.Log
import SpeciesBrowser.Proofs.Session.Requests
import SpeciesBrowser.Proofs.Session.Controls
import SpeciesBrowser.Proofs.Settings.Precedence
import SpeciesBrowser.Proofs.Graphql.Decoding
import SpeciesBrowser.Proofs.Session.Drawing
import SpeciesBrowser.Proofs.Json.Refusals
import SpeciesBrowser.Proofs.Graphql.Reporting
import SpeciesBrowser.Proofs.Program.Modes
import SpeciesBrowser.Proofs.Settings.Lines
import SpeciesBrowser.Proofs.Settings.Writing
import SpeciesBrowser.Proofs.Settings.Comments
import SpeciesBrowser.Proofs.Cache.Inclusion
import SpeciesBrowser.Proofs.Session.Lateness
import SpeciesBrowser.Proofs.Graphql.Outcomes
import SpeciesBrowser.Proofs.Controller.Acceptance
import SpeciesBrowser.Proofs.Graphql.Languages
import SpeciesBrowser.Proofs.Printout.Reading
import SpeciesBrowser.Proofs.Printout.Hints
import SpeciesBrowser.Proofs.CommandLine.Accepted
import SpeciesBrowser.Proofs.Settings.Loading
import SpeciesBrowser.Proofs.Settings.Validity
import SpeciesBrowser.Proofs.Files.Growth
import SpeciesBrowser.Proofs.Files.WellFormed
import SpeciesBrowser.Proofs.Files.Paths
import SpeciesBrowser.Proofs.Program.ConfigDir
import SpeciesBrowser.Proofs.Screen.Backgrounds
import SpeciesBrowser.Proofs.Session.Scrolling
import SpeciesBrowser.Proofs.Screen.Columns
