import Redraw.Grid.Copying
import Redraw.Grid.Units
import Redraw.Main
import Redraw.Plan.Brush
import Redraw.Plan.Columns
import Redraw.Proofs.Color.Nearest
import Redraw.Proofs.Frame.Collecting
import Redraw.Proofs.Frame.Economy
import Redraw.Proofs.Frame.Exactness
import Redraw.Proofs.Frame.Meaning
import Redraw.Proofs.Frame.Vocabulary
import Redraw.Proofs.Grid.Panes
import Redraw.Proofs.Grid.Resizing
import Redraw.Proofs.Panes.Layouts
import Redraw.Proofs.Plan.Acceptance
import Redraw.Proofs.Plan.Gaps
import Redraw.Proofs.Plan.Groups
import Redraw.Proofs.Plan.Halves
import Redraw.Proofs.Plan.Ranges
import Redraw.Proofs.Plan.Thrift
import Redraw.Proofs.Plan.Validation
import Redraw.Proofs.Program.Turns
import Redraw.Proofs.Renderer.Atomicity
import Redraw.Proofs.Renderer.Tallies
import Redraw.Proofs.Renderer.Totals
import Redraw.Proofs.Settings.RoundTrip
import Redraw.Proofs.Thread.Draining
import Redraw.Proofs.Thread.Sessions
import Redraw.Proofs.Thread.Settling
import Redraw.Proofs.Thread.Sizing
import Redraw.Proofs.Thread.Staleness
import Redraw.Screen.Execution
import Redraw.Screen.Parser
import Redraw.Screen.Shows
import Redraw.Settings.Document
