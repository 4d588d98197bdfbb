import SurfaceTree.Absence
import SurfaceTree.Attribute
import SurfaceTree.Config.Configure
import SurfaceTree.Config.Error
import SurfaceTree.Config.Flag
import SurfaceTree.Config.Options
import SurfaceTree.Config.Pass
import SurfaceTree.Config.Predicate
import SurfaceTree.Config.Stats
import SurfaceTree.Config.Sweep
import SurfaceTree.Datum
import SurfaceTree.Id
import SurfaceTree.Ident
import SurfaceTree.Lifetime
import SurfaceTree.Literal
import SurfaceTree.NodeTag
import SurfaceTree.Pattern.Basic
import SurfaceTree.Pattern.Equality
import SurfaceTree.Pattern.Position
import SurfaceTree.Pattern.Render
import SurfaceTree.Pattern.Stripped
import SurfaceTree.Proofs.Altered
import SurfaceTree.Proofs.Children
import SurfaceTree.Proofs.Configured
import SurfaceTree.Proofs.Defects
import SurfaceTree.Proofs.Disguised
import SurfaceTree.Proofs.Enclosed
import SurfaceTree.Proofs.Everywhere
import SurfaceTree.Proofs.Examined
import SurfaceTree.Proofs.Flagged
import SurfaceTree.Proofs.Issued
import SurfaceTree.Proofs.Joined
import SurfaceTree.Proofs.Legible
import SurfaceTree.Proofs.Live
import SurfaceTree.Proofs.Located
import SurfaceTree.Proofs.Loose
import SurfaceTree.Proofs.Mentioned
import SurfaceTree.Proofs.Merged
import SurfaceTree.Proofs.Named
import SurfaceTree.Proofs.Nesting
import SurfaceTree.Proofs.Parts
import SurfaceTree.Proofs.Passes
import SurfaceTree.Proofs.Placeless
import SurfaceTree.Proofs.Places
import SurfaceTree.Proofs.Pruned
import SurfaceTree.Proofs.Reached
import SurfaceTree.Proofs.Regrouped
import SurfaceTree.Proofs.Related
import SurfaceTree.Proofs.Removed
import SurfaceTree.Proofs.Settled
import SurfaceTree.Proofs.Skipped
import SurfaceTree.Proofs.Slotless
import SurfaceTree.Proofs.Spelled
import SurfaceTree.Proofs.Started
import SurfaceTree.Proofs.Stored
import SurfaceTree.Proofs.Unplaced
import SurfaceTree.Proofs.Widened
import SurfaceTree.Proofs.Written
import SurfaceTree.Span
import SurfaceTree.Text.Blank
import SurfaceTree.Text.Escaped
import SurfaceTree.Text.Ranges
import SurfaceTree.Text.Separated
import SurfaceTree.Text.Unseen
import SurfaceTree.Ty.Basic
import SurfaceTree.Ty.Bound
import SurfaceTree.Ty.Equality
import SurfaceTree.Ty.Render
import SurfaceTree.Visit.Node
import SurfaceTree.Visit.Walk
