import Scaffold.Catalog
import Scaffold.Main
import Scaffold.Model.Assignment
import Scaffold.Proofs.Catalog.QualifiedName
import Scaffold.Proofs.CommandLine.Contents
import Scaffold.Proofs.CommandLine.Rehearsal
import Scaffold.Proofs.CommandLine.Rerun
import Scaffold.Proofs.Expression.Resolution
import Scaffold.Proofs.Generation.Accounting
import Scaffold.Proofs.Generation.Calls
import Scaffold.Proofs.Generation.Preservation
import Scaffold.Proofs.Generation.Regeneration
import Scaffold.Proofs.Generation.Selection
import Scaffold.Proofs.Generation.Writing
import Scaffold.Proofs.Model.Refusal
import Scaffold.Proofs.Naming.Words
import Scaffold.Proofs.Template.BundledOutput
import Scaffold.Proofs.Template.Concatenation
import Scaffold.Proofs.Template.Expansion
import Scaffold.Proofs.Template.IncludeGuard
import Scaffold.Proofs.Template.Listing
import Scaffold.Proofs.Template.LiteralText
import Scaffold.Proofs.Template.LoopRenaming
import Scaffold.Proofs.Template.LoopVariable
import Scaffold.Proofs.Template.RenderFailure
import Scaffold.Proofs.Template.TagBoundary
import Scaffold.Proofs.Template.Viability
