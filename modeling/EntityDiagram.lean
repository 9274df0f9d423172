import EntityDiagram.CommandLine.Arguments
import EntityDiagram.CommandLine.Command
import EntityDiagram.CommandLine.Manual
import EntityDiagram.Diagram
import EntityDiagram.FileTree.Access
import EntityDiagram.FileTree.Basic
import EntityDiagram.FileTree.Change
import EntityDiagram.FileTree.Glob
import EntityDiagram.FileTree.Wildcard
import EntityDiagram.Generation.Detection
import EntityDiagram.Generation.Failure
import EntityDiagram.Generation.Run
import EntityDiagram.Generation.Workspace
import EntityDiagram.Json.Basic
import EntityDiagram.Json.Decimal
import EntityDiagram.Json.Reader
import EntityDiagram.Literal
import EntityDiagram.Log
import EntityDiagram.Main
import EntityDiagram.Model.Assembly
import EntityDiagram.Model.Declaration
import EntityDiagram.Model.Loading
import EntityDiagram.Model.Relation
import EntityDiagram.Naming
import EntityDiagram.Path
import EntityDiagram.Pattern.Basic
import EntityDiagram.Program
import EntityDiagram.Schema
import EntityDiagram.Settings.Basic
import EntityDiagram.Settings.EnvFile
import EntityDiagram.Text.Alphabet
import EntityDiagram.Text.Basic
import EntityDiagram.Text.Blank
import EntityDiagram.Text.CaseTable
import EntityDiagram.Text.CharSet
import EntityDiagram.Text.Invisible
import EntityDiagram.Text.LowerCase
import EntityDiagram.Text.Markup
import EntityDiagram.Text.Quoted
import EntityDiagram.Text.Utf8
import EntityDiagram.Text.Word
import EntityDiagram.Validation
import EntityDiagram.Viewer.Page
import EntityDiagram.Viewer.Template
import EntityDiagram.Proofs.FileTree.Asking
import EntityDiagram.Proofs.Generation.Work
import EntityDiagram.Proofs.Model.Isolation
import EntityDiagram.Proofs.Model.Selection
import EntityDiagram.Proofs.Generation.Fatal
import EntityDiagram.Proofs.FileTree.Changing
import EntityDiagram.Proofs.Generation.Outputs
import EntityDiagram.Proofs.Pattern.Running
import EntityDiagram.Proofs.Pattern.Searching
import EntityDiagram.Proofs.Model.Columns
import EntityDiagram.Proofs.Model.Description
import EntityDiagram.Proofs.Model.Shapes
import EntityDiagram.Proofs.Text.Characters
import EntityDiagram.Proofs.Model.RelationShapes
import EntityDiagram.Proofs.Pattern.Landmarks
import EntityDiagram.Proofs.Model.Names
import EntityDiagram.Proofs.Model.Keywords
import EntityDiagram.Proofs.Model.Properties
import EntityDiagram.Proofs.Model.Switches
import EntityDiagram.Proofs.Model.ReadingDeclarations
import EntityDiagram.Proofs.Model.ReadingRelations
import EntityDiagram.Proofs.Model.RoundTrip
import EntityDiagram.Proofs.Diagram
import EntityDiagram.Proofs.Distinct
import EntityDiagram.Proofs.FileTree.Selecting
import EntityDiagram.Proofs.FileTree.Ways
import EntityDiagram.Proofs.Generation.Keeping
import EntityDiagram.Proofs.Generation.Publishing
import EntityDiagram.Proofs.Generation.TitleMarkup
import EntityDiagram.Proofs.Model.Scanning
import EntityDiagram.Proofs.Model.Scheduling
import EntityDiagram.Proofs.Path
import EntityDiagram.Proofs.Text.Order
import EntityDiagram.Proofs.Text.Splitting
import EntityDiagram.Literal.Writing
import EntityDiagram.Proofs.Pattern.Capturing
import EntityDiagram.Proofs.Model.Products
import EntityDiagram.Proofs.Diagram.LineFeeds
import EntityDiagram.Proofs.Literal
import EntityDiagram.Proofs.FileTree.Removing
import EntityDiagram.Proofs.FileTree.Walking
import EntityDiagram.Proofs.Generation.Leaving
import EntityDiagram.Proofs.Model.DeepScan
import EntityDiagram.Proofs.Generation.Again
import EntityDiagram.Proofs.Pattern.Joining
import EntityDiagram.Proofs.Model.Headers
import EntityDiagram.Proofs.Model.Entities
import EntityDiagram.Proofs.Model.Locality
import EntityDiagram.Proofs.Model.Calls
import EntityDiagram.Proofs.CommandLine.ExitCode
import EntityDiagram.Proofs.Naming
import EntityDiagram.Proofs.Text.Stripping
import EntityDiagram.Proofs.Model.FirstCalls
import EntityDiagram.Proofs.Model.Bodies
import EntityDiagram.Proofs.Model.Targets
import EntityDiagram.Proofs.Model.FillableLists
import EntityDiagram.Proofs.Model.CastMaps
import EntityDiagram.Proofs.Viewer.Recovery
import EntityDiagram.Proofs.Literal.Format
import EntityDiagram.Proofs.Literal.Names
import EntityDiagram.Proofs.Model.Prefilter
import EntityDiagram.Proofs.Naming.Plurals
import EntityDiagram.Proofs.FileTree.Cleaning
import EntityDiagram.Proofs.Generation.Cleaning
import EntityDiagram.Proofs.Generation.Detection
