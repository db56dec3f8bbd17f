import ClassDiagram.CommandLine.Options
import ClassDiagram.CommandLine.Run
import ClassDiagram.Container
import ClassDiagram.Diagram.Basic
import ClassDiagram.Diagram.Command
import ClassDiagram.Diagram.Relations
import ClassDiagram.Diagram.Render
import ClassDiagram.Diagram.Resolve
import ClassDiagram.Exchange.Header
import ClassDiagram.Exchange.Value
import ClassDiagram.Fault
import ClassDiagram.FileSystem.Basic
import ClassDiagram.FileSystem.Drawing
import ClassDiagram.FileSystem.Supply
import ClassDiagram.FileSystem.Wildcard
import ClassDiagram.Forest
import ClassDiagram.Header
import ClassDiagram.Link
import ClassDiagram.Main
import ClassDiagram.Member
import ClassDiagram.Namespace
import ClassDiagram.Package.Metadata
import ClassDiagram.Pattern.Basic
import ClassDiagram.Pattern.CharSet
import ClassDiagram.Pattern.Escape
import ClassDiagram.Pattern.Fault
import ClassDiagram.Pattern.Reading
import ClassDiagram.Pattern.Search
import ClassDiagram.Pattern.Source
import ClassDiagram.Proofs.Attempt
import ClassDiagram.Proofs.Container.DefinitionLine
import ClassDiagram.Proofs.Diagram.AggregationCounts
import ClassDiagram.Proofs.Diagram.Arrangement
import ClassDiagram.Proofs.Diagram.Bases
import ClassDiagram.Proofs.Diagram.Braces
import ClassDiagram.Proofs.Diagram.DecoratedTypes
import ClassDiagram.Proofs.Diagram.DependencySection
import ClassDiagram.Proofs.Diagram.Enclosures
import ClassDiagram.Proofs.Diagram.Extraction
import ClassDiagram.Proofs.Diagram.FaultCauses
import ClassDiagram.Proofs.Diagram.Grounding
import ClassDiagram.Proofs.Diagram.History
import ClassDiagram.Proofs.Diagram.Interruption
import ClassDiagram.Proofs.Diagram.Layout
import ClassDiagram.Proofs.Diagram.LinkLines
import ClassDiagram.Proofs.Diagram.Lookup
import ClassDiagram.Proofs.Diagram.Mentions
import ClassDiagram.Proofs.Diagram.Naming
import ClassDiagram.Proofs.Diagram.PointerMarks
import ClassDiagram.Proofs.Diagram.Reproduction
import ClassDiagram.Proofs.Diagram.Resolution
import ClassDiagram.Proofs.Diagram.SelfDependency
import ClassDiagram.Proofs.Diagram.Stepwise
import ClassDiagram.Proofs.Diagram.WordSearch
import ClassDiagram.Proofs.FileSystem.Overriding
import ClassDiagram.Proofs.FileSystem.Runs
import ClassDiagram.Proofs.FileSystem.Writing
import ClassDiagram.Proofs.Forest.Assembly
import ClassDiagram.Proofs.Forest.Indentation
import ClassDiagram.Proofs.Forest.Shape
import ClassDiagram.Proofs.Header.MissingFields
import ClassDiagram.Proofs.Namespace.Arguments
import ClassDiagram.Proofs.Namespace.Blocks
import ClassDiagram.Proofs.Namespace.Cleaning
import ClassDiagram.Proofs.Namespace.Components
import ClassDiagram.Proofs.Namespace.Scans
import ClassDiagram.Proofs.Pattern.WholeWord
import ClassDiagram.Proofs.Tally
import ClassDiagram.Proofs.Template.Listing
import ClassDiagram.Proofs.Template.Override
import ClassDiagram.Proofs.Template.Spelling
import ClassDiagram.Proofs.Text.Blanks
import ClassDiagram.Proofs.Text.Braces
import ClassDiagram.Proofs.Text.Components
import ClassDiagram.Proofs.Text.Lines
import ClassDiagram.Proofs.Text.SingleLine
import ClassDiagram.Proofs.Text.Sorting
import ClassDiagram.Proofs.TypeText.NormalForm
import ClassDiagram.Sample.Source
import ClassDiagram.Sample.Workload
import ClassDiagram.Tally
import ClassDiagram.Template.Basic
import ClassDiagram.Template.Drawing
import ClassDiagram.Template.Fault
import ClassDiagram.Template.Grammar
import ClassDiagram.Template.Reading
import ClassDiagram.Template.Standard
import ClassDiagram.Template.Token
import ClassDiagram.Template.Value
import ClassDiagram.Text.Basic
import ClassDiagram.Text.Blank
import ClassDiagram.Text.Case
import ClassDiagram.Text.CharName.Ancient
import ClassDiagram.Text.CharName.Basic
import ClassDiagram.Text.CharName.EastAsian
import ClassDiagram.Text.CharName.European
import ClassDiagram.Text.CharName.Extended
import ClassDiagram.Text.CharName.Lookup
import ClassDiagram.Text.CharName.Mathematical
import ClassDiagram.Text.CharName.MiddleEastern
import ClassDiagram.Text.CharName.Pictographic
import ClassDiagram.Text.CharName.Pictures
import ClassDiagram.Text.CharName.SouthAsian
import ClassDiagram.Text.CharName.Syllabic
import ClassDiagram.Text.CharName.Symbols
import ClassDiagram.Text.Name
import ClassDiagram.Text.Quoted
import ClassDiagram.Text.Ranges
import ClassDiagram.Text.Word
import ClassDiagram.TypeText
