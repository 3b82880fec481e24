import MathPage.Action
import MathPage.Conversion.Completion
import MathPage.Conversion.Drive
import MathPage.Conversion.Job
import MathPage.Document.Element
import MathPage.Document.Markup
import MathPage.Document.Restore
import MathPage.Document.Stash
import MathPage.Equation.Image
import MathPage.Equation.Marker
import MathPage.Equation.Pass
import MathPage.Failure
import MathPage.Markdown.Abbreviations
import MathPage.Markdown.Attributes
import MathPage.Markdown.Block.Document
import MathPage.Markdown.Block.Heading
import MathPage.Markdown.Block.Indent
import MathPage.Markdown.Block.Items
import MathPage.Markdown.Block.Prose
import MathPage.Markdown.Block.Rule
import MathPage.Markdown.Block.Table
import MathPage.Markdown.Contents
import MathPage.Markdown.Convert
import MathPage.Markdown.Dialect
import MathPage.Markdown.Entities
import MathPage.Markdown.Fence
import MathPage.Markdown.Inline.Document
import MathPage.Markdown.Inline.Emphasis
import MathPage.Markdown.Inline.Link
import MathPage.Markdown.Inline.Nodes
import MathPage.Markdown.Inline.Rule
import MathPage.Markdown.Inline.Span
import MathPage.Markdown.Inline.Style
import MathPage.Markdown.Layout
import MathPage.Markdown.RawHtml.Extract
import MathPage.Markdown.RawHtml.State
import MathPage.Markdown.RawHtml.Token
import MathPage.Markdown.Tasks
import MathPage.Number.Shortest
import MathPage.Options
import MathPage.Page.Render
import MathPage.Page.Template
import MathPage.Page.View
import MathPage.Path
import MathPage.Text.Base64
import MathPage.Text.Basic
import MathPage.Text.CaseTable
import MathPage.Text.Class
import MathPage.Text.Entity
import MathPage.Text.FoldTable
import MathPage.Text.GraphicTable
import MathPage.Text.NameTable
import MathPage.Text.Pattern
import MathPage.Text.Percent
import MathPage.Text.Quoted
import MathPage.Text.SigmaTable
import MathPage.Text.Utf8
import MathPage.Text.WordTable
import MathPage.Value
import MathPage.Proofs.Text.Basic
import MathPage.Proofs.Text.Code
import MathPage.Proofs.Text.Base64
import MathPage.Proofs.Document.Reader
import MathPage.Proofs.Document.Stash
import MathPage.Proofs.Document.Tree
import MathPage.Proofs.Equation.Host
import MathPage.Proofs.Equation.Marker
import MathPage.Proofs.Equation.Siblings
import MathPage.Proofs.Equation.Record
import MathPage.Proofs.Equation.Tree
import MathPage.Proofs.Equation.NormalForm
import MathPage.Proofs.Equation.Repeat
import MathPage.Proofs.Text.Pattern
import MathPage.Proofs.Text.Greedy
import MathPage.Proofs.Markdown.Inline.Rule
import MathPage.Proofs.Markdown.Inline.Sound
import MathPage.Proofs.Markdown.Inline.Rounds
import MathPage.Proofs.Markdown.Inline.Nodes
import MathPage.Proofs.Markdown.Inline.Escape
import MathPage.Proofs.Markdown.Inline.Unmarked
import MathPage.Proofs.Equation.Written
import MathPage.Proofs.Text.Occurrence
import MathPage.Proofs.Document.Restore
import MathPage.Proofs.Equation.Attributes
import MathPage.Proofs.Equation.Tag
import MathPage.Proofs.Markdown.Inline.Comment
import MathPage.Proofs.Text.Lines
import MathPage.Proofs.Markdown.Source
import MathPage.Proofs.Markdown.RawHtml.Position
import MathPage.Proofs.Markdown.RawHtml.Step
import MathPage.Proofs.Markdown.RawHtml.Comment
import MathPage.Proofs.Markdown.RawHtml.Tag
import MathPage.Proofs.Markdown.RawHtml.Content
import MathPage.Proofs.Markdown.Block.Paragraph
import MathPage.Proofs.Equation.Asked
import MathPage.Proofs.Markdown.Nesting.Source
import MathPage.Proofs.Markdown.Nesting.Blocks
import MathPage.Proofs.Markdown.Nesting.Reading
import MathPage.Proofs.Markdown.Nesting.Agreement
import MathPage.Proofs.Equation.Revision
import MathPage.Proofs.Equation.Stop
import MathPage.Proofs.Equation.Phrase
import MathPage.Proofs.Equation.Loop
import MathPage.Proofs.Equation.Children
import MathPage.Proofs.Equation.Untouched
import MathPage.Proofs.Equation.Outcome
import MathPage.Proofs.Equation.Block
import MathPage.Proofs.Equation.Gap
import MathPage.Proofs.Equation.Replaced
import MathPage.Proofs.Markdown.Host
import MathPage.Proofs.Markdown.Nesting.Pages
import MathPage.Proofs.Options.Record
import MathPage.Proofs.Conversion.Check
import MathPage.Proofs.Conversion.Drive
import MathPage.Proofs.Conversion.Host
import MathPage.Proofs.Conversion.Stages
import MathPage.Proofs.Conversion.Delivery
import MathPage.Proofs.Conversion.Gate
import MathPage.Proofs.Conversion.Modes
import MathPage.Proofs.Conversion.Pair
import MathPage.Proofs.Conversion.Received
import MathPage.Proofs.Page.Slots
import MathPage.Proofs.Equation.Image.Request
import MathPage.Proofs.Equation.Image.Element
import MathPage.Proofs.Equation.Image.Embedded
import MathPage.Proofs.Page.Skeleton
import MathPage.Proofs.Conversion.Completion
import MathPage.Proofs.Conversion.Segments
import MathPage.Proofs.Equation.Messages
import MathPage.Proofs.Conversion.Messages
import MathPage.Proofs.Conversion.Log
import MathPage.Proofs.Document.Placeholder
import MathPage.Proofs.Document.Texts
import MathPage.Proofs.Equation.Abreast
import MathPage.Proofs.Equation.Leftover
import MathPage.Proofs.Equation.Rework
import MathPage.Proofs.Equation.Visits
import MathPage.Proofs.Equation.Order
import MathPage.Proofs.Equation.Recognition
import MathPage.Proofs.Markdown.Nesting.Again
import MathPage.Proofs.Equation.Image.Unmarked
import MathPage.Proofs.Equation.Image.Query
import MathPage.Proofs.Equation.Session
import MathPage.Proofs.Path.Normal
import MathPage.Proofs.Path.FileTree
import MathPage.Proofs.Conversion.Spelling
