import PdfElements.Number.Style
import PdfElements.Text.Blank
import PdfElements.Text.Case
import PdfElements.Text.Quoted
import PdfElements.Text.Utf16
import PdfElements.Path
import PdfElements.Color
import PdfElements.Document
import PdfElements.Failure
import PdfElements.Object.Place
import PdfElements.Filter.Stream
import PdfElements.Content.Fault
import PdfElements.Content.Spelling
import PdfElements.Content.Lexer
import PdfElements.ColorSpace
import PdfElements.Font.Typeface
import PdfElements.Image.Appearance
import PdfElements.Image.Inline
import PdfElements.Graphics.State
import PdfElements.Content.Command
import PdfElements.Interpretation.Stream
import PdfElements.Extraction
import PdfElements.Output.WarningJson
import PdfElements.Output.Format
import PdfElements.File.Object
import PdfElements.File.Table
import PdfElements.File.Store
import PdfElements.CommandLine.Run
import PdfElements.Main
import PdfElements.Proofs.Interpretation.PageReport
import PdfElements.Proofs.Interpretation.Continuation
import PdfElements.Proofs.Interpretation.NestedStreams
import PdfElements.Proofs.Interpretation.Levels
import PdfElements.Proofs.Page.Tree
import PdfElements.Proofs.Extraction.Reported
import PdfElements.Proofs.Extraction.Stuck
import PdfElements.Proofs.Extraction.Pages
import PdfElements.Proofs.Result
import PdfElements.Proofs.Object.Inside
import PdfElements.Proofs.Object.Located
import PdfElements.Proofs.ColorSpace.Reading
import PdfElements.Proofs.Interpretation.Alike
import PdfElements.Proofs.Interpretation.Simulation
import PdfElements.Proofs.Interpretation.Inlining
import PdfElements.Proofs.Interpretation.Brackets
import PdfElements.Proofs.Interpretation.Nesting
import PdfElements.Proofs.Interpretation.Invariants
import PdfElements.Proofs.Interpretation.Rendition
import PdfElements.Proofs.Interpretation.Mirroring
import PdfElements.Proofs.Extraction.Rendering
import PdfElements.Proofs.Extraction.Rounding
import PdfElements.Proofs.Extraction.Independence
import PdfElements.Proofs.Interpretation.Containment
import PdfElements.Proofs.Content.Reading
import PdfElements.Proofs.Content.Scanning
import PdfElements.Proofs.Content.Grammar
import PdfElements.Proofs.Content.Tokens
import PdfElements.Proofs.Content.Fuel
import PdfElements.Proofs.Content.Faults
import PdfElements.Proofs.Content.Following
import PdfElements.Proofs.Content.Lexing
import PdfElements.Proofs.Content.Iteration
import PdfElements.Proofs.Extraction.Extension
import PdfElements.Proofs.Content.Writing
import PdfElements.Proofs.Content.RoundTrip
import PdfElements.Proofs.Content.Joining
import PdfElements.Proofs.Interpretation.StrayOperands
import PdfElements.Proofs.Output.Interning
import PdfElements.Proofs.Output.References
import PdfElements.Proofs.Output.FontReferences
import PdfElements.Proofs.Output.Leaves
import PdfElements.Proofs.Font.Differences
import PdfElements.Proofs.Output.WellFormed
import PdfElements.Proofs.Extraction.Caching
import PdfElements.Proofs.Interpretation.ResourceNames
import PdfElements.Proofs.Font.Decoding
import PdfElements.Proofs.Interpretation.Showing
import PdfElements.Proofs.Interpretation.WordSpacing
import PdfElements.Proofs.Font.Latest
import PdfElements.Proofs.Font.Sections
import PdfElements.Proofs.Font.Widths
import PdfElements.Proofs.Font.Spelling
import PdfElements.Proofs.Text.Utf16
import PdfElements.Proofs.Interpretation.Origins
import PdfElements.Proofs.Interpretation.DeclaredBoxes
import PdfElements.Proofs.Interpretation.ShowingOutsideText
import PdfElements.Proofs.Extraction.Reached
import PdfElements.Proofs.Extraction.GlyphResources
import PdfElements.Proofs.Interpretation.Painting
import PdfElements.Proofs.Arithmetic.Order
import PdfElements.Proofs.Arithmetic.Double
import PdfElements.Proofs.Geometry.Inclusion
import PdfElements.Proofs.Geometry.Lattice
import PdfElements.Proofs.Geometry.Bounds
import PdfElements.Proofs.Extraction.Rectangles
import PdfElements.Proofs.Interpretation.Clipping
import PdfElements.Proofs.Arithmetic.Exact
import PdfElements.Proofs.Arithmetic.Rational
import PdfElements.Proofs.Arithmetic.OrderedField
import PdfElements.Proofs.Arithmetic.Extended
import PdfElements.Proofs.Interpretation.Lines
import PdfElements.Proofs.Interpretation.Pen
import PdfElements.Proofs.Image.Samples
import PdfElements.Proofs.Image.Uniformity
import PdfElements.Proofs.Content.InlineImage
import PdfElements.Proofs.Content.Numerals
import PdfElements.Proofs.Page.Inheritance
import PdfElements.Proofs.Font.GlyphNames
import PdfElements.Proofs.Geometry.Composition
import PdfElements.Proofs.Interpretation.Places
import PdfElements.Proofs.Interpretation.Transformations
import PdfElements.Proofs.Path.Drawing
