import ClassOutline.Main
import ClassOutline.Proofs.Decoding.Excerpt
import ClassOutline.Proofs.ClassFile.Encoding
import ClassOutline.Proofs.ClassFile.Tiling
import ClassOutline.Proofs.ClassFile.Truncation
import ClassOutline.Proofs.Members.Locality
import ClassOutline.Proofs.Members.Nesting
import ClassOutline.Proofs.Effects.Steps
import ClassOutline.Proofs.Symbols.Resolution
import ClassOutline.Proofs.Outline.Script
import ClassOutline.Proofs.Outline.Drawing
import ClassOutline.Proofs.Loaded.Operations
import ClassOutline.Proofs.Outline.Sequence
import ClassOutline.Proofs.Command.Rendering
import ClassOutline.Proofs.Command.Listing
import ClassOutline.Proofs.Command.Interruption
import ClassOutline.Proofs.Decoding.Refusal
import ClassOutline.Proofs.Pool.Refusal
import ClassOutline.Proofs.Members.Refusal
import ClassOutline.Proofs.ClassFile.Refusal
import ClassOutline.Proofs.Symbols.Shortening
import ClassOutline.Proofs.Outline.Indentation
import ClassOutline.Proofs.Outline.Pointwise
import ClassOutline.Proofs.Outline.LineStarts
import ClassOutline.Proofs.Outline.Rendition
import ClassOutline.Proofs.Outline.Rendering
import ClassOutline.Proofs.Loaded.Rendering
import ClassOutline.Proofs.Loaded.Stopping
import ClassOutline.Proofs.Symbols.Display
import ClassOutline.Proofs.Outline.Imported
import ClassOutline.Proofs.Symbols.Queries
import ClassOutline.Proofs.Members.Types
import ClassOutline.Proofs.Outline.Pieces
import ClassOutline.Proofs.Loaded.Tracking
import ClassOutline.Proofs.Analysis.Verdict
import ClassOutline.Proofs.Loaded.Analysis
import ClassOutline.Proofs.Text.CodeUnits
import ClassOutline.Proofs.Pool.Texts
import ClassOutline.Proofs.Members.Decomposition
import ClassOutline.Proofs.Members.FieldTypes
import ClassOutline.Proofs.Literals.Escapes
import ClassOutline.Proofs.Loaded.Declared
import ClassOutline.Proofs.Outline.Dotted
import ClassOutline.Proofs.Number.Rounding
import ClassOutline.Proofs.Number.Binary
import ClassOutline.Proofs.Number.Decimal
import ClassOutline.Proofs.Number.Numeral
import ClassOutline.Proofs.Number.Single
import ClassOutline.Proofs.Literals.Singles
import ClassOutline.Proofs.Loaded.Naming
import ClassOutline.Proofs.Decoding.Reads
import ClassOutline.Proofs.Pool.Size
import ClassOutline.Proofs.Decoding.Widths
import ClassOutline.Proofs.ClassFile.NestedCode
import ClassOutline.Proofs.Loaded.Rendition
import ClassOutline.Proofs.Literals.Constants
