import Stencil.Cli.Arguments
import Stencil.Cli.Files
import Stencil.Cli.Run
import Stencil.Css.FormState
import Stencil.Css.Language
import Stencil.Css.Lexical
import Stencil.Css.Match
import Stencil.Css.Parser
import Stencil.Css.Range
import Stencil.Css.Syntax
import Stencil.Data.Calendar
import Stencil.Data.Json.Read
import Stencil.Data.Json.Write
import Stencil.Data.Number
import Stencil.Data.Value
import Stencil.Display.Date
import Stencil.Display.Repr
import Stencil.Display.Value
import Stencil.Main
import Stencil.Markup.Build
import Stencil.Markup.Entity
import Stencil.Markup.Event
import Stencil.Markup.Forest
import Stencil.Markup.Node
import Stencil.Markup.NodeId
import Stencil.Markup.Reference
import Stencil.Markup.Render
import Stencil.Markup.Scanner
import Stencil.Number.Binary
import Stencil.Number.Layout
import Stencil.Number.Nearest
import Stencil.Number.Shortest
import Stencil.Proofs.Markup.Links
import Stencil.Proofs.Markup.Moves
import Stencil.Proofs.Markup.Shapes
import Stencil.Proofs.Select.Chains
import Stencil.Proofs.Select.Logic
import Stencil.Proofs.Select.Positions
import Stencil.Proofs.Select.Traversal
import Stencil.Proofs.Selector.Completeness
import Stencil.Proofs.Selector.Cutting
import Stencil.Proofs.Selector.Descent
import Stencil.Proofs.Selector.Grammar
import Stencil.Proofs.Selector.Locality
import Stencil.Proofs.Selector.Partition
import Stencil.Proofs.Selector.Quoting
import Stencil.Proofs.Selector.Recognition
import Stencil.Proofs.Selector.Refusal
import Stencil.Proofs.Selector.Reprint
import Stencil.Proofs.Selector.RoundTrip
import Stencil.Proofs.Selector.Soundness
import Stencil.Proofs.Selector.Spelling
import Stencil.Proofs.Selector.Tokens
import Stencil.Proofs.Template.Chain
import Stencil.Proofs.Template.Compaction
import Stencil.Proofs.Template.Drain
import Stencil.Proofs.Template.Edits
import Stencil.Proofs.Template.Expansion
import Stencil.Proofs.Template.Feeds
import Stencil.Proofs.Template.Placeholders
import Stencil.Proofs.Template.Placement
import Stencil.Proofs.Template.Places
import Stencil.Proofs.Template.Precedence
import Stencil.Proofs.Template.Queue
import Stencil.Proofs.Template.Quiet
import Stencil.Proofs.Template.Schedule
import Stencil.Proofs.Template.Scoping
import Stencil.Proofs.Template.Table
import Stencil.Proofs.Template.TextMerge
import Stencil.Proofs.Template.TextSpans
import Stencil.Proofs.Template.Workers
import Stencil.Proofs.Text.CodePoints
import Stencil.Proofs.Text.Collapse
import Stencil.Select.Data
import Stencil.Select.Evaluate
import Stencil.Select.Location
import Stencil.Select.Result
import Stencil.Select.Tree
import Stencil.Selector.Lexer
import Stencil.Selector.Literal
import Stencil.Selector.Parser
import Stencil.Selector.Syntax
import Stencil.Selector.Token
import Stencil.Template.Apply
import Stencil.Template.Compress
import Stencil.Template.Config
import Stencil.Template.Directive
import Stencil.Template.Problem
import Stencil.Template.Renderer
import Stencil.Template.Scope
import Stencil.Template.Session
import Stencil.Template.Table
import Stencil.Template.TaskQueue
import Stencil.Text.Base64
import Stencil.Text.Bidi
import Stencil.Text.Blank
import Stencil.Text.Case
import Stencil.Text.Caseless
import Stencil.Text.Collapse
import Stencil.Text.Digit
import Stencil.Text.FinalSigma
import Stencil.Text.Integer
import Stencil.Text.Printable
import Stencil.Text.Quote
import Stencil.Text.Search
import Stencil.Text.Surrogate
import Stencil.Text.Utf8
import Stencil.Text.Word
import Stencil.Yaml.Event
import Stencil.Yaml.Load
import Stencil.Yaml.Mark
import Stencil.Yaml.Node
import Stencil.Yaml.Resolve
import Stencil.Yaml.Scalar
import Stencil.Yaml.Scanner
import Stencil.Yaml.Token
import Stencil.Proofs.Template.Plain
import Stencil.Proofs.Template.PlainRender
import Stencil.Proofs.Select.Closure
