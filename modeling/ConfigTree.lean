import ConfigTree.Cipher.Aes
import ConfigTree.Cipher.Base64
import ConfigTree.Cipher.Bytes
import ConfigTree.Cipher.Fernet
import ConfigTree.Cipher.Keyring
import ConfigTree.Cipher.Sha256
import ConfigTree.Cipher.Token
import ConfigTree.Document.Directive
import ConfigTree.Document.Error
import ConfigTree.Document.Evaluator
import ConfigTree.Document.File
import ConfigTree.Document.Library
import ConfigTree.Document.Loop
import ConfigTree.Document.Print
import ConfigTree.Document.Source
import ConfigTree.Document.Walk
import ConfigTree.Entries
import ConfigTree.Eval.Arithmetic
import ConfigTree.Eval.Error
import ConfigTree.Eval.Expression
import ConfigTree.Eval.Function
import ConfigTree.Eval.OperatorTable
import ConfigTree.Eval.Range
import ConfigTree.Eval.Scope
import ConfigTree.Eval.Template
import ConfigTree.Expr.Lexer
import ConfigTree.Expr.Operator
import ConfigTree.Expr.Parser
import ConfigTree.Expr.Syntax
import ConfigTree.Expr.Token
import ConfigTree.Files.Archive
import ConfigTree.Files.Disk
import ConfigTree.Files.Path
import ConfigTree.Json.Number
import ConfigTree.Json.Read
import ConfigTree.Json.Write
import ConfigTree.Main
import ConfigTree.Number.Binary
import ConfigTree.Number.Decimal
import ConfigTree.Number.Layout
import ConfigTree.Number.Machine
import ConfigTree.Number.Shortest
import ConfigTree.Number.Word
import ConfigTree.Program.Arguments
import ConfigTree.Program.Delivery
import ConfigTree.Program.Options
import ConfigTree.Program.Report
import ConfigTree.Program.Settings
import ConfigTree.Text.Blank
import ConfigTree.Text.Case
import ConfigTree.Text.CaseTable
import ConfigTree.Text.Digit
import ConfigTree.Text.Quoted
import ConfigTree.Text.Ranges
import ConfigTree.Text.Search
import ConfigTree.Text.Visible
import ConfigTree.Text.Word
import ConfigTree.Toml.Moment
import ConfigTree.Toml.Number
import ConfigTree.Toml.Read
import ConfigTree.Toml.Table
import ConfigTree.Toml.Text
import ConfigTree.TreePath
import ConfigTree.Value
import ConfigTree.Value.Merge
import ConfigTree.Value.Order
import ConfigTree.Value.Text
import ConfigTree.Yaml.Event
import ConfigTree.Yaml.Layout
import ConfigTree.Yaml.Mark
import ConfigTree.Yaml.Read
import ConfigTree.Yaml.Scalar
import ConfigTree.Yaml.Token
import ConfigTree.Yaml.Write
import ConfigTree.Proofs.Tree.Overlay
import ConfigTree.Proofs.Tree.Pathwise
import ConfigTree.Proofs.Tree.Update
import ConfigTree.Proofs.Tree.Frame
import ConfigTree.Proofs.Walk.Step
import ConfigTree.Proofs.Walk.Closure
import ConfigTree.Proofs.Walk.Import
import ConfigTree.Proofs.Walk.Layers
import ConfigTree.Proofs.Tree.Leaves
import ConfigTree.Proofs.Walk.Locality
import ConfigTree.Proofs.Walk.Plain
import ConfigTree.Proofs.Walk.Coherence
import ConfigTree.Proofs.Walk.Visit
import ConfigTree.Proofs.Files.Folder
import ConfigTree.Proofs.Walk.OpenFiles
import ConfigTree.Proofs.Walk.Budget
import ConfigTree.Proofs.Walk.Append
import ConfigTree.Proofs.Walk.Alike
import ConfigTree.Proofs.Walk.Spelling
import ConfigTree.Proofs.Walk.Refusal
import ConfigTree.Proofs.Walk.Rounds
import ConfigTree.Proofs.Document.Loop
import ConfigTree.Proofs.Document.Postures
import ConfigTree.Proofs.Document.Keys
import ConfigTree.Proofs.Expr.Grammar
import ConfigTree.Proofs.Expr.Operand
import ConfigTree.Proofs.Expr.Recognition
import ConfigTree.Proofs.Expr.Scan
import ConfigTree.Proofs.Expr.Literal
import ConfigTree.Proofs.Outcome
import ConfigTree.Proofs.Text.Bytes
import ConfigTree.Proofs.Cipher.Length
import ConfigTree.Proofs.Cipher.Aes
import ConfigTree.Proofs.Cipher.Sealing
import ConfigTree.Proofs.Number.Width
import ConfigTree.Proofs.Number.Machine
import ConfigTree.Proofs.Expr.Size
import ConfigTree.Proofs.Eval.Limit
import ConfigTree.Proofs.Eval.Sandbox
import ConfigTree.Proofs.Expr.Names
import ConfigTree.Proofs.Eval.Agreement
import ConfigTree.Proofs.Eval.Trailers
import ConfigTree.Proofs.Eval.Direct
import ConfigTree.Proofs.Eval.Whole
import ConfigTree.Proofs.Eval.Division
import ConfigTree.Proofs.Eval.Shift
import ConfigTree.Proofs.Eval.Range
import ConfigTree.Proofs.Eval.Overflow
import ConfigTree.Proofs.Value.Order
import ConfigTree.Proofs.Eval.Extreme
import ConfigTree.Proofs.Walk.Keys
import ConfigTree.Proofs.Expr.Alone
import ConfigTree.Proofs.Expr.Segments
import ConfigTree.Proofs.Program.Precedence
import ConfigTree.Proofs.Program.Delivery
import ConfigTree.Proofs.Walk.Scratch
import ConfigTree.Proofs.Text.Occurrence
import ConfigTree.Proofs.Eval.Template
import ConfigTree.Proofs.Eval.Replacement
import ConfigTree.Proofs.Expr.Counter
import ConfigTree.Proofs.Expr.Height
