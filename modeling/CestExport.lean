import CestExport.Address
import CestExport.Calendar
import CestExport.Command.Assertion
import CestExport.Command.Control
import CestExport.Command.Draft
import CestExport.Command.Element
import CestExport.Command.Navigation
import CestExport.Command.Standard
import CestExport.Command.Storage
import CestExport.Command.Waiting
import CestExport.Config.Basic
import CestExport.Config.Environment
import CestExport.Config.File
import CestExport.Config.Resolve
import CestExport.Data.Basic
import CestExport.Data.Check
import CestExport.Data.Display
import CestExport.Data.Json
import CestExport.Disk.Basic
import CestExport.Disk.Path
import CestExport.Distinct
import CestExport.Emission
import CestExport.Export.Class
import CestExport.Export.Project
import CestExport.Export.Test
import CestExport.Export.Written
import CestExport.Failure
import CestExport.Index
import CestExport.Journal
import CestExport.Keys
import CestExport.Layout
import CestExport.Lint
import CestExport.Locator
import CestExport.Number.Binary64
import CestExport.Number.Decimal
import CestExport.Number.Power
import CestExport.Number.Radix
import CestExport.Number.Significant
import CestExport.Number.Whole
import CestExport.Php.Expression
import CestExport.Php.Literal
import CestExport.Php.Name
import CestExport.Recording.File
import CestExport.Recording.Reading
import CestExport.Recording.Step
import CestExport.Registry
import CestExport.Scope
import CestExport.Script
import CestExport.Template
import CestExport.Text.Blank
import CestExport.Text.Cased
import CestExport.Text.Cut
import CestExport.Text.Digit
import CestExport.Text.Lower
import CestExport.Text.Printable
import CestExport.Text.Quoted
import CestExport.Text.Upper
import CestExport.Text.Utf8
import CestExport.Timeout
import CestExport.Tool.Arguments
import CestExport.Tool.Run
import CestExport.Window
import CestExport.Yaml.Base64
import CestExport.Yaml.Document
import CestExport.Yaml.Error
import CestExport.Yaml.Graph
import CestExport.Yaml.Leaf
import CestExport.Yaml.Merge
import CestExport.Yaml.Plain
import CestExport.Yaml.Reading
import CestExport.Yaml.Tag
import CestExport.Yaml.Timestamp
import CestExport.Yaml.Token.Basic
import CestExport.Yaml.Token.Scalar
import CestExport.Yaml.Token.Stream
import CestExport.Yaml.Version
import CestExport.Main
import CestExport.Proofs.Number.Character
import CestExport.Proofs.Php.Pasted
import CestExport.Proofs.Success
import CestExport.Proofs.Command.Role
import CestExport.Proofs.Command.Element
import CestExport.Proofs.Command.Assertion
import CestExport.Proofs.Command.Navigation
import CestExport.Proofs.Command.Control
import CestExport.Proofs.Command.Storage
import CestExport.Proofs.Command.Waiting
import CestExport.Proofs.Command.Standard
import CestExport.Proofs.Registry
import CestExport.Proofs.Lint.Tree
import CestExport.Proofs.Layout
import CestExport.Proofs.Export.Test
import CestExport.Proofs.Template
import CestExport.Proofs.Timeout
import CestExport.Proofs.Php.Concatenation
import CestExport.Proofs.Text.Upper
import CestExport.Proofs.Php.Arguments
import CestExport.Proofs.KeyInput
import CestExport.Proofs.Counter
import CestExport.Proofs.Lint.Grammar
import CestExport.Proofs.Export.Position
import CestExport.Proofs.Export.Project
import CestExport.Proofs.Php.Indentation
import CestExport.Proofs.Export.Indentation
import CestExport.Proofs.Php.Assignment
import CestExport.Proofs.Command.Supported
import CestExport.Proofs.Command.Timed
import CestExport.Proofs.Command.Assignment
import CestExport.Proofs.Registration
import CestExport.Proofs.Lint.Unsupported
import CestExport.Proofs.Context
import CestExport.Proofs.Export.Skipped
import CestExport.Proofs.Export.Composition
import CestExport.Proofs.Export.Variables
import CestExport.Proofs.Export.Written
import CestExport.Proofs.Data.Check
import CestExport.Proofs.Recording.Validation
import CestExport.Proofs.Export.Decision
import CestExport.Proofs.Locator
import CestExport.Proofs.Export.Reading
import CestExport.Proofs.Template.Cut
import CestExport.Proofs.Template.Consumers
import CestExport.Proofs.Export.Strict
import CestExport.Proofs.Command.Stored
import CestExport.Proofs.ReadBack
import CestExport.Proofs.Data.Keys
import CestExport.Proofs.Yaml.Keys
import CestExport.Proofs.Config.Precedence
import CestExport.Proofs.Sorted
import CestExport.Proofs.Registration.History
import CestExport.Proofs.Php.Delimited
import CestExport.Proofs.Slot
import CestExport.Proofs.Data.Alike
import CestExport.Proofs.Recording.Writing
import CestExport.Proofs.Recording.Stable
import CestExport.Proofs.XPath
import CestExport.Proofs.Choice
import CestExport.Proofs.Choice.Index
import CestExport.Proofs.Distinct
import CestExport.Proofs.Script
import CestExport.Proofs.Number.Digits
import CestExport.Proofs.Number.Separator
import CestExport.Proofs.Number.Numeral
import CestExport.Proofs.Number.Rounding
import CestExport.Proofs.Number.Reading
import CestExport.Proofs.Number.Significant
import CestExport.Proofs.Address.Line
import CestExport.Proofs.Address.Window
import CestExport.Proofs.Address.Frame
import CestExport.Proofs.Export.Stop
import CestExport.Proofs.Trace
import CestExport.Proofs.Config.Loading
import CestExport.Proofs.Inactive
import CestExport.Proofs.Layout.Statement
import CestExport.Proofs.Keys.Scalar
import CestExport.Proofs.Php.Name
import CestExport.Proofs.Export.Call
