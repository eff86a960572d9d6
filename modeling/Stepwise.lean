import Stepwise.CommandLine.Command
import Stepwise.CommandLine.Help
import Stepwise.CommandLine.Options
import Stepwise.CommandLine.Run
import Stepwise.CommandLine.Task
import Stepwise.Draft.Basic
import Stepwise.Draft.Operations
import Stepwise.Draft.Reader
import Stepwise.Draft.Session
import Stepwise.Files.Fault
import Stepwise.Files.Path
import Stepwise.Files.Tree
import Stepwise.Fixture
import Stepwise.Grammar.Cursor
import Stepwise.Grammar.Lexeme
import Stepwise.Grammar.Reader
import Stepwise.Grammar.SyntaxError
import Stepwise.Grammar.Token
import Stepwise.Main
import Stepwise.Program.Flag
import Stepwise.Program.Log
import Stepwise.Program.Report
import Stepwise.Program.Suggestion
import Stepwise.Suite.Case
import Stepwise.Suite.Decoding
import Stepwise.Suite.Misfit
import Stepwise.Suite.Run
import Stepwise.Suite.Script
import Stepwise.Term.Basic
import Stepwise.Term.Canonical
import Stepwise.Term.Free
import Stepwise.Term.Step
import Stepwise.Term.Strategy
import Stepwise.Term.Substitution
import Stepwise.Text.Blank
import Stepwise.Text.Glyph
import Stepwise.Text.Letter
import Stepwise.Text.LowerCase
import Stepwise.Text.Octets
import Stepwise.Text.Printable
import Stepwise.Text.Quoted
import Stepwise.Text.Ranges
import Stepwise.Yaml.Base64
import Stepwise.Yaml.BlockText
import Stepwise.Yaml.Construct
import Stepwise.Yaml.Digits
import Stepwise.Yaml.Document
import Stepwise.Yaml.Fault
import Stepwise.Yaml.Gap
import Stepwise.Yaml.Label
import Stepwise.Yaml.Layout
import Stepwise.Yaml.Node
import Stepwise.Yaml.Plain
import Stepwise.Yaml.Quotation
import Stepwise.Yaml.Scalar
import Stepwise.Yaml.Source
import Stepwise.Yaml.Spot
import Stepwise.Yaml.Timestamp
import Stepwise.Yaml.Token
import Stepwise.Yaml.TokenStream
import Stepwise.Proofs.CommandLine.Endings
import Stepwise.Proofs.CommandLine.FreeListing
import Stepwise.Proofs.CommandLine.Rounds
import Stepwise.Proofs.Draft.Finished
import Stepwise.Proofs.Draft.Reading
import Stepwise.Proofs.Files.Path
import Stepwise.Proofs.Files.Tree
import Stepwise.Proofs.Grammar.Cursor
import Stepwise.Proofs.Grammar.Derivation
import Stepwise.Proofs.Grammar.Descent
import Stepwise.Proofs.Grammar.LetForms
import Stepwise.Proofs.Grammar.Place
import Stepwise.Proofs.Grammar.Printing
import Stepwise.Proofs.Grammar.Progress
import Stepwise.Proofs.Grammar.ReadBack
import Stepwise.Proofs.Grammar.Refusal
import Stepwise.Proofs.Grammar.Scanner
import Stepwise.Proofs.Grammar.Scanning
import Stepwise.Proofs.Grammar.Spacing
import Stepwise.Proofs.Grammar.Tiling
import Stepwise.Proofs.Suite.FaultyCase
import Stepwise.Proofs.Suite.Independence
import Stepwise.Proofs.Suite.Layout
import Stepwise.Proofs.Suite.TestProgram
import Stepwise.Proofs.Suite.TestSource
import Stepwise.Proofs.Suite.Verdict
import Stepwise.Proofs.Term.AlphaEquivalence
import Stepwise.Proofs.Term.Composition
import Stepwise.Proofs.Term.Contraction
import Stepwise.Proofs.Term.Equivariance
import Stepwise.Proofs.Term.FirstOccurrence
import Stepwise.Proofs.Term.FreeNames
import Stepwise.Proofs.Term.LeadingBinders
import Stepwise.Proofs.Term.Nameless
import Stepwise.Proofs.Term.Naming
import Stepwise.Proofs.Term.Numbering
import Stepwise.Proofs.Term.Position
import Stepwise.Proofs.Term.Replacement
import Stepwise.Proofs.Term.Run
import Stepwise.Proofs.Term.Size
import Stepwise.Proofs.Term.Unchanged
import Stepwise.Proofs.Text.Literal
import Stepwise.Proofs.Yaml.Document
