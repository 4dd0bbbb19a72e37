/-
The library of literate documents.
-/

import Literate.Ascending
import Literate.CommandLine.Arguments
import Literate.CommandLine.Execute
import Literate.Comparison
import Literate.Configuration
import Literate.Configuration.Load
import Literate.Configuration.Setting
import Literate.Configuration.Settings
import Literate.Decimal.Binary64
import Literate.Document
import Literate.Event
import Literate.Event.Decode
import Literate.FileTree
import Literate.FileTree.Error
import Literate.Graph
import Literate.Inclusion.Error
import Literate.Inclusion.Policy
import Literate.Inclusion.Resolver
import Literate.Input
import Literate.Inputs
import Literate.Json
import Literate.Lexer
import Literate.MacroTable
import Literate.MacroTable.Expansion
import Literate.Main
import Literate.Path
import Literate.Position
import Literate.Proofs.Cycles
import Literate.Proofs.Dependencies
import Literate.Proofs.Ending
import Literate.Proofs.FirstToken
import Literate.Proofs.Following
import Literate.Proofs.Lossless
import Literate.Proofs.Meaning
import Literate.Proofs.Nesting
import Literate.Proofs.Reading
import Literate.Proofs.RoundTrip
import Literate.Proofs.Sorting
import Literate.Proofs.Spelling
import Literate.Proofs.Steps
import Literate.Proofs.Switching
import Literate.Proofs.Tables
import Literate.Proofs.Walking
import Literate.Report.Extract
import Literate.Report.Names
import Literate.Report.Trace
import Literate.Run
import Literate.Scope
import Literate.Sink
import Literate.Switchboard
import Literate.Text
import Literate.Text.Letters
import Literate.Text.Lowered
import Literate.Text.Printable
import Literate.Text.Quoted
import Literate.Text.Ranges
import Literate.Token
import Literate.Token.Lexeme
import Literate.Token.Pattern
import Literate.Toml.Grammar
import Literate.Toml.Lexical
import Literate.Toml.Scalar
import Literate.Toml.Value
import Literate.Proofs.Lockstep
import Literate.Proofs.Grammar
import Literate.Proofs.Decodability
import Literate.Proofs.Bodies
import Literate.Proofs.Substitution
import Literate.Proofs.Interleaving
import Literate.Proofs.Tangling
import Literate.Proofs.Building
import Literate.Proofs.Reordering
import Literate.Proofs.Reports
import Literate.Proofs.Lasso
import Literate.Proofs.LeastOrder
import Literate.Proofs.Inclusion
import Literate.Proofs.Appending
import Literate.Proofs.Decoding
import Literate.Proofs.Recording
import Literate.Proofs.Locality
import Literate.Proofs.Histories
import Literate.Proofs.Slots
import Literate.Proofs.Verbatim
import Literate.Proofs.Extraction
import Literate.Proofs.Quoting
import Literate.Proofs.Differences
import Literate.Proofs.Descent
import Literate.Proofs.PutBack
import Literate.Proofs.Lexing
import Literate.Proofs.Naming
import Literate.Proofs.Endless
