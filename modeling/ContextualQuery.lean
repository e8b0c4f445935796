import ContextualQuery.Command.Invocation
import ContextualQuery.Command.Log
import ContextualQuery.Command.Run
import ContextualQuery.FileTree
import ContextualQuery.Fq.Reader
import ContextualQuery.Fq.Writer
import ContextualQuery.Json.Reader
import ContextualQuery.Json.Value
import ContextualQuery.Main
import ContextualQuery.PrefixTable
import ContextualQuery.Proofs.Command.Agreement
import ContextualQuery.Proofs.Fq.Alike
import ContextualQuery.Proofs.Fq.Canonical
import ContextualQuery.Proofs.Fq.RoundTrip
import ContextualQuery.Proofs.Fq.Shape
import ContextualQuery.Proofs.Fq.Stable
import ContextualQuery.Proofs.Json.Bounds
import ContextualQuery.Proofs.Json.Indented
import ContextualQuery.Proofs.Json.Location
import ContextualQuery.Proofs.Path.Ancestors
import ContextualQuery.Proofs.Query.Budget
import ContextualQuery.Proofs.Query.Composition
import ContextualQuery.Proofs.Query.ErrorShape
import ContextualQuery.Proofs.Query.FirstError
import ContextualQuery.Proofs.Query.Forgetting
import ContextualQuery.Proofs.Query.Grammar
import ContextualQuery.Proofs.Query.Lookahead
import ContextualQuery.Proofs.Query.Markup
import ContextualQuery.Proofs.Query.Progress
import ContextualQuery.Proofs.Query.Rendering
import ContextualQuery.Proofs.Query.Resolution
import ContextualQuery.Proofs.Query.Scope
import ContextualQuery.Proofs.Query.Span
import ContextualQuery.Proofs.Query.Xcql
import ContextualQuery.Proofs.Settings.Closest
import ContextualQuery.Proofs.Settings.Discovery
import ContextualQuery.Proofs.Settings.Reload
import ContextualQuery.Proofs.Text.Lowercase
import ContextualQuery.Proofs.Token.Concatenation
import ContextualQuery.Proofs.Token.Keyword
import ContextualQuery.Proofs.Token.Partition
import ContextualQuery.Proofs.Token.Place
import ContextualQuery.Proofs.Token.Spelling
import ContextualQuery.Proofs.Token.Written
import ContextualQuery.Proofs.Toml.Document
import ContextualQuery.Query.Canonical
import ContextualQuery.Query.Parser
import ContextualQuery.Query.Positions
import ContextualQuery.Query.Xcql
import ContextualQuery.Settings.Basic
import ContextualQuery.Settings.Discovery
import ContextualQuery.Token.Lexer
import ContextualQuery.Toml.Reader
import ContextualQuery.Toml.Writer
