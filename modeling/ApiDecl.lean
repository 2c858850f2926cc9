import ApiDecl.Corpus
import ApiDecl.Corpus.Load
import ApiDecl.Files.Discovery
import ApiDecl.Files.Path
import ApiDecl.Files.Tree
import ApiDecl.Journal.Console
import ApiDecl.Journal.Note
import ApiDecl.Journal.Template
import ApiDecl.Journal.Traced
import ApiDecl.Json.Parse
import ApiDecl.Json.Render
import ApiDecl.Json.Value
import ApiDecl.Keyed
import ApiDecl.Main
import ApiDecl.Model.Entity
import ApiDecl.Model.Export
import ApiDecl.Number.Binary64
import ApiDecl.Pattern.Error
import ApiDecl.Pattern.Item
import ApiDecl.Pattern.Match
import ApiDecl.Pattern.Parse
import ApiDecl.Proofs.Additions
import ApiDecl.Proofs.Binding
import ApiDecl.Proofs.Isolation
import ApiDecl.Proofs.Members
import ApiDecl.Proofs.Names
import ApiDecl.Proofs.Outcomes
import ApiDecl.Proofs.Places
import ApiDecl.Proofs.Reader
import ApiDecl.Proofs.Sites
import ApiDecl.Reading.Build
import ApiDecl.Reading.Error
import ApiDecl.Reading.Reader
import ApiDecl.Reading.Selection
import ApiDecl.Reading.TypeExpr
import ApiDecl.Run.Artifact
import ApiDecl.Run.Program
import ApiDecl.Settings.Config
import ApiDecl.Settings.Options
import ApiDecl.Settings.Resolve
import ApiDecl.Source.Grammar
import ApiDecl.Source.Lexeme
import ApiDecl.Source.Parser
import ApiDecl.Source.Tree
import ApiDecl.Source.TypeGrammar
import ApiDecl.Symbol.Binding
import ApiDecl.Symbol.Documentation
import ApiDecl.Symbol.Table
import ApiDecl.Syntax.Kind
import ApiDecl.Syntax.Node
import ApiDecl.Syntax.Place
import ApiDecl.Text.Blank
import ApiDecl.Text.Case
import ApiDecl.Text.Identifier
import ApiDecl.Text.Printable
import ApiDecl.Text.Quoted
import ApiDecl.Text.Ranges
import ApiDecl.Text.Utf8
import ApiDecl.Text.Word
import ApiDecl.Yaml.Node
import ApiDecl.Yaml.Scalar
import ApiDecl.Yaml.Scan
import ApiDecl.Yaml.Token
import ApiDecl.Yaml.Value
import ApiDecl.Proofs.TypeNodes
import ApiDecl.Proofs.Utf8
import ApiDecl.Proofs.WellFormed
import ApiDecl.Proofs.WrittenTypes
import ApiDecl.Proofs.Encoded
import ApiDecl.Proofs.Trimming
import ApiDecl.Proofs.Layers
import ApiDecl.Proofs.Wrappers
import ApiDecl.Proofs.MapArguments
import ApiDecl.Proofs.JsonText
import ApiDecl.Proofs.Paths
import ApiDecl.Proofs.Files
import ApiDecl.Proofs.Runs
import ApiDecl.Proofs.Outermost
import ApiDecl.Proofs.Hoisting
import ApiDecl.Proofs.EnumMembers
import ApiDecl.Proofs.Comments
import ApiDecl.Proofs.Renaming
import ApiDecl.Proofs.Rebinding
import ApiDecl.Proofs.Attachment
import ApiDecl.Proofs.TypeSize
import ApiDecl.Proofs.Cleaning
import ApiDecl.Proofs.CommentOwners
import ApiDecl.Proofs.LoadErrors
import ApiDecl.Proofs.CanonicalText
import ApiDecl.Proofs.PatternSearch
import ApiDecl.Proofs.DefaultSelection
import ApiDecl.Proofs.StrictMode
import ApiDecl.Proofs.AbsolutePaths
import ApiDecl.Proofs.Walk
import ApiDecl.Proofs.Discovery
import ApiDecl.Proofs.Exported
import ApiDecl.Proofs.FaultCount
import ApiDecl.Proofs.Scopes
