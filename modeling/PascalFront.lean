import PascalFront.Diagnostic.Renderer
import PascalFront.Editor.Completion
import PascalFront.Editor.Documents
import PascalFront.Editor.Session
import PascalFront.Main
import PascalFront.Proofs.Text.Lowercase
import PascalFront.Proofs.Token.Requests
import PascalFront.Proofs.Token.Lexeme
import PascalFront.Proofs.Grammar.Primitive
import PascalFront.Proofs.Grammar.Pairs
import PascalFront.Proofs.Grammar.Levels
import PascalFront.Proofs.Grammar.Derivation
import PascalFront.Proofs.Grammar.Reads
import PascalFront.Proofs.Grammar.ReadsExpression
import PascalFront.Proofs.Grammar.ReadsStatement
import PascalFront.Proofs.Grammar.ReadsProgram
import PascalFront.Proofs.Grammar.Nearest
import PascalFront.Proofs.Grammar.Accepts
import PascalFront.Proofs.Grammar.AcceptsExpression
import PascalFront.Proofs.Grammar.AcceptsStatement
import PascalFront.Proofs.Grammar.AcceptsProgram
import PascalFront.Proofs.Grammar.Steps
import PascalFront.Proofs.Grammar.Local
import PascalFront.Proofs.Grammar.Language
import PascalFront.Proofs.Token.Spelling
import PascalFront.Proofs.Grammar.Lazy
import PascalFront.Proofs.Tree.Node
import PascalFront.Proofs.Tree.StandsOn
import PascalFront.Proofs.Tree.Rules
import PascalFront.Proofs.Tree.Children
import PascalFront.Proofs.Tree.Spans
import PascalFront.Proofs.Grammar.Rereads
import PascalFront.Proofs.Tree.Derived
import PascalFront.Proofs.Grammar.OneAssignment
import PascalFront.Proofs.Token.Stretch
import PascalFront.Proofs.Tree.SelfContained
import PascalFront.Proofs.Text.Lines
import PascalFront.Proofs.Diagnostic.ShownLine
import PascalFront.Proofs.Tree.Height
import PascalFront.Proofs.Tree.LongSum
import PascalFront.Proofs.Grammar.Lookahead
import PascalFront.Proofs.Grammar.PlainCursor
import PascalFront.Proofs.Grammar.Resumed
import PascalFront.Proofs.Tree.Relabelled
import PascalFront.Proofs.Grammar.Correspondence
import PascalFront.Proofs.Grammar.Agreement
import PascalFront.Proofs.Grammar.Placeless
import PascalFront.Proofs.Token.Respelling
import PascalFront.Proofs.Token.Respelled
import PascalFront.Proofs.Grammar.KeywordCase
import PascalFront.Proofs.Grammar.LineEnds
import PascalFront.Proofs.Editor.Range
import PascalFront.Proofs.Editor.Notice
import PascalFront.Proofs.Editor.Outline
import PascalFront.Proofs.Editor.Documents
import PascalFront.Proofs.Editor.Session
import PascalFront.Proofs.Text.Utf16
import PascalFront.Proofs.Editor.Selection
import PascalFront.Proofs.Text.Utf8
import PascalFront.Proofs.CommandLine.Check
import PascalFront.Proofs.Folder
import PascalFront.Proofs.CommandLine.FolderCheck
import PascalFront.Proofs.Surfaces
import PascalFront.Proofs.Grammar.ReadsNoFurther
import PascalFront.Proofs.Grammar.Unambiguous
import PascalFront.Proofs.Grammar.NestingLimit
import PascalFront.Proofs.Numeral.Literal
import PascalFront.Proofs.Tree.NearestElse
import PascalFront.Proofs.Grammar.Stratified
import PascalFront.Proofs.Grammar.BindingPower
import PascalFront.Proofs.Token.Composition
import PascalFront.Proofs.Diagnostic.Carets
import PascalFront.Proofs.Numeral.Interval
import PascalFront.Proofs.Numeral.Written
import PascalFront.Proofs.Text.Quoted
import PascalFront.Proofs.Tree.Indented
import PascalFront.Proofs.Tree.Sketched
import PascalFront.Proofs.Tree.Recovered
import PascalFront.Proofs.CommandLine.View
import PascalFront.Proofs.Diagnostic.Colours
import PascalFront.Proofs.Grammar.Progress
import PascalFront.Proofs.Tree.Roots
import PascalFront.Proofs.Tree.MissingPositions
import PascalFront.Proofs.Tree.SpelledKeywords
