import SearchQuery.Main
import SearchQuery.Proofs.Grammar.Answer
import SearchQuery.Proofs.Grammar.Agreement
import SearchQuery.Proofs.StrictQuery
import SearchQuery.Proofs.Collapsing
import SearchQuery.Proofs.QuotedText
import SearchQuery.Proofs.SexpReading.Queries
import SearchQuery.Proofs.MissingValue
import SearchQuery.Proofs.Markers
import SearchQuery.Proofs.TokenYield
import SearchQuery.Proofs.Lexemes.Division
import SearchQuery.Proofs.Lexemes.Assembly
import SearchQuery.Proofs.Spelling
import SearchQuery.Proofs.Expressible
import SearchQuery.Proofs.DocumentLines
import SearchQuery.Proofs.PathParts
import SearchQuery.Proofs.Settings.Global
import SearchQuery.Proofs.Settings.Isolation
import SearchQuery.Proofs.Settings.Starter
import SearchQuery.Proofs.Settings.Neutral
import SearchQuery.Proofs.Settings.Discovery
import SearchQuery.Proofs.Settings.Precedence
import SearchQuery.Proofs.Arguments
import SearchQuery.Proofs.Runs.Files
import SearchQuery.Proofs.Runs.Settings
import SearchQuery.Proofs.NodeShapes
import SearchQuery.Proofs.Meaning
import SearchQuery.Proofs.Grammar.Ends
import SearchQuery.Proofs.TrailingConnective
import SearchQuery.Proofs.Spelling.Spaced
import SearchQuery.Proofs.OutlineReading
import SearchQuery.Proofs.Renaming
import SearchQuery.Proofs.LetterCase
import SearchQuery.Proofs.UnmatchedClose
import SearchQuery.Proofs.Runs.Verbosity
import SearchQuery.Proofs.Commas
import SearchQuery.Proofs.Parentheses
import SearchQuery.Proofs.JsonReading.Queries
import SearchQuery.Proofs.Runs.Queries
import SearchQuery.Proofs.Runs.Several
import SearchQuery.Proofs.Settings.Document
import SearchQuery.Proofs.Runs.Listing
import SearchQuery.Proofs.Stepwise
import SearchQuery.Proofs.Stepwise.Agreement
import SearchQuery.Proofs.Stepwise.Progress
import SearchQuery.Proofs.Grammar.Left
