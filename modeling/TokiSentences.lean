import TokiSentences.Choice
import TokiSentences.Dictionary.Cursor
import TokiSentences.Dictionary.Definition
import TokiSentences.Dictionary.Document
import TokiSentences.Dictionary.Fault
import TokiSentences.Dictionary.Import
import TokiSentences.Dictionary.Token
import TokiSentences.Dictionary.Vocabulary
import TokiSentences.Disk
import TokiSentences.Generator.Basic
import TokiSentences.Generator.Callers
import TokiSentences.Generator.Setup
import TokiSentences.Grammar
import TokiSentences.Json.Basic
import TokiSentences.Json.Reader
import TokiSentences.Json.Sentence
import TokiSentences.Json.Word
import TokiSentences.Json.Writer
import TokiSentences.Lexicon.Basic
import TokiSentences.Lexicon.Samples
import TokiSentences.Lint.Finding
import TokiSentences.Lint.Report
import TokiSentences.Lint.Survey
import TokiSentences.Main
import TokiSentences.Pool
import TokiSentences.Record
import TokiSentences.Role
import TokiSentences.Sentence.Basic
import TokiSentences.Sentence.Order
import TokiSentences.Shell.Command
import TokiSentences.Shell.Options
import TokiSentences.Shell.Session
import TokiSentences.Source.Basic
import TokiSentences.Source.Cipher
import TokiSentences.Source.Script
import TokiSentences.Source.Seeded
import TokiSentences.Text.Blank
import TokiSentences.Text.CaseTable
import TokiSentences.Text.Decimal
import TokiSentences.Text.Lowercase
import TokiSentences.Text.Order
import TokiSentences.Transcript
import TokiSentences.Word
import TokiSentences.Proofs.AnyAnswers
import TokiSentences.Proofs.Approved
import TokiSentences.Proofs.Callers
import TokiSentences.Proofs.Choice
import TokiSentences.Proofs.Drawn
import TokiSentences.Proofs.Draws
import TokiSentences.Proofs.ExitStatus
import TokiSentences.Proofs.Generator
import TokiSentences.Proofs.Grammar
import TokiSentences.Proofs.Interleaving
import TokiSentences.Proofs.JsonRecords
import TokiSentences.Proofs.Lexicon
import TokiSentences.Proofs.Lines
import TokiSentences.Proofs.Lint
import TokiSentences.Proofs.Listing
import TokiSentences.Proofs.Markers
import TokiSentences.Proofs.Odds
import TokiSentences.Proofs.Places
import TokiSentences.Proofs.Pool
import TokiSentences.Proofs.Reading
import TokiSentences.Proofs.Renaming
import TokiSentences.Proofs.Runs
import TokiSentences.Proofs.Safety
import TokiSentences.Proofs.Session
import TokiSentences.Proofs.Shelving
import TokiSentences.Proofs.Source
import TokiSentences.Proofs.Spaces
import TokiSentences.Proofs.Stock
import TokiSentences.Proofs.Tokens
import TokiSentences.Proofs.Catalogue
import TokiSentences.Proofs.Settings
import TokiSentences.Proofs.Repeats
import TokiSentences.Proofs.VerbForms
import TokiSentences.Proofs.Classification
import TokiSentences.Proofs.Replay
import TokiSentences.Proofs.Agreement
import TokiSentences.Proofs.Components
import TokiSentences.Proofs.Order
import TokiSentences.Proofs.Chunks
import TokiSentences.Proofs.Numerals
import TokiSentences.Proofs.Arguments
import TokiSentences.Proofs.Commands
import TokiSentences.Proofs.Loop
