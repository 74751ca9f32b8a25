import ExprGate.Admission
import ExprGate.Calculator
import ExprGate.CommandEvaluator
import ExprGate.CommandLine.Arguments
import ExprGate.CommandLine.Report
import ExprGate.CommandLine.Run
import ExprGate.Config
import ExprGate.Config.File
import ExprGate.Config.Json
import ExprGate.Config.Yaml
import ExprGate.Decimal
import ExprGate.Duration
import ExprGate.Evaluator
import ExprGate.Json.Basic
import ExprGate.Json.Reader
import ExprGate.Json.Writer
import ExprGate.Main
import ExprGate.Notation
import ExprGate.Operand
import ExprGate.PathName
import ExprGate.Pattern
import ExprGate.Powers
import ExprGate.Process
import ExprGate.Proofs.Branches
import ExprGate.Proofs.Canonical
import ExprGate.Proofs.CaseBlindness
import ExprGate.Proofs.CaseInvariance
import ExprGate.Proofs.Checkpoints
import ExprGate.Proofs.CleanPieces
import ExprGate.Proofs.CleanTexts
import ExprGate.Proofs.ConfigJson
import ExprGate.Proofs.ConfigYaml
import ExprGate.Proofs.ControlCharacters
import ExprGate.Proofs.Dispatch
import ExprGate.Proofs.DurationText
import ExprGate.Proofs.EntryPoints
import ExprGate.Proofs.ErasedLetters
import ExprGate.Proofs.Erasure
import ExprGate.Proofs.ErrorReports
import ExprGate.Proofs.Evidence
import ExprGate.Proofs.ExitCodes
import ExprGate.Proofs.ExpressionLength
import ExprGate.Proofs.FirstOperand
import ExprGate.Proofs.GrammarCompleteness
import ExprGate.Proofs.JsonLayouts
import ExprGate.Proofs.JsonTokens
import ExprGate.Proofs.LengthBounds
import ExprGate.Proofs.Letters
import ExprGate.Proofs.LoadedConfig
import ExprGate.Proofs.Logarithms
import ExprGate.Proofs.Occurrences
import ExprGate.Proofs.Operands
import ExprGate.Proofs.PhraseBook
import ExprGate.Proofs.PhrasesInContext
import ExprGate.Proofs.Preference
import ExprGate.Proofs.ProgramOutput
import ExprGate.Proofs.Reach
import ExprGate.Proofs.Readings
import ExprGate.Proofs.Readmission
import ExprGate.Proofs.Relettering
import ExprGate.Proofs.Reports
import ExprGate.Proofs.RootPhrases
import ExprGate.Proofs.Routing
import ExprGate.Proofs.SharedWords
import ExprGate.Proofs.ShownConfig
import ExprGate.Proofs.SignatureFreedom
import ExprGate.Proofs.Spelling
import ExprGate.Proofs.Spellings
import ExprGate.Proofs.Stages
import ExprGate.Proofs.Surroundings
import ExprGate.Proofs.Trimming
import ExprGate.Proofs.UsableConfig
import ExprGate.Proofs.Utf8Decoding
import ExprGate.Proofs.Weaving
import ExprGate.Proofs.WholeOperands
import ExprGate.Proofs.WholeWords
import ExprGate.Proofs.WireRoundTrip
import ExprGate.Proofs.Wordings
import ExprGate.Proofs.YamlBlocks
import ExprGate.Proofs.YamlDocuments
import ExprGate.Proofs.YamlLines
import ExprGate.Proofs.YamlNodes
import ExprGate.Proofs.YamlNumbers
import ExprGate.Proofs.YamlScalars
import ExprGate.Rejection
import ExprGate.Route
import ExprGate.Sanitized
import ExprGate.Session
import ExprGate.Signature
import ExprGate.Text.Alphanumeric
import ExprGate.Text.Basic
import ExprGate.Text.Lowercase
import ExprGate.Text.Quoted
import ExprGate.Text.Ranges
import ExprGate.Text.Unshown
import ExprGate.Text.Utf8
import ExprGate.Text.WordCharacter
import ExprGate.Translation
import ExprGate.Value
import ExprGate.Wire.Fields
import ExprGate.Wire.Names
import ExprGate.Wire.Records
import ExprGate.Yaml.Character
import ExprGate.Yaml.Cursor
import ExprGate.Yaml.Fields
import ExprGate.Yaml.Node
import ExprGate.Yaml.PlainMeaning
import ExprGate.Yaml.Reader
import ExprGate.Yaml.Scalar
import ExprGate.Yaml.Tag
import ExprGate.Yaml.Writer
