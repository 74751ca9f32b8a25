import ExprGate.Pattern

/-!
# Security signatures

The fixed table of phrases that mark an attempt to instruct, script or probe the system rather
than to calculate. A signature matches in any case and anchors on a leading word boundary only, so
inflected words are caught as well. Table order is priority order.
-/

namespace ExprGate

/-- What kind of attempt a signature stands for. -/
inductive SignatureCategory
  | instructionOverride
  | roleAssumption
  | roleLabel
  | commandExecution
  | destructiveOperation
  | credential
  | uriScheme
  | scriptPrefix
  | markupInjection
  | jailbreak
  | negatedCompliance
  | instructionReplacement
  | promptExfiltration
  deriving DecidableEq, Repr

/-- Where in the pipeline a text is screened. -/
inductive Checkpoint
  /-- The sanitized input, before anything else is made of it. -/
  | input
  /-- The notation that a phrase was translated into. -/
  | converted
  /-- The expression about to be handed to the evaluator. -/
  | dispatch
  deriving DecidableEq, Repr

/-- One row of the signature table. -/
structure Signature where
  /-- The stable identifier. -/
  id : String
  /-- The kind of attempt. -/
  category : SignatureCategory
  /-- A short description for people. -/
  description : String
  /-- What the signature looks for. -/
  pattern : Pattern
  deriving DecidableEq, Repr

namespace Signature

open Pattern

/-- The nouns with an optional plural that several signatures name. -/
private def orPlural (nouns : List String) : List String :=
  nouns.flatMap fun noun => [noun ++ "s", noun]

/-- A pattern that starts at a word boundary. -/
private def wordStart (parts : List Pattern) : Pattern := Pattern.all (boundary :: parts)

/-- Every signature, in order of priority. -/
def table : List Signature := [
  { id := "S1", category := .instructionOverride, description := "Instruction override",
    pattern := wordStart [phrases ["ignore", "forget", "disregard"], blanks,
      phrases ["previous", "prior", "above", "all", "the"], blanks,
      phrases (orPlural ["instruction", "command", "prompt", "rule", "directive"])] },
  { id := "S2", category := .roleAssumption, description := "Role assumption",
    pattern := wordStart [phrases ["you are", "you're", "act as", "pretend to be",
      "roleplay as"]] },
  { id := "S3", category := .roleLabel, description := "Role label prefix",
    pattern := wordStart [phrases ["system", "assistant", "user", "admin", "root"], char ':'] },
  { id := "S4", category := .commandExecution, description := "Command or execution verb",
    pattern := wordStart [phrases ["execute", "run", "eval", "exec", "system", "shell", "command",
      "script"]] },
  { id := "S5", category := .destructiveOperation, description := "Destructive operation verb",
    pattern := wordStart [phrases ["delete", "drop", "remove", "clear", "truncate", "alter",
      "update", "insert", "create"], blanks] },
  { id := "S6", category := .credential, description := "Credential-related noun",
    pattern := wordStart [phrases ["password", "token", "key", "secret", "api", "auth",
      "credential"]] },
  { id := "S7", category := .uriScheme, description := "URI scheme",
    pattern := wordStart [phrases ["http", "https", "ftp", "file", "data"], phrase "://"] },
  { id := "S8", category := .scriptPrefix, description := "Scripting-language prefix",
    pattern := wordStart [phrases ["javascript", "python", "bash", "shell", "sql", "script"],
      char ':'] },
  { id := "S9", category := .markupInjection, description := "Markup injection tag",
    pattern := Pattern.all [char '<', gap,
      phrases ["script", "iframe", "object", "embed", "link", "style"]] },
  { id := "S10", category := .jailbreak, description := "Jailbreak vocabulary",
    pattern := wordStart [phrases ["jailbreak", "override", "bypass", "hack", "exploit"]] },
  { id := "S11", category := .negatedCompliance, description := "Negated compliance",
    pattern := wordStart [phrases ["do not", "don't", "never"], blanks,
      phrases ["follow", "obey", "listen", "respect"]] },
  { id := "S12", category := .instructionReplacement, description := "Instruction replacement",
    pattern := wordStart [phrases ["new instructions", "new instruction", "override", "replace"],
      blanks, phrases (orPlural ["instruction", "rule"] ++ ["system"])] },
  { id := "S13", category := .promptExfiltration, description := "Prompt exfiltration (dump)",
    pattern := wordStart [phrases ["print", "output", "return", "display"], blanks,
      phrases ["everything", "all", "the prompt", "your instructions"]] },
  { id := "S14", category := .promptExfiltration, description := "Prompt exfiltration (reveal)",
    pattern := wordStart [phrases ["what are", "tell me", "show me", "reveal"], blanks,
      phrases ["your", "the"], blanks,
      phrases (orPlural ["instruction"] ++ ["prompt", "system"] ++ orPlural ["rule"])] }]

/-- The identifiers of the signatures that are looked for again right before dispatch. -/
def dispatchIds : List String := ["S1", "S2", "S3", "S4"]

/-- Whether a signature is looked for at the checkpoint. -/
def activeAt (checkpoint : Checkpoint) (s : Signature) : Bool :=
  match checkpoint with
  | .input | .converted => true
  | .dispatch => dispatchIds.contains s.id

/-- The signature with the given identifier. -/
def find? (id : Text) : Option Signature := table.find? fun s => s.id.toList == id

end Signature

/-- A signature that fired, with the span of text that it matched. -/
structure SignatureMatch where
  /-- The identifier of the signature. -/
  signatureId : Text
  /-- The kind of attempt. -/
  category : SignatureCategory
  /-- The checkpoint at which the text was screened. -/
  checkpoint : Checkpoint
  /-- The offset in bytes where the match starts. -/
  start : Nat
  /-- The offset in bytes where the match ends. -/
  stop : Nat
  /-- The matched text. -/
  matched : Text
  deriving DecidableEq, Repr

/-- The report on an occurrence of a signature. -/
def Signature.report (checkpoint : Checkpoint) (s : Signature) (m : Match) : SignatureMatch :=
  { signatureId := s.id.toList, category := s.category, checkpoint := checkpoint,
    start := m.start, stop := m.stop, matched := m.matched }

/-- The first signature, in table order, that is active at the checkpoint and occurs in the text,
with its leftmost occurrence. -/
def findBlocked (text : Text) (checkpoint : Checkpoint) : Option SignatureMatch :=
  (Signature.table.filter (Signature.activeAt checkpoint)).findSome? fun s =>
    (s.pattern.find text).map (s.report checkpoint)

/-- Whether any signature of the table occurs in the text. -/
def containsBlocked (text : Text) : Bool :=
  Signature.table.any fun s => s.pattern.occursIn text

end ExprGate
