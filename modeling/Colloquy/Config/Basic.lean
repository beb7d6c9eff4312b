import Colloquy.Provider.Request

/-!
# Configuration

What can be set: the budgets of a run and which tools are trusted, the
model and how it is asked, and where the log goes. Everything has a
default.
-/

namespace Colloquy

/-- **Budgets and trust.** -/
structure RuntimeSettings where
  /-- How many rounds of tool calls there may be. -/
  maxToolIterations : Nat := 8
  /-- How many seconds a run may take. -/
  timeoutSecs : Nat := 60
  /-- How many seconds a run may take at least. -/
  minTimeoutSecs : Nat := 30
  /-- The tools that may add messages to a conversation. -/
  allowedAppendTools : List String := []
  /-- Whether these may also add instructions. -/
  allowSystemInserts : Bool := false
  /-- The folder that files may come from. -/
  managedFilesRoot : Option String := none
  /-- How many candidates for a structured answer are looked at. -/
  structuredOutputMaxAttempts : Nat := 3
  /-- Whether the calls of one response are executed at once. -/
  parallelToolCalls : Bool := false
deriving DecidableEq, Repr, Inhabited

/-- **The model and how it is asked.** -/
structure ModelSettings where
  /-- The name of the model. -/
  model : String := "gpt-4.1-mini"
  /-- The system prompt. -/
  systemPrompt : String := "You are Relaybot, a helpful assistant."
  /-- A file with a system prompt that is used instead. -/
  systemPromptFile : Option String := none
  /-- The sampling temperature. -/
  temperature : Option Decimal.Single := none
  /-- The most tokens an answer may take. -/
  maxOutputTokens : Option Nat := none
  /-- The family of the provider. -/
  apiMode : Provider.Mode := .chatCompletions
  /-- Whether prompts may be cached. -/
  promptCacheEnabled : Bool := true
  /-- How much reasoning is asked for. -/
  reasoningEffort : Option String := none
deriving DecidableEq, Repr, Inhabited

/-- **The form of the log.** -/
inductive LogFormat where
  /-- Several lines an entry. -/
  | pretty
  /-- One line an entry. -/
  | component
  /-- JSON lines. -/
  | json
deriving DecidableEq, Repr, Inhabited

/-- **Where the log goes.** -/
structure LogSettings where
  /-- The form of the log. -/
  format : LogFormat := .component
  /-- What is logged. -/
  level : String := "info"
  /-- The file that is written to. -/
  file : Option String := none
deriving DecidableEq, Repr, Inhabited

/-- **A configuration.** -/
structure Config where
  /-- Budgets and trust. -/
  runtime : RuntimeSettings := {}
  /-- The model and how it is asked. -/
  llm : ModelSettings := {}
  /-- Where the log goes. -/
  logging : LogSettings := {}
deriving DecidableEq, Repr, Inhabited

namespace ModelSettings

/-- **The signature of a client**: what a provider client is made from.
Clients are kept by their signatures. -/
def signature (s : ModelSettings) : String :=
  "|".intercalate
    [s.model, s.apiMode.name, (s.temperature.map Decimal.Extended.display).getD "",
     (s.maxOutputTokens.map fun n => String.ofList (Decimal.digits n)).getD "",
     s.reasoningEffort.getD ""]

/-- How the model is asked. -/
def sampling (s : ModelSettings) : Provider.Sampling where
  maxOutputTokens := s.maxOutputTokens
  temperature := s.temperature
  reasoningEffort := s.reasoningEffort

/-- Whether two temperatures are the same: none is the same as none, and
numbers are compared by their values. -/
def sameTemperature : Option Decimal.Single → Option Decimal.Single → Bool
  | none, none => true
  | some x, some y => x.equalValues y
  | _, _ => false

end ModelSettings

/-- **Whether two configurations say the same.** A temperature that is not
a number says nothing that could be said again. -/
def Config.says (c d : Config) : Bool :=
  ModelSettings.sameTemperature c.llm.temperature d.llm.temperature
    && { c with llm := { c.llm with temperature := none } }
      == { d with llm := { d.llm with temperature := none } }

end Colloquy
