import Colloquy.Config.Basic
import Colloquy.Decimal.Literal

/-!
# Settings from the environment

Variables that replace settings of a configuration. A variable whose value
is not of the right kind is as good as none.
-/

namespace Colloquy.Config

/-- **Variables and their values.** -/
abbrev Environment := List (String × String)

/-- **A variable that replaces a setting.** -/
structure Override where
  /-- The name of the variable, behind the prefix that all of them have. -/
  name : String
  /-- The configuration with the setting replaced. -/
  apply : String → Config → Option Config

/-- A counter below a bound. -/
def count? (bound : Nat) (value : String) : Option Nat :=
  Decimal.natBelow? bound value.toList

/-- A truth value. -/
def flag? (value : String) : Option Bool :=
  if value = "true" then some true
  else if value = "false" then some false
  else none

/-- A number of four bytes. -/
def single? (value : String) : Option Decimal.Single :=
  Decimal.Extended.ofText? Decimal.singleFormat value.toList

/-- A variable for a setting of a section. -/
def override {α : Type} (name : String) (read : String → Option α) (set : α → Config → Config) :
    Override where
  name := name
  apply value c := (read value).map fun a => set a c

/-- The bound of small counters. -/
def smallBound : Nat := 0x100000000

/-- The bound of large counters. -/
def largeBound : Nat := 0x10000000000000000

/-- **The variables**, each with its setting. -/
def overrides : List Override :=
  [override "RUNTIME_MAX_TOOL_ITERATIONS" (count? smallBound) fun v c =>
      { c with runtime := { c.runtime with maxToolIterations := v } },
   override "RUNTIME_TIMEOUT_SECS" (count? largeBound) fun v c =>
      { c with runtime := { c.runtime with timeoutSecs := v } },
   override "RUNTIME_MIN_TIMEOUT_SECS" (count? largeBound) fun v c =>
      { c with runtime := { c.runtime with minTimeoutSecs := v } },
   override "RUNTIME_ALLOW_SYSTEM_INSERTS" flag? fun v c =>
      { c with runtime := { c.runtime with allowSystemInserts := v } },
   override "RUNTIME_MANAGED_FILES_ROOT" some fun v c =>
      { c with runtime := { c.runtime with managedFilesRoot := some v } },
   override "RUNTIME_PARALLEL_TOOL_CALLS" flag? fun v c =>
      { c with runtime := { c.runtime with parallelToolCalls := v } },
   override "LLM_MODEL" some fun v c => { c with llm := { c.llm with model := v } },
   override "LLM_SYSTEM_PROMPT_FILE" some fun v c =>
      { c with llm := { c.llm with systemPromptFile := some v } },
   override "LLM_TEMPERATURE" single? fun v c =>
      { c with llm := { c.llm with temperature := some v } },
   override "LLM_MAX_OUTPUT_TOKENS" (count? smallBound) fun v c =>
      { c with llm := { c.llm with maxOutputTokens := some v } },
   override "LLM_API_MODE" (fun s => Provider.Mode.byName.lookup s) fun v c =>
      { c with llm := { c.llm with apiMode := v } },
   override "LLM_REASONING_EFFORT" some fun v c =>
      { c with llm := { c.llm with reasoningEffort := some v } },
   override "LOGGING_LEVEL" some fun v c => { c with logging := { c.logging with level := v } }]

/-- What the names of all variables begin with. -/
def commonStart : String := "RELAYBOT_"

/-- A configuration with one variable taken into account. -/
def applyOverride (env : Environment) (c : Config) (o : Override) : Config :=
  match env.lookup (commonStart ++ o.name) with
  | none => c
  | some value => (o.apply value c).getD c

/-- **A configuration with the environment taken into account.** -/
def applyEnvironment (env : Environment) (c : Config) : Config :=
  overrides.foldl (applyOverride env) c

end Colloquy.Config
