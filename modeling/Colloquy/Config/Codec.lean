import Colloquy.Config.Basic
import Colloquy.Json.Kind

/-!
# Configurations as text

The settings of each section, by name, in the order in which they are
written. The same lists are used to write a configuration, to read one
from a text or a JSON value, and to tell which names are known.
-/

namespace Colloquy

open Json (Kind Setting)

namespace RuntimeSettings

/-- **The settings of the section.** -/
def settings : List (Setting RuntimeSettings) :=
  [(Kind.count .small).setting "max_tool_iterations"
      maxToolIterations fun v s => { s with maxToolIterations := v },
   (Kind.count .large).setting "timeout_secs" timeoutSecs fun v s => { s with timeoutSecs := v },
   (Kind.count .large).setting "min_timeout_secs"
      minTimeoutSecs fun v s => { s with minTimeoutSecs := v },
   (Kind.list .text).setting "allowed_append_message_tools"
      allowedAppendTools fun v s => { s with allowedAppendTools := v },
   Kind.flag.setting "allow_system_inserts"
      allowSystemInserts fun v s => { s with allowSystemInserts := v },
   (Kind.nullable .text).setting "managed_files_root"
      managedFilesRoot fun v s => { s with managedFilesRoot := v },
   (Kind.count .small).setting "structured_output_max_attempts"
      structuredOutputMaxAttempts fun v s => { s with structuredOutputMaxAttempts := v },
   Kind.flag.setting "parallel_tool_calls"
      parallelToolCalls fun v s => { s with parallelToolCalls := v }]

/-- The section as a kind of setting. -/
def kind : Kind RuntimeSettings :=
  Setting.record "struct RuntimeConfig" {} settings

end RuntimeSettings

namespace ModelSettings

/-- **The settings of the section.** -/
def settings : List (Setting ModelSettings) :=
  [Kind.text.setting "model" model fun v s => { s with model := v },
   Kind.text.setting "system_prompt" systemPrompt fun v s => { s with systemPrompt := v },
   (Kind.nullable .text).setting "system_prompt_file"
      systemPromptFile fun v s => { s with systemPromptFile := v },
   (Kind.nullable .single).setting "temperature"
      temperature fun v s => { s with temperature := v },
   (Kind.nullable (.count .small)).setting "max_output_tokens"
      maxOutputTokens fun v s => { s with maxOutputTokens := v },
   (Kind.choice Provider.Mode.byName Provider.Mode.name).setting "api_mode"
      apiMode fun v s => { s with apiMode := v },
   Kind.flag.setting "prompt_cache_enabled"
      promptCacheEnabled fun v s => { s with promptCacheEnabled := v },
   (Kind.nullable .text).setting "reasoning_effort"
      reasoningEffort fun v s => { s with reasoningEffort := v }]

/-- The section as a kind of setting. -/
def kind : Kind ModelSettings :=
  Setting.record "struct LlmConfig" {} settings

end ModelSettings

namespace LogFormat

/-- The name of a form. -/
def name : LogFormat → String
  | .pretty => "pretty"
  | .component => "component"
  | .json => "json"

/-- The forms by their names. -/
def byName : List (String × LogFormat) :=
  [LogFormat.pretty, .component, .json].map fun f => (f.name, f)

end LogFormat

namespace LogSettings

/-- **The settings of the section.** -/
def settings : List (Setting LogSettings) :=
  [(Kind.choice LogFormat.byName LogFormat.name).setting "format"
      format fun v s => { s with format := v },
   Kind.text.setting "level" level fun v s => { s with level := v },
   (Kind.nullable .text).setting "file" file fun v s => { s with file := v }]

/-- The section as a kind of setting. -/
def kind : Kind LogSettings :=
  Setting.record "struct LoggingConfig" {} settings

end LogSettings

namespace Config

/-- **The sections.** -/
def settings : List (Setting Config) :=
  [RuntimeSettings.kind.setting "runtime" runtime fun v c => { c with runtime := v },
   ModelSettings.kind.setting "llm" llm fun v c => { c with llm := v },
   LogSettings.kind.setting "logging" logging fun v c => { c with logging := v }]

/-- Configurations as a kind of setting. -/
def kind : Kind Config :=
  Setting.record "struct Config" {} settings

/-- **A configuration from JSON.** -/
def ofJson (v : Json) : Except Json.Mismatch Config :=
  kind.ofJson v

/-- **A configuration from a text**, or the report of what is wrong with
it. -/
def ofText (text : String) : Except String Config :=
  (kind.readAll text).mapError fun c => c.message text.toList

/-- **A configuration as text.** -/
def toText (c : Config) : String :=
  (kind.outline c).pretty

end Config

end Colloquy
