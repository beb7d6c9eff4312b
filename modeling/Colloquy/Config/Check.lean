import Colloquy.Config.Codec
import Colloquy.Text.EditDistance

/-!
# Checking a configuration

What people are told about a configuration before it is used: fields that
nobody knows, with the known name that comes closest, numbers that must
not be zero, and settings that deserve a warning.
-/

namespace Colloquy.Config

/-- **How serious a finding is.** -/
inductive Severity where
  /-- Nothing is wrong. -/
  | fine
  /-- Something deserves attention. -/
  | warning
  /-- Something is wrong. -/
  | error
deriving DecidableEq, Repr

/-- **A finding**: where, and what. Findings about the whole have no
place. -/
structure Finding where
  /-- How serious it is. -/
  severity : Severity
  /-- Where it is. -/
  path : String
  /-- What it is. -/
  message : String
deriving DecidableEq, Repr

/-- The mark in front of a finding. -/
def Severity.mark : Severity → String
  | .fine => "[OK]"
  | .warning => "[WARN]"
  | .error => "[ERROR]"

/-- A finding on a line. -/
def Finding.line (f : Finding) : String :=
  if f.path.isEmpty then s!"{f.severity.mark} {f.message}"
  else s!"{f.severity.mark} {f.path}: {f.message}"

/-- How far a name may be from the one that is suggested for it. -/
def farthest : Nat := 3

/-- The nearest of the known names so far and its distance. -/
def nearer (unknown : String) (best : Option (String × Nat)) (known : String) :
    Option (String × Nat) :=
  let distance := Text.editDistance unknown known
  if farthest < distance then best
  else
    match best with
    | some (name, d) => if distance < d then some (known, distance) else some (name, d)
    | none => some (known, distance)

/-- **The known name nearest to an unknown one**, the first of several, if
it is near enough. -/
def nearest? (unknown : String) (known : List String) : Option String :=
  (known.foldl (nearer unknown) none).map Prod.fst

/-- The suggestion for an unknown name. -/
def suggestion? (unknown : String) (known : List String) : Option String :=
  (nearest? unknown known).map fun name => s!"did you mean '{name}'?"

/-- The finding about an unknown field. -/
def unknownField (path name : String) (known : List String) : Finding :=
  ⟨.error, path,
    match suggestion? name known with
    | some s => s!"Unknown field '{name}': {s}"
    | none => s!"Unknown field '{name}'"⟩

/-- The names of settings. -/
def namesOf {σ : Type} (settings : List (Json.Setting σ)) : List String :=
  settings.map Json.Setting.name

/-- The findings about unknown fields of an object. -/
def unknownFields (fields : Json.Fields) (above : String) (known : List String) :
    List Finding :=
  (fields.names.filter fun name => !known.contains name).map fun name =>
    unknownField (above ++ name) name known

/-- The findings about unknown fields of a section. -/
def unknownInSection (fields : Json.Fields) (part : String) (known : List String) :
    List Finding :=
  match (fields.find? part).bind Json.fields? with
  | some inner => unknownFields inner (part ++ ".") known
  | none => []

/-- A setting of a section. -/
def settingOf? (fields : Json.Fields) (part name : String) : Option Json :=
  (fields.find? part).bind fun v => v.field? name

/-- The finding about a number of the runtime section that must not be
zero. -/
def positive (fields : Json.Fields) (name : String) : List Finding :=
  match settingOf? fields "runtime" name with
  | none => []
  | some v =>
    match v.nat? with
    | some (_ + 1) => []
    | _ => [⟨.error, "runtime." ++ name, "Must be a positive integer"⟩]

/-- The names of the families of providers. -/
def modeNames : List String := Provider.Mode.byName.map Prod.fst

/-- The finding about the family of the provider. -/
def modeFindings (fields : Json.Fields) : List Finding :=
  match settingOf? fields "llm" "api_mode" with
  | none => []
  | some v =>
    if (v.string?.map modeNames.contains).getD false then []
    else [⟨.error, "llm.api_mode", "Must be one of: " ++ ", ".intercalate modeNames⟩]

/-- The warning about tools that may add instructions. -/
def trustFindings (fields : Json.Fields) : List Finding :=
  if ((settingOf? fields "runtime" "allow_system_inserts").bind Json.bool?).getD false then
    [⟨.warning, "runtime.allow_system_inserts", "Trusted tools may insert system messages"⟩]
  else []

/-- All findings about unknown fields. -/
def unknownFindings (fields : Json.Fields) : List Finding :=
  unknownFields fields "" (namesOf settings)
    ++ unknownInSection fields "runtime" (namesOf RuntimeSettings.settings)
    ++ unknownInSection fields "llm" (namesOf ModelSettings.settings)
    ++ unknownInSection fields "logging" (namesOf LogSettings.settings)

/-- **The findings about a configuration**, given as JSON. -/
def check : Json → List Finding
  | .obj fields =>
    let unknown := unknownFindings fields
    ⟨.fine, "", "Valid JSON"⟩ :: unknown
      ++ (if unknown.isEmpty then [⟨.fine, "", "All fields recognized"⟩] else [])
      ++ positive fields "max_tool_iterations"
      ++ positive fields "timeout_secs"
      ++ positive fields "structured_output_max_attempts"
      ++ modeFindings fields
      ++ trustFindings fields
  | _ => [⟨.error, "", "Config must be a JSON object"⟩]

end Colloquy.Config
