import Colloquy.Config.Codec
import Colloquy.Config.Environment
import Colloquy.Failure
import Colloquy.Files.Resolve

/-!
# Configurations and files

Loading and saving a configuration, and what it names in the file system:
a system prompt, and the folder that files may come from. Where there is
no file, the defaults are loaded; the environment has the last word.
-/

namespace Colloquy.Config

/-- What can go wrong with a file, as a failure. -/
def liftFiles {α : Type} (r : Except Files.Error α) : Except Failure α :=
  r.mapError fun e => .files e.message

/-- **Loading a configuration.** -/
def load (fs : Files) (env : Environment) (path : String) : Except Failure Config := do
  let found ←
    if fs.has path then do
      let text ← liftFiles (fs.readText path)
      (ofText text).mapError .json
    else .ok {}
  .ok (found.applyEnvironment env)

/-- **Saving a configuration**; folders that are missing are made. -/
def save (fs : Files) (path : String) (c : Config) : Except Failure Files :=
  liftFiles (fs.writeDeep path (Files.encode c.toText))

/-- Where a person's configuration is, below the home folder. -/
def usualPath (fs : Files) : String :=
  fs.home ++ "/.relaybot/config.json"

/-- The file with the system prompt, if one is named. -/
def promptFile? (c : Config) : Option String :=
  (c.llm.systemPromptFile.map Text.trim).filter fun path => !path.isEmpty

/-- A complaint about the file with the system prompt. -/
def promptComplaint (what path : String) : Failure :=
  .config s!"system_prompt_file configured but {what}: {path}"

/-- **The system prompt**: the content of its file if one is named, which
must then be there and say something; otherwise the prompt itself. -/
def systemPrompt (fs : Files) (c : Config) : Except Failure String :=
  match c.promptFile? with
  | none => .ok c.llm.systemPrompt
  | some name => do
    let path := fs.expandHome name
    if !fs.has path then .error (promptComplaint "file not found" name)
    else if !fs.hasFile path then .error (promptComplaint "path is not a file" name)
    else
      let text ← liftFiles (fs.readText path)
      if Text.isBlankText text then .error (promptComplaint "file is empty" name)
      else .ok (Text.trim text)

/-- **The folder that files may come from**, as a path. -/
def managedRoot (fs : Files) (c : Config) : Option String :=
  (c.runtime.managedFilesRoot.filter fun path => !Text.isBlankText path).map fs.expandHome

end Colloquy.Config
