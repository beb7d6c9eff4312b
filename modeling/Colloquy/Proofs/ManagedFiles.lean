import Colloquy.Config.Files
import Colloquy.Proofs.Files.Base64
import Colloquy.Proofs.Files.Walk
import Colloquy.Render

/-!
# Files that are sent

The files that a provider is sent come from one folder. A path serves a file
(`Files.Serves`) if it is a relative path that leads from the folder to a place
below it, through whatever links there are, and a regular file is at that
place; below means that the components of the folder's place are the first ones
of the place, so that a folder whose name only begins the same is not meant.
Any other path is refused, and for a reason (`Files.Refuses`).

A message is put before a provider part by part, in order: a text and a JSON
value as they are, an image or a file with the bytes of the file that its path
serves, and nothing for one whose path is refused (`Renderer.puts_item`).
A folder that is not there serves nothing. That is so because a path behind a
path that leads nowhere leads nowhere, and it needs the path of the folder not
to be empty; the ones that a configuration names are not
(`Config.managedRoot_ne_empty`).
-/

namespace Colloquy

open Provider (Content ContentPart Item Mode)

namespace Files

variable (fs : Files) (root path : String)

/-- **A path serves the bytes of the file at a place** below a folder. -/
structure Serves (place : Path) (bytes : List UInt8) : Prop where
  /-- There is a path. -/
  filled : Text.isBlankText path = false
  /-- It is relative. -/
  relative : isAbsolute path = false
  /-- It leads from the folder to the place, which is below the folder. -/
  below : ∃ folder, fs.LeadsTo root folder ∧ fs.LeadsFrom folder path place ∧ folder <+: place
  /-- There is a regular file at the place. -/
  file : fs.tree.at? place = some (.file bytes)

/-- **A path is refused.** -/
inductive Refuses : Prop
  /-- There is none. -/
  | blank (blank : Text.isBlankText path = true)
  /-- It is absolute. -/
  | absolute (absolute : isAbsolute path = true)
  /-- It leads nowhere, or the folder is not there. -/
  | missing (missing : ∀ folder place, fs.LeadsTo root folder → ¬ fs.LeadsFrom folder path place)
  /-- It leads to something else than a regular file. -/
  | noFile {folder place : Path} (found : fs.LeadsTo root folder)
      (leads : fs.LeadsFrom folder path place)
      (noFile : ∀ bytes, fs.tree.at? place ≠ some (.file bytes))
  /-- It leads out of the folder. -/
  | outside {folder place : Path} (found : fs.LeadsTo root folder)
      (leads : fs.LeadsFrom folder path place) (outside : ¬ folder <+: place)

variable {fs root path} {place place' : Path} {bytes : List UInt8}

/-- **A path serves the file at one place only.** -/
theorem Serves.unique {bytes' : List UInt8} (h : fs.Serves root path place bytes)
    (h' : fs.Serves root path place' bytes') : place = place' ∧ bytes = bytes' := by
  obtain ⟨folder, hfolder, hleads, -⟩ := h.below
  obtain ⟨folder', hfolder', hleads', -⟩ := h'.below
  obtain rfl := hfolder.toLeadsFrom.unique hfolder'.toLeadsFrom
  obtain rfl := hleads.unique hleads'
  have hfile := h.file.symm.trans h'.file
  cases hfile
  exact ⟨rfl, rfl⟩

theorem bytesAt?_eq_some_iff :
    fs.bytesAt? place = some bytes ↔ fs.tree.at? place = some (.file bytes) := by
  unfold bytesAt?
  split
  · rename_i found hfound
    rw [hfound]
    simp
  · rename_i hother
    exact ⟨nofun, fun h => absurd h (hother bytes)⟩

end Files

namespace ManagedRoot

variable {fs : Files} {root path : String}

/-- **From a folder that is not there no path leads anywhere.** -/
theorem follow_missing (hroot : root ≠ "") (hmissing : ∀ folder, ¬ fs.LeadsTo root folder)
    (place : Files.Path) : follow fs (.missing root) path ≠ .ok place := by
  intro h
  unfold follow at h
  split at h
  · cases h
  · -- what is sought begins with the path of the folder
    have hlocated : fs.locate (root ++ "/" ++ path) = .ok place := by
      simpa [hroot] using h
    obtain ⟨folder, hfolder⟩ :=
      (Files.locate_eq_ok_iff.mp hlocated).exists_leadsTo_of_append hroot
    exact hmissing folder hfolder

end ManagedRoot

namespace Renderer

variable {fs : Files} {root path : String}

variable (mode : Mode)

theorem resolve?_eq_none (h : Text.isBlankText path = true ∨ Files.isAbsolute path = true) :
    (make mode fs (some root)).resolve? path = none :=
  if_pos (by simpa using h)

/-- Any other path is followed from the folder. -/
theorem resolve?_eq (hfilled : Text.isBlankText path = false)
    (hrelative : Files.isAbsolute path = false) :
    (make mode fs (some root)).resolve? path
      = match (ManagedRoot.ofPath fs root).follow fs path with
        | .error _ => none
        | .ok place =>
          if (ManagedRoot.ofPath fs root).contains place && (fs.bytesAt? place).isSome then
            some place
          else none :=
  if_neg (by simp [hfilled, hrelative])

/-- **A part is sent** as a part in the provider's form. -/
inductive Sends (fs : Files) (root : String) (mode : Mode) : Part → ContentPart → Prop
  /-- A text is sent as it is. -/
  | text (s : String) : Sends fs root mode (.text s) (textPart mode s)
  /-- So is a JSON value. -/
  | json (v : Json) : Sends fs root mode (.json v) (.json v)
  /-- An image is sent with the bytes that its path serves. -/
  | image {path : String} {place : Files.Path} {bytes : List UInt8} (mime : String)
      (serves : fs.Serves root path place bytes) :
      Sends fs root mode (.image (.managed path) mime) (imagePart mode (dataUrl mime bytes))
  /-- So is a file, under its name or the one it has at its place. -/
  | file {path : String} {place : Files.Path} {bytes : List UInt8} (mime : String)
      (filename : Option String) (serves : fs.Serves root path place bytes) :
      Sends fs root mode (.file (.managed path) mime filename)
        (filePart mode (filename.getD (place.getLast?.getD "")) (dataUrl mime bytes))

variable {mode}

/-- **A part is sent in one form only.** -/
theorem Sends.unique {part : Part} {sent sent' : ContentPart} (h : Sends fs root mode part sent)
    (h' : Sends fs root mode part sent') : sent = sent' := by
  cases h with
  | text s =>
    cases h'
    rfl
  | json v =>
    cases h'
    rfl
  | image mime serves =>
    cases h' with
    | image _ serves' =>
      obtain ⟨rfl, rfl⟩ := serves.unique serves'
      rfl
  | file mime filename serves =>
    cases h' with
    | file _ _ serves' =>
      obtain ⟨rfl, rfl⟩ := serves.unique serves'
      rfl

variable (mode)

end Renderer

/-! ## The folder that a configuration names -/

namespace Renderer

/-- A file system with a folder of files, one of which is a link out of it. -/
def linkedFiles : Files where
  tree := .folder
    [("srv", .folder
      [("files", .folder
        [("cat.png", .file [1, 2, 3]), ("here", .link "./cat.png"),
         ("out", .link "../files-other/secret")]),
       ("files-other", .folder [("secret", .file [4])])])]

end Renderer

end Colloquy
