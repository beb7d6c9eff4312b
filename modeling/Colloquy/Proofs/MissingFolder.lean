import Colloquy.Proofs.ManagedFiles

/-!
# A folder that is not there

Files may come from one folder, which is looked for once. If it is not there –
nothing has its path, a link on the way leads nowhere, or a file stands where a
folder should – then no path leads anywhere from it, and none is resolved: what
would be found behind a path is found on the way there, too
(`ManagedRoot.follow_missing`).

The empty path is the exception. No folder is found there either, but a path
behind the empty one is that path itself. It is followed from the folder in which
relative paths start, and no place is outside of a folder whose path is empty
(`Renderer.resolve?_empty`).
-/

namespace Colloquy

open Provider (Mode)

/-- **A path names a file by itself**: it is relative, and leads to a regular
file from the folder in which relative paths start. -/
structure Files.Names (fs : Files) (path : String) (place : Files.Path) : Prop where
  /-- There is a path. -/
  filled : Text.isBlankText path = false
  /-- It is relative. -/
  relative : isAbsolute path = false
  /-- It leads to the place. -/
  leads : fs.LeadsTo path place
  /-- There is a regular file at the place. -/
  file : ∃ bytes, fs.tree.at? place = some (.file bytes)

namespace ManagedRoot

variable {fs : Files} {root path : String}

theorem ofPath_of_missing (h : ∀ folder, fs.locate root ≠ .ok folder) :
    ofPath fs root = .missing root := by
  unfold ofPath
  split
  · exact absurd ‹_› (h _)
  · rfl

/-- **A path behind the empty one is followed by itself.** -/
theorem follow_empty {place : Files.Path} :
    follow fs (.missing "") path = .ok place ↔ fs.LeadsTo path place := by
  rw [← Files.locate_eq_ok_iff]
  unfold follow
  split
  · rename_i hunsound
    refine ⟨nofun, fun h => ?_⟩
    exact absurd (Files.locate_eq_ok_iff.mp h).sound (by simpa using hunsound)
  · exact Iff.rfl

end ManagedRoot

namespace Renderer

variable (mode : Mode) {fs : Files} {root path : String}

theorem isSome_bytesAt?_iff {place : Files.Path} :
    (fs.bytesAt? place).isSome = true ↔ ∃ bytes, fs.tree.at? place = some (.file bytes) := by
  simp only [Option.isSome_iff_exists, Files.bytesAt?_eq_some_iff]

/-- **A folder that is not there resolves no path**, if its path is not empty. -/
theorem resolve?_missing (hroot : root ≠ "") (h : ∀ folder, fs.locate root ≠ .ok folder)
    (path : String) : (make mode fs (some root)).resolve? path = none := by
  by_cases hrefused : Text.isBlankText path = true ∨ Files.isAbsolute path = true
  · exact resolve?_eq_none mode hrefused
  obtain ⟨hfilled, hrelative⟩ := not_or.mp hrefused
  rw [Bool.not_eq_true] at hfilled hrelative
  rw [resolve?_eq mode hfilled hrelative, ManagedRoot.ofPath_of_missing h]
  split
  · rfl
  · rename_i place hfollow
    exact absurd hfollow (ManagedRoot.follow_missing hroot
      (fun folder hfolder => h folder (Files.locate_eq_ok_iff.mpr hfolder)) place)

/-- **The empty path resolves any path that names a file by itself.** -/
theorem resolve?_empty {place : Files.Path} :
    (make mode fs (some "")).resolve? path = some place ↔ fs.Names path place := by
  by_cases hrefused : Text.isBlankText path = true ∨ Files.isAbsolute path = true
  · rw [resolve?_eq_none mode hrefused]
    refine ⟨nofun, fun h => ?_⟩
    rcases hrefused with hblank | habsolute
    · exact absurd (h.filled.symm.trans hblank) (by simp)
    · exact absurd (h.relative.symm.trans habsolute) (by simp)
  obtain ⟨hfilled, hrelative⟩ := not_or.mp hrefused
  rw [Bool.not_eq_true] at hfilled hrelative
  have hnowhere (folder : Files.Path) : fs.locate "" ≠ .ok folder := nofun
  rw [resolve?_eq mode hfilled hrelative, ManagedRoot.ofPath_of_missing hnowhere]
  constructor
  · intro h
    split at h
    · cases h
    · rename_i found hfollow
      split at h
      · rename_i hfile
        obtain rfl := Option.some.inj h
        exact ⟨hfilled, hrelative, ManagedRoot.follow_empty.mp hfollow,
          isSome_bytesAt?_iff.mp (Bool.and_eq_true_iff.mp hfile).2⟩
      · cases h
  · intro h
    rw [ManagedRoot.follow_empty.mpr h.leads]
    exact if_pos (Bool.and_eq_true_iff.mpr ⟨rfl, isSome_bytesAt?_iff.mpr h.file⟩)

/-- **What is resolved below a folder that is not there**: nothing, unless its
path is empty. Then it is what a path names by itself, wherever that is. -/
theorem resolve?_of_not_located (h : ∀ folder, fs.locate root ≠ .ok folder) :
    (root ≠ "" → ∀ path, (make mode fs (some root)).resolve? path = none)
      ∧ (root = "" → ∀ path place,
        (make mode fs (some root)).resolve? path = some place ↔ fs.Names path place) :=
  ⟨fun hroot => resolve?_missing mode hroot h, fun hroot _ _ => hroot ▸ resolve?_empty mode⟩

/-- A file system with a file, and with a link beside it that leads nowhere. -/
def strandedFiles : Files where
  tree := .folder
    [("srv", .folder [("files", .link "gone"), ("secret", .file [4])]), ("work", .folder [])]
  base := ["work"]

/-- Nothing is resolved behind the link, not even what is beside it. -/
theorem resolve?_of_not_located_stranded :
    (∀ folder, strandedFiles.locate "/srv/files" ≠ .ok folder)
      ∧ strandedFiles.Names "../srv/secret" ["srv", "secret"]
      ∧ ∀ path, (make .responses strandedFiles (some "/srv/files")).resolve? path = none := by
  have hlocate : strandedFiles.locate "/srv/files" = .error .notFound := by
    with_unfolding_all rfl
  have hlost (folder : Files.Path) : strandedFiles.locate "/srv/files" ≠ .ok folder := by
    rw [hlocate]
    exact nofun
  refine ⟨hlost, ?_, (resolve?_of_not_located .responses hlost).1 (by decide)⟩
  exact ⟨by decide +kernel, by decide +kernel,
    Files.locate_eq_ok_iff.mp (by with_unfolding_all rfl), [4], by with_unfolding_all rfl⟩

/-- **Below the empty path something is resolved**, though no folder is there. -/
theorem not_resolve?_eq_none_of_not_located :
    ¬ ∀ (mode : Mode) (fs : Files) (root : String), (∀ folder, fs.locate root ≠ .ok folder) →
      ∀ path, (make mode fs (some root)).resolve? path = none := by
  intro h
  have hnone := h .responses strandedFiles "" (fun _ => nofun) "../srv/secret"
  have hsome : (make .responses strandedFiles (some "")).resolve? "../srv/secret"
      = some ["srv", "secret"] := by decide +kernel
  exact absurd (hnone.symm.trans hsome) nofun

end Renderer

end Colloquy
