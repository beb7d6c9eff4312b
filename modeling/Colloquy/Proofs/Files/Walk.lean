import Colloquy.Files.Resolve

/-!
# Where paths lead

Where a path leads is a relation between two places of a tree and the
components between them (`Files.Leads`), and it knows nothing of how a path is
walked: of the order in which things are tested, of errors, or of a limit on
the links that are followed – it only counts them. The walk finds a place
exactly if the path leads there behind no more links than may be followed
(`Files.walk_eq_ok_iff`).

What leads somewhere leads somewhere after each of its components, too
(`Leads.exists_leads_of_append`), so that nothing is to be found behind a path
that leads nowhere.
-/

namespace Colloquy.Files

variable {tree : Node}

/-- **A component is a name**, and not one of those that lead nowhere else or
up. -/
structure IsName (c : String) : Prop where
  /-- It is not empty, and no dot. -/
  moves : ¬ (c = "" ∨ c = ".")
  /-- It is not two dots. -/
  down : c ≠ ".."

/-- **Components lead from a place to a place**, with so many links on the
way. Whatever the next component is, it is taken from a folder. -/
inductive Leads (tree : Node) : Nat → Path → List String → Path → Prop
  /-- No component is left. -/
  | here {place : Path} : Leads tree 0 place [] place
  /-- An empty component and a dot lead nowhere else. -/
  | stay {n : Nat} {place place' : Path} {entries : List (String × Node)} {c : String}
      {cs : List String} (folder : tree.at? place = some (.folder entries))
      (stays : c = "" ∨ c = ".") (rest : Leads tree n place cs place') :
      Leads tree n place (c :: cs) place'
  /-- Two dots lead up, and stay at the top. -/
  | up {n : Nat} {place place' : Path} {entries : List (String × Node)} {cs : List String}
      (folder : tree.at? place = some (.folder entries))
      (rest : Leads tree n place.dropLast cs place') : Leads tree n place (".." :: cs) place'
  /-- A name leads to the file or folder that has it. -/
  | down {n : Nat} {place place' : Path} {entries : List (String × Node)} {c : String}
      {cs : List String} {node : Node} (folder : tree.at? place = some (.folder entries))
      (name : IsName c) (child : Node.child? entries c = some node)
      (noLink : ∀ target, node ≠ .link target) (rest : Leads tree n (place ++ [c]) cs place') :
      Leads tree n place (c :: cs) place'
  /-- The name of a link leads where its target does, from the folder the link
  is in. -/
  | link {n : Nat} {place place' : Path} {entries : List (String × Node)} {c target : String}
      {cs : List String} (folder : tree.at? place = some (.folder entries))
      (name : IsName c) (child : Node.child? entries c = some (.link target))
      (rest : Leads tree n (if isAbsolute target then [] else place) (components target ++ cs)
        place') : Leads tree (n + 1) place (c :: cs) place'

/-- **A path leads from a place to a place** of a file system, and not behind
too many links. -/
structure LeadsFrom (fs : Files) (place : Path) (path : String) (place' : Path) : Prop where
  /-- No file could have a name with the character. -/
  sound : '\x00' ∉ path.toList
  /-- Its components lead there. -/
  leads : ∃ n ≤ mostLinks, Leads fs.tree n place (components path) place'

/-- **A path leads to a place**, from where it starts. The empty path leads
nowhere. -/
structure LeadsTo (fs : Files) (path : String) (place : Path) : Prop
    extends fs.LeadsFrom (fs.start path) path place where
  /-- There is a path. -/
  filled : path ≠ ""

/-! ## The walk finds where a path leads -/

/-- How a walk goes on behind a link when so many may be followed. -/
def onward (tree : Node) (create : Bool) : Nat → Path → List String → Except Error Path
  | 0 => fun _ _ => .error .tooManyLinks
  | links + 1 => walk tree create links

theorem walk_eq (tree : Node) (create : Bool) (links : Nat) :
    walk tree create links = walkWith tree create (onward tree create links) := by
  cases links <;> rfl

section Component

variable {follow : Path → List String → Except Error Path} {place : Path}
variable {entries : List (String × Node)} {c : String} (cs : List String)

/-- A walk outside of folders goes nowhere. -/
theorem walkWith_of_no_folder (h : ∀ entries, tree.at? place ≠ some (.folder entries))
    (place' : Path) : walkWith tree false follow place (c :: cs) ≠ .ok place' := by
  rw [walkWith]
  split
  · exact absurd ‹_› (h _)
  · simp
  · simp

theorem walkWith_of_stays (folder : tree.at? place = some (.folder entries))
    (stays : c = "" ∨ c = ".") :
    walkWith tree false follow place (c :: cs) = walkWith tree false follow place cs := by
  rw [walkWith, folder]
  show (if _ then _ else _) = _
  rw [if_pos (by simpa using stays)]

theorem walkWith_up (folder : tree.at? place = some (.folder entries)) :
    walkWith tree false follow place (".." :: cs)
      = walkWith tree false follow place.dropLast cs := by
  rw [walkWith, folder]
  rfl

theorem walkWith_of_name (folder : tree.at? place = some (.folder entries)) (name : IsName c) :
    walkWith tree false follow place (c :: cs)
      = match Node.child? entries c with
        | some (.link target) =>
          follow (if isAbsolute target then [] else place) (components target ++ cs)
        | some _ => walkWith tree false follow (place ++ [c]) cs
        | none => .error .notFound := by
  rw [walkWith, folder]
  show (if _ then _ else if _ then _ else _) = _
  rw [if_neg (by simpa using name.moves), if_neg name.down]
  rfl

end Component

/-- **What is led to is found.** -/
theorem Leads.walk_eq_ok {n : Nat} {place place' : Path} {cs : List String}
    (h : Leads tree n place cs place') {links : Nat} (hn : n ≤ links) :
    walk tree false links place cs = .ok place' := by
  induction h generalizing links with
  | here =>
    rw [walk_eq]
    rfl
  | @stay n place place' entries c cs folder stays rest ih =>
    rw [walk_eq, walkWith_of_stays cs folder stays, ← walk_eq]
    exact ih hn
  | @up n place place' entries cs folder rest ih =>
    rw [walk_eq, walkWith_up cs folder, ← walk_eq]
    exact ih hn
  | @down n place place' entries c cs node folder name child noLink rest ih =>
    rw [walk_eq, walkWith_of_name cs folder name, child, ← walk_eq]
    cases node with
    | file bytes => exact ih hn
    | folder inner => exact ih hn
    | link target => exact absurd rfl (noLink target)
  | @link n place place' entries c target cs folder name child rest ih =>
    -- one link at least may be followed
    obtain ⟨left, rfl⟩ := Nat.exists_eq_add_of_le' hn
    rw [walk_eq, walkWith_of_name cs folder name, child]
    exact ih (Nat.le_add_left n left)

/-- What is found between two links is led to, if what is found behind a link
is. -/
theorem exists_leads_of_walkWith {links : Nat} {place place' : Path} {cs : List String}
    (honward : ∀ place cs, onward tree false links place cs = .ok place' →
      ∃ n, n + 1 ≤ links ∧ Leads tree n place cs place')
    (h : walkWith tree false (onward tree false links) place cs = .ok place') :
    ∃ n ≤ links, Leads tree n place cs place' := by
  induction cs generalizing place with
  | nil =>
    cases h
    exact ⟨0, Nat.zero_le _, .here⟩
  | cons c cs ih =>
    by_cases hfolder : ∃ entries, tree.at? place = some (.folder entries)
    · obtain ⟨entries, folder⟩ := hfolder
      by_cases stays : c = "" ∨ c = "."
      · rw [walkWith_of_stays cs folder stays] at h
        obtain ⟨n, hn, rest⟩ := ih h
        exact ⟨n, hn, .stay folder stays rest⟩
      by_cases hup : c = ".."
      · rw [hup, walkWith_up cs folder] at h
        obtain ⟨n, hn, rest⟩ := ih h
        exact ⟨n, hn, hup ▸ .up folder rest⟩
      · have name : IsName c := ⟨stays, hup⟩
        rw [walkWith_of_name cs folder name] at h
        split at h
        · rename_i target child
          obtain ⟨n, hn, rest⟩ := honward _ _ h
          exact ⟨n + 1, hn, .link folder name child rest⟩
        · rename_i node noLink child
          obtain ⟨n, hn, rest⟩ := ih h
          exact ⟨n, hn, .down folder name child (fun target heq => noLink target heq) rest⟩
        · cases h
    · have hno (entries : List (String × Node)) : tree.at? place ≠ some (.folder entries) :=
        fun folder => hfolder ⟨entries, folder⟩
      exact absurd h (walkWith_of_no_folder cs hno place')

/-- **What is found is led to.** -/
theorem exists_leads_of_walk {links : Nat} {place place' : Path} {cs : List String}
    (h : walk tree false links place cs = .ok place') :
    ∃ n ≤ links, Leads tree n place cs place' := by
  induction links generalizing place cs with
  | zero =>
    rw [walk_eq] at h
    -- behind no link anything is found
    exact exists_leads_of_walkWith (fun _ _ hmore => nomatch hmore) h
  | succ links ih =>
    rw [walk_eq] at h
    refine exists_leads_of_walkWith (fun place cs hmore => ?_) h
    obtain ⟨n, hn, rest⟩ := ih hmore
    exact ⟨n, Nat.succ_le_succ hn, rest⟩

/-- **A walk finds a place exactly if it is led to**, behind no more links than
may be followed. -/
theorem walk_eq_ok_iff {links : Nat} {place place' : Path} {cs : List String} :
    walk tree false links place cs = .ok place'
      ↔ ∃ n ≤ links, Leads tree n place cs place' :=
  ⟨exists_leads_of_walk, fun ⟨_, hn, h⟩ => h.walk_eq_ok hn⟩

/-- **Components lead to one place only.** -/
theorem Leads.unique {n n' : Nat} {place place₁ place₂ : Path} {cs : List String}
    (h : Leads tree n place cs place₁) (h' : Leads tree n' place cs place₂) : place₁ = place₂ := by
  have hfound := h.walk_eq_ok (Nat.le_max_left n n')
  rw [h'.walk_eq_ok (Nat.le_max_right n n')] at hfound
  exact (Except.ok.inj hfound).symm

theorem LeadsFrom.unique {fs : Files} {place place₁ place₂ : Path} {path : String}
    (h : fs.LeadsFrom place path place₁) (h' : fs.LeadsFrom place path place₂) :
    place₁ = place₂ := by
  obtain ⟨n, -, hleads⟩ := h.leads
  obtain ⟨n', -, hleads'⟩ := h'.leads
  exact hleads.unique hleads'

/-- **A path is located exactly where it leads.** -/
theorem locate_eq_ok_iff {fs : Files} {path : String} {place : Path} :
    fs.locate path = .ok place ↔ fs.LeadsTo path place := by
  unfold locate follow
  constructor
  · intro h
    split at h
    · cases h
    · rename_i hempty
      split at h
      · cases h
      · rename_i hsound
        exact ⟨⟨by simpa using hsound, walk_eq_ok_iff.mp h⟩, by simpa using hempty⟩
  · intro h
    rw [if_neg (by simpa using h.filled), if_neg (by simpa using h.sound)]
    exact walk_eq_ok_iff.mpr h.leads

/-! ## Paths behind paths -/

/-- **What leads somewhere leads somewhere on the way**, after any of its
components. -/
theorem Leads.exists_leads_of_append {n : Nat} {place place' : Path} {cs cs' : List String}
    (h : Leads tree n place (cs ++ cs') place') :
    ∃ m ≤ n, ∃ between, Leads tree m place cs between := by
  generalize hall : cs ++ cs' = all at h
  induction h generalizing cs with
  | here =>
    obtain ⟨rfl, -⟩ := List.append_eq_nil_iff.mp hall
    exact ⟨0, Nat.le_refl _, _, .here⟩
  | stay folder stays rest ih =>
    rcases List.append_eq_cons_iff.mp hall with ⟨rfl, -⟩ | ⟨cs, rfl, htail⟩
    · exact ⟨0, Nat.zero_le _, _, .here⟩
    · obtain ⟨m, hm, between, hrest⟩ := ih htail.symm
      exact ⟨m, hm, between, .stay folder stays hrest⟩
  | up folder rest ih =>
    rcases List.append_eq_cons_iff.mp hall with ⟨rfl, -⟩ | ⟨cs, rfl, htail⟩
    · exact ⟨0, Nat.zero_le _, _, .here⟩
    · obtain ⟨m, hm, between, hrest⟩ := ih htail.symm
      exact ⟨m, hm, between, .up folder hrest⟩
  | down folder name child noLink rest ih =>
    rcases List.append_eq_cons_iff.mp hall with ⟨rfl, -⟩ | ⟨cs, rfl, htail⟩
    · exact ⟨0, Nat.zero_le _, _, .here⟩
    · obtain ⟨m, hm, between, hrest⟩ := ih htail.symm
      exact ⟨m, hm, between, .down folder name child noLink hrest⟩
  | @link n place place' entries c target cs₀ folder name child rest ih =>
    rcases List.append_eq_cons_iff.mp hall with ⟨rfl, -⟩ | ⟨cs, rfl, rfl⟩
    · exact ⟨0, Nat.zero_le _, _, .here⟩
    · -- the components behind the link come after those of its target
      obtain ⟨m, hm, between, hrest⟩ := ih (List.append_assoc (components target) cs cs')
      exact ⟨m + 1, Nat.succ_le_succ hm, between, .link folder name child hrest⟩

theorem splitSlashes_ne_nil (s : List Char) : splitSlashes s ≠ [] := by
  cases s with
  | nil => simp [splitSlashes]
  | cons c cs =>
    unfold splitSlashes
    split
    · simp
    · split <;> simp

/-- A slash lies between components. -/
theorem splitSlashes_append (s s' : List Char) :
    splitSlashes (s ++ '/' :: s') = splitSlashes s ++ splitSlashes s' := by
  induction s with
  | nil => rfl
  | cons c cs ih =>
    rw [List.cons_append, splitSlashes, splitSlashes, ih]
    split
    · rfl
    · obtain ⟨p, ps, hp⟩ := List.exists_cons_of_ne_nil (splitSlashes_ne_nil cs)
      rw [hp]
      rfl

/-- **The components of a path behind another one** come after those. -/
theorem components_append (path path' : String) :
    components (path ++ "/" ++ path') = components path ++ components path' := by
  unfold components
  rw [String.toList_append, String.toList_append, List.append_assoc, ← List.map_append]
  exact congrArg _ (splitSlashes_append path.toList path'.toList)

/-- A path behind another one starts where that does. -/
theorem start_append (fs : Files) {path : String} (h : path ≠ "") (path' : String) :
    fs.start (path ++ "/" ++ path') = fs.start path := by
  obtain ⟨c, cs, hcs⟩ := List.exists_cons_of_ne_nil (show path.toList ≠ [] by simpa using h)
  have habsolute : isAbsolute (path ++ "/" ++ path') = isAbsolute path := by
    unfold isAbsolute
    rw [String.toList_append, String.toList_append, hcs]
    rfl
  unfold start
  rw [habsolute]

/-- **Nothing is to be found behind a path that leads nowhere.** -/
theorem LeadsTo.exists_leadsTo_of_append {fs : Files} {path path' : String} {place : Path}
    (hfilled : path ≠ "") (h : fs.LeadsTo (path ++ "/" ++ path') place) :
    ∃ between, fs.LeadsTo path between := by
  obtain ⟨n, hn, hleads⟩ := h.leads
  rw [components_append, start_append fs hfilled] at hleads
  obtain ⟨m, hm, between, hbetween⟩ := hleads.exists_leads_of_append
  refine ⟨between, ⟨fun hmem => h.sound ?_, m, Nat.le_trans hm hn, hbetween⟩, hfilled⟩
  rw [String.toList_append, String.toList_append]
  exact List.mem_append.mpr (.inl (List.mem_append.mpr (.inl hmem)))

end Colloquy.Files
