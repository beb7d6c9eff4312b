/-!
# File trees

A file tree is made of files, folders and symbolic links. A place in it is
named by the components on the way from the top. Nothing here follows
links; that is the business of `Colloquy.Files.Resolve`.
-/

namespace Colloquy.Files

/-- **A node of a file tree.** -/
inductive Node where
  /-- A regular file and its bytes. -/
  | file (bytes : List UInt8)
  /-- A folder and what is in it. -/
  | folder (entries : List (String × Node))
  /-- A symbolic link and what it points to. -/
  | link (target : String)
deriving Inhabited

/-- **A place in a tree**: the components from the top. -/
abbrev Path := List String

namespace Node

/-- The entry of a name, in a list of entries. -/
def child? : List (String × Node) → String → Option Node
  | [], _ => none
  | (n, node) :: rest, name => if n = name then some node else child? rest name

/-- Entries with one set; one of the same name is replaced. -/
def setEntry (name : String) (node : Node) : List (String × Node) → List (String × Node)
  | [] => [(name, node)]
  | (n, old) :: rest =>
    if n = name then (name, node) :: rest else (n, old) :: setEntry name node rest

/-- The node at a place. -/
def at? (node : Node) : Path → Option Node
  | [] => some node
  | c :: cs =>
    match node with
    | .folder entries => (child? entries c).bind fun inner => inner.at? cs
    | _ => none

/-- **A tree with a node put at a place.** The folders on the way there are
made if they are missing. -/
def put (node new : Node) : Path → Node
  | [] => new
  | c :: cs =>
    match node with
    | .folder entries =>
      .folder (setEntry c (((child? entries c).getD (.folder [])).put new cs) entries)
    | other => other

/-- Whether a node is a folder. -/
def isFolder : Node → Bool
  | .folder _ => true
  | _ => false

end Node

/-- **What can go wrong with a file.** -/
inductive Error where
  /-- There is nothing there. -/
  | notFound
  /-- There is something already. -/
  | exists
  /-- Something other than a folder is on the way. -/
  | notAFolder
  /-- A folder is where a file should be. -/
  | isAFolder
  /-- Links lead to links without end. -/
  | tooManyLinks
  /-- A name no file can have. -/
  | badName
  /-- A path of more bytes than are looked at. -/
  | pathTooLong
  /-- The content is no text. -/
  | notText
deriving DecidableEq, Repr

/-- The report of an error. -/
def Error.message : Error → String
  | .notFound => "No such file or directory (os error 2)"
  | .exists => "File exists (os error 17)"
  | .notAFolder => "Not a directory (os error 20)"
  | .isAFolder => "Is a directory (os error 21)"
  | .tooManyLinks => "Too many levels of symbolic links (os error 40)"
  | .badName => "file name contained an unexpected NUL byte"
  | .pathTooLong => "File name too long (os error 36)"
  | .notText => "stream did not contain valid UTF-8"

end Colloquy.Files
