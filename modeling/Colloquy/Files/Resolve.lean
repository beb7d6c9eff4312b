import Colloquy.Files.Tree

/-!
# Finding files

A path is a text of components with slashes between them. It is followed
component by component: an empty one or a dot stays where it is, two dots
go up, a name goes down. Whatever a component is, one must stand in a
folder to take it, so a slash behind the name of a file leads nowhere. A
link is followed before the next component is taken; more than forty links
on one way are too many. To read or write, a path is looked up as a whole,
and then its length is limited as well.

`Files.walk` is the walk, and its result is the place the path leads to,
which has no links on its way. The other functions start walks and read or
write where they end.
-/

namespace Colloquy

/-- **A file system** as a program finds it: the tree, the folder in which
relative paths start, and the path of the person's home folder. -/
structure Files where
  /-- The tree. -/
  tree : Files.Node := .folder []
  /-- Where relative paths start. -/
  base : Files.Path := []
  /-- The home folder. -/
  home : String := "/"
deriving Inhabited

namespace Files

/-- **The components of a path**, empty ones included. -/
def splitSlashes : List Char → List (List Char)
  | [] => [[]]
  | c :: cs =>
    if c = '/' then [] :: splitSlashes cs
    else
      match splitSlashes cs with
      | [] => [[c]]
      | p :: ps => (c :: p) :: ps

/-- The components of a path, as strings. -/
def components (path : String) : List String :=
  (splitSlashes path.toList).map String.ofList

/-- Whether a path starts at the top. -/
def isAbsolute (path : String) : Bool :=
  path.toList.head? == some '/'

/-- **A walk** from a place along components, with a given way to go on
behind a link. When something may be created, the last component need not
be there. -/
def walkWith (tree : Node) (create : Bool) (follow : Path → List String → Except Error Path) :
    Path → List String → Except Error Path
  | place, [] => .ok place
  | place, c :: cs =>
    match tree.at? place with
    | some (.folder entries) =>
      if c = "" || c = "." then walkWith tree create follow place cs
      else if c = ".." then walkWith tree create follow place.dropLast cs
      else
        match Node.child? entries c with
        | some (.link target) =>
          follow (if isAbsolute target then [] else place) (components target ++ cs)
        | some _ => walkWith tree create follow (place ++ [c]) cs
        | none => if create && cs.isEmpty then .ok (place ++ [c]) else .error .notFound
    | some _ => .error .notAFolder
    | none => .error .notFound

/-- **A walk on which so many links may be followed.** -/
def walk (tree : Node) (create : Bool) : Nat → Path → List String → Except Error Path
  | 0 => walkWith tree create fun _ _ => .error .tooManyLinks
  | links + 1 => walkWith tree create (walk tree create links)

/-- How many links may be followed on one way. -/
def mostLinks : Nat := 40

/-- Where a path starts. -/
def start (fs : Files) (path : String) : Path :=
  if isAbsolute path then [] else fs.base

/-- Where a path leads, whether or not its last component is there. -/
def follow (fs : Files) (create : Bool) (path : String) : Except Error Path :=
  if path.isEmpty then .error .notFound
  else if path.toList.contains '\x00' then .error .badName
  else walk fs.tree create mostLinks (fs.start path) (components path)

/-- **The place a path leads to**, sought one component after the other, so
that a path may be of any length. -/
def locate (fs : Files) (path : String) : Except Error Path :=
  fs.follow false path

/-- How many bytes a path may have that is looked up as a whole. -/
def mostBytes : Nat := 4095

/-- Where a path leads that is looked up as a whole, as it is to read or
write what is there. -/
def destination (fs : Files) (create : Bool) (path : String) : Except Error Path :=
  if mostBytes < path.utf8ByteSize then .error .pathTooLong else fs.follow create path

/-- What a path leads to. -/
def find? (fs : Files) (path : String) : Option Node :=
  match fs.destination false path with
  | .ok place => fs.tree.at? place
  | .error _ => none

/-- Whether a path leads to anything. -/
def has (fs : Files) (path : String) : Bool :=
  (fs.find? path).isSome

/-- Whether a path leads to a regular file. -/
def hasFile (fs : Files) (path : String) : Bool :=
  match fs.find? path with
  | some (.file _) => true
  | _ => false

/-- Whether a path leads to a folder. -/
def hasFolder (fs : Files) (path : String) : Bool :=
  (fs.find? path).any Node.isFolder

/-- The bytes of the file at a place. -/
def bytesAt? (fs : Files) (place : Path) : Option (List UInt8) :=
  match fs.tree.at? place with
  | some (.file bytes) => some bytes
  | _ => none

/-- **Reading a file.** -/
def read (fs : Files) (path : String) : Except Error (List UInt8) := do
  match fs.tree.at? (← fs.destination false path) with
  | some (.file bytes) => .ok bytes
  | some (.folder _) => .error .isAFolder
  | _ => .error .notFound

/-- The text that bytes are in UTF-8. -/
def decode? (bytes : List UInt8) : Option String :=
  String.fromUTF8? ⟨bytes.toArray⟩

/-- The bytes of a text in UTF-8. -/
def encode (s : String) : List UInt8 :=
  s.toUTF8.toList

/-- **Reading a text file.** -/
def readText (fs : Files) (path : String) : Except Error String := do
  match decode? (← fs.read path) with
  | some s => .ok s
  | none => .error .notText

/-- A file system with a node put at a place. -/
def put (fs : Files) (place : Path) (node : Node) : Files :=
  { fs with tree := fs.tree.put node place }

/-- **Writing a file**, which is made if it is not there. -/
def write (fs : Files) (path : String) (bytes : List UInt8) : Except Error Files := do
  let place ← fs.destination true path
  if (fs.tree.at? place).any Node.isFolder then .error .isAFolder
  else .ok (fs.put place (.file bytes))

/-- The path of some components. -/
def joined (cs : List String) : String :=
  "/".intercalate cs

/-- **Making a folder or a link** where there is nothing yet: the
components of its path, the last one first. -/
def make (fs : Files) (node : Node) : List String → Except Error Files
  | [] => .error .exists
  | c :: above => do
    let place ←
      if above.isEmpty then .ok fs.base
      else if above = [""] then .ok []
      else fs.destination false (joined above.reverse)
    match fs.tree.at? place with
    | some (.folder entries) =>
      if (Node.child? entries c).isSome then .error .exists
      else .ok (fs.put (place ++ [c]) node)
    | _ => .error .notAFolder

/-- **Making a folder and all that are missing above it**: the components
of its path, the last one first. -/
def makeFolders (fs : Files) : List String → Except Error Files
  | [] => .ok fs
  | c :: above =>
    match fs.make (.folder []) (c :: above) with
    | .ok made => .ok made
    | .error .notFound => do
      let raised ← makeFolders fs above
      raised.make (.folder []) (c :: above)
    | .error e => if fs.hasFolder (joined (c :: above).reverse) then .ok fs else .error e

/-- The components of a path, the last one first. -/
def backwards (path : String) : List String :=
  (components path).reverse

/-- **Writing a file and making the folders above it.** -/
def writeDeep (fs : Files) (path : String) (bytes : List UInt8) : Except Error Files := do
  let raised ← fs.makeFolders ((backwards path).drop 1)
  raised.write path bytes

/-- **A path with the home folder in the place of its tilde.** An absolute
path behind the tilde is left alone. -/
def expandHome (fs : Files) (path : String) : String :=
  match path.toList with
  | ['~'] => fs.home
  | '~' :: '/' :: rest =>
    if rest.head? == some '/' then String.ofList rest
    else fs.home ++ "/" ++ String.ofList rest
  | _ => path

end Files

end Colloquy
