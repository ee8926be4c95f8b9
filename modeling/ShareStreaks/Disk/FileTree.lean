import ShareStreaks.Disk.Path
import ShareStreaks.Tables.Basic

/-!
# File trees

A `FileTree` is the part of a disk that a run can see.  A place in it is the list of names that lead
there from the root, and what is at a place is a directory or a file.  A file holds a text or bytes, or
it is a database that is known by its tables.
`FileTree.put` and `FileTree.remove` change what is at one place and nothing else.

Paths that do not begin with a slash start from the working directory.  Following a path, every place
that the path goes on from has to be a directory; the place it ends at may be empty.  A name can have
255 bytes and a path 4095, and the character zero can be in neither.

`makeDirectories` makes a directory and whatever is missing above it.  It first tries the path as it
stands, and only if something above is missing goes to the parent.  Directories made before a fault
stay.
-/

set_option autoImplicit false

namespace ShareStreaks

/-- The names that lead to a place from the root. -/
abbrev Place := List String

-- Bytes are compared as the core library compares them.
attribute [local instance (20000)] ByteArray.instDecidableEq

inductive Content where
  | text (s : String)
  | bytes (b : ByteArray)
  | tables (db : Tables)
deriving DecidableEq

inductive Node where
  | directory
  | file (content : Content)
deriving DecidableEq

/-- What is on the disk, and the working directory. -/
structure FileTree where
  entries : List (Place × Node)
  here : Place
deriving DecidableEq

/-- Why a path cannot be used. -/
inductive FileFault where
  | missing
  | taken
  | notADirectory
  | aDirectory
  | tooLong
  | holdsZero
deriving DecidableEq

def FileFault.message : FileFault → String
  | .missing => "No such file or directory (os error 2)"
  | .taken => "File exists (os error 17)"
  | .notADirectory => "Not a directory (os error 20)"
  | .aDirectory => "Is a directory (os error 21)"
  | .tooLong => "File name too long (os error 36)"
  | .holdsZero => "file name contained an unexpected NUL byte"

/-- Sets what is at a place. -/
def putEntry (place : Place) (node : Node) : List (Place × Node) → List (Place × Node)
  | [] => [(place, node)]
  | (p, n) :: rest => if p = place then (place, node) :: rest else (p, n) :: putEntry place node rest

namespace FileTree

/-- A disk with nothing on it but the working directory and what is above it. -/
def empty (here : Place) : FileTree :=
  ⟨(List.range here.length).map fun n => (here.take (n + 1), .directory), here⟩

/-- What is at a place; the root is always a directory. -/
def at? (t : FileTree) (place : Place) : Option Node :=
  if place = [] then some .directory else t.entries.lookup place

def put (t : FileTree) (place : Place) (node : Node) : FileTree :=
  { t with entries := putEntry place node t.entries }

/-- Takes away what is at a place. -/
def remove (t : FileTree) (place : Place) : FileTree :=
  { t with entries := t.entries.filter fun e => e.1 != place }

/-! ## Following paths -/

/-- One step from a directory. -/
def step (place : Place) (name : String) : Place :=
  if name = "." then place else if name = ".." then place.dropLast else place ++ [name]

/-- The place that names lead to. -/
def walk (t : FileTree) (place : Place) : List String → Except FileFault Place
  | [] => .ok place
  | name :: names =>
    match t.at? place with
    | none => .error .missing
    | some (.file _) => .error .notADirectory
    | some .directory =>
      if 255 < name.utf8ByteSize then .error .tooLong else walk t (step place name) names

/-- The places that names lead through, without a look at what is there. -/
def placesOn (place : Place) : List String → List Place
  | [] => []
  | name :: names => step place name :: placesOn (step place name) names

/-- Where a path starts. -/
def start (t : FileTree) (p : Path) : Place := if p.isAbsolute then [] else t.here

/-- What is wrong with a path, whatever is on the disk. -/
def pathFault? (p : Path) : Option FileFault :=
  if p.text.toList.contains '\x00' then some .holdsZero
  else if 4095 < p.text.utf8ByteSize then some .tooLong
  else none

/-- The place that a path leads to. -/
def follow (t : FileTree) (p : Path) : Except FileFault Place :=
  match pathFault? p with
  | some fault => .error fault
  | none => t.walk (t.start p) p.segments

/-- What a path leads to, if it leads to anything.  Only a directory can have a slash after it. -/
def find? (t : FileTree) (p : Path) : Option Node :=
  match t.follow p with
  | .error _ => none
  | .ok place =>
    match t.at? place with
    | some (.file c) => if p.endsInSlash then none else some (.file c)
    | node => if p.text.isEmpty then none else node

def isFile (t : FileTree) (p : Path) : Bool :=
  match t.find? p with
  | some (.file _) => true
  | _ => false

/-! ## Making directories -/

/-- Makes the one directory that names lead to. -/
def makeDirectory (t : FileTree) (start : Place) (names : List String) : Except FileFault FileTree :=
  match t.walk start names with
  | .error fault => .error fault
  | .ok place =>
    match t.at? place with
    | some _ => .error .taken
    | none => .ok (t.put place .directory)

/-- The names lead to a directory. -/
def leadsToDirectory (t : FileTree) (start : Place) (names : List String) : Bool :=
  match t.walk start names with
  | .error _ => false
  | .ok place => t.at? place == some .directory

/-- Makes the directory that names lead to, unless it is there. -/
def ensureDirectory (t : FileTree) (start : Place) (names : List String) :
    FileTree × Option FileFault :=
  match t.makeDirectory start names with
  | .ok t => (t, none)
  | .error fault => if t.leadsToDirectory start names then (t, none) else (t, some fault)

/-- Makes the directory that names lead to, after making what `parents` makes if something above it
is missing. -/
def ensureBelow (t : FileTree) (start : Place) (names : List String)
    (parents : FileTree → FileTree × Option FileFault) : FileTree × Option FileFault :=
  match t.ensureDirectory start names with
  | (t, some .missing) =>
    match parents t with
    | (t, none) => t.ensureDirectory start names
    | failed => failed
  | done => done

/-- Makes the directory at the end of the components, given from the last one, and those above. -/
def ensureAll (start : Place) : List String → FileTree → FileTree × Option FileFault
  | [], t => (t, none)
  | name :: above, t => t.ensureBelow start (name :: above).reverse (ensureAll start above)

/-- Makes the directory at a path and every directory above it that is missing. -/
def makeDirectories (t : FileTree) (p : Path) : FileTree × Option FileFault :=
  if p.text.isEmpty then (t, none)
  else if let some fault := pathFault? p then (t, some fault)
  else t.ensureBelow (t.start p) p.segments (ensureAll (t.start p) p.components.reverse.tail)

/-! ## Writing files -/

/-- Puts a text into the file at a path, in place of what was in it. -/
def write (t : FileTree) (p : Path) (text : String) : Except FileFault FileTree :=
  match t.follow p with
  | .error fault => .error fault
  | .ok place =>
    if t.at? place = some .directory || p.endsInSlash then .error .aDirectory
    else .ok (t.put place (.file (.text text)))

/-! ## Listing -/

/-- The path of a place below the working directory, from there. -/
def relative? (t : FileTree) (place : Place) : Option String :=
  if t.here.isPrefixOf place && t.here.length < place.length then
    some ("/".intercalate (place.drop t.here.length))
  else none

/-- Everything below the working directory by its path, directories with a slash after it and without
content, in the order of the paths. -/
def listing (t : FileTree) : List (String × Option Content) :=
  let shown := t.entries.filterMap fun (place, node) =>
    (t.relative? place).map fun path =>
      match node with
      | .directory => (path ++ "/", none)
      | .file c => (path, some c)
  shown.mergeSort fun a b => decide (a.1 ≤ b.1)

end FileTree
end ShareStreaks
