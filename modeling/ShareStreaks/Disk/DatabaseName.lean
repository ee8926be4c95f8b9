import ShareStreaks.Disk.FileTree

/-!
# Names of databases

A database is named by a path, but not every name is one.  `:memory:` names a new database that is in no
file.  A name that begins with `file:` is an address: a path, which may have a host before it, then
settings behind a question mark, and behind a number sign a part that does not count.  In the path and
the settings a percent sign and two hexadecimal digits stand for a byte; after the byte zero the rest of
the path, of the name of a setting or of its value is left out.

`readDatabaseName` says what a name stands for.  Databases are only read, and a setting that asks for more
is refused, unless an earlier one has already left the files of the disk for the memory.  Other settings
say how the file is locked while it is read, and with that what becomes of the files beside it.
-/

set_option autoImplicit false

namespace ShareStreaks

/-- What is done about the index of a log. -/
inductive IndexUse where
  /-- It is made anew. -/
  | made
  /-- It has to be there, and is left as it is. -/
  | found
  /-- It is kept in memory. -/
  | inMemory
deriving DecidableEq

/-- How the file of a database is read. -/
inductive Access where
  /-- With locks on the file itself. -/
  | locked (index : IndexUse)
  /-- With a lock that is a file of its own. -/
  | lockFile
  /-- Without any lock. -/
  | unlocked
  /-- As a file that nobody changes. -/
  | unchanging
deriving DecidableEq

/-- What the name of a database stands for. -/
inductive DatabaseSource where
  /-- A new database. -/
  | fresh
  | file (path : Path) (access : Access)
deriving DecidableEq

/-- Why a name stands for no database. -/
inductive NameFault where
  | foreignHost (host : String)
  | unknownMode (setting mode : String)
  | refusedMode (mode : String)
  | unknownSystem (name : String)
  /-- There is no file of this name. -/
  | noFile (name : String)
  | aDirectory
deriving DecidableEq

/-- The fault from the outside in. -/
def NameFault.messages : NameFault → List String
  | .foreignHost host => failing ("invalid uri authority: " ++ host)
  | .unknownMode setting mode => failing ("no such " ++ setting ++ " mode: " ++ mode)
  | .refusedMode mode => ["access mode not allowed: " ++ mode, "Error code 3: Access permission denied"]
  | .unknownSystem name => failing ("no such vfs: " ++ name)
  | .noFile name =>
    ["unable to open database file: " ++ name, "Error code 14: Unable to open the database file"]
  | .aDirectory => ["disk I/O error", "Error code 10: Some kind of disk I/O error occurred"]
where
  failing (what : String) : List String := [what, "Error code 1: SQL error or missing database"]

namespace DatabaseName

/-! ## Bytes behind percent signs -/

def hexValue? (c : Char) : Option Nat :=
  if c.isDigit then some (c.toNat - '0'.toNat)
  else if 'a' ≤ c.toLower ∧ c.toLower ≤ 'f' then some (c.toLower.toNat - 'a'.toNat + 10)
  else none

/-- The bytes that characters stand for, up to a zero behind a percent sign. -/
def decodedBytes : List Char → List UInt8
  | '%' :: a :: b :: cs =>
    match hexValue? a, hexValue? b with
    | some x, some y => if x = 0 ∧ y = 0 then [] else (16 * x + y).toUInt8 :: decodedBytes cs
    | _, _ => '%'.toUInt8 :: decodedBytes (a :: b :: cs)
  | c :: cs => (String.singleton c).toUTF8.toList ++ decodedBytes cs
  | [] => []

/-- The text of one to four bytes at the front, if they are one, and the rest. -/
def frontText? (bytes : List UInt8) : Option (String × List UInt8) :=
  [1, 2, 3, 4].findSome? fun n =>
    (String.fromUTF8? ⟨(bytes.take n).toArray⟩).map fun s => (s, bytes.drop n)

/-- The text that bytes stand for; a byte that begins no character is replaced by a sign for that.
At most `steps` characters are read. -/
def textOfBytes : Nat → List UInt8 → String
  | 0, _ | _, [] => ""
  | steps + 1, b :: bytes =>
    match frontText? (b :: bytes) with
    | some (s, rest) => s ++ textOfBytes steps rest
    | none => "\uFFFD" ++ textOfBytes steps bytes

/-- The text that characters stand for. -/
def decoded (cs : List Char) : String :=
  let bytes := decodedBytes cs
  textOfBytes bytes.length bytes

/-! ## Addresses -/

/-- The text up to a character, and what follows it. -/
def splitAt (mark : Char) (cs : List Char) : List Char × List Char :=
  (cs.takeWhile (· != mark), (cs.dropWhile (· != mark)).drop 1)

/-- The parts between the marks of a kind, of at most `steps` of them. -/
def partsAt (mark : Char) : Nat → List Char → List (List Char)
  | 0, _ | _, [] => []
  | steps + 1, cs => let (part, rest) := splitAt mark cs; part :: partsAt mark steps rest

/-- The settings of an address; one without a name does not count. -/
def settingsOf (cs : List Char) : List (String × String) :=
  ((partsAt '&' (cs.length + 1) cs).map fun part =>
    let (name, value) := splitAt '=' part
    (decoded name, decoded value)).filter fun setting => !setting.1.isEmpty

/-- An address without its host and without the part that does not count. -/
structure Address where
  path : String
  settings : List (String × String)

/-- Reads an address behind its first word. -/
def readAddress (cs : List Char) : Except NameFault Address :=
  let parts (cs : List Char) : Address :=
    let (path, settings) := splitAt '?' (cs.takeWhile (· != '#'))
    ⟨decoded path, settingsOf settings⟩
  match cs with
  | '/' :: '/' :: rest =>
    let host := String.ofList (rest.takeWhile (· != '/'))
    if host.isEmpty || host == "localhost" then .ok (parts (rest.dropWhile (· != '/')))
    else .error (.foreignHost host)
  | _ => .ok (parts cs)

/-! ## Settings -/

/-- How a database is opened. -/
structure Opening where
  /-- The greatest mode that can still be asked for. -/
  limit : Nat := 1
  inMemory : Bool := false
  system : Option String := none

/-- A setting changes how a database is opened, or is refused. -/
def Opening.set (o : Opening) : String × String → Except NameFault Opening
  | ("vfs", name) => .ok { o with system := some name }
  | ("cache", mode) =>
    if mode = "shared" ∨ mode = "private" then .ok o else .error (.unknownMode "cache" mode)
  | ("mode", mode) =>
    let given := ([("ro", 1), ("rw", 2), ("rwc", 6), ("memory", 0)] : List (String × Nat)).lookup mode
    match given with
    | none => .error (.unknownMode "access" mode)
    | some 0 => .ok { o with limit := 128, inMemory := true }
    | some n =>
      if o.limit < n then .error (.refusedMode mode)
      else .ok { o with limit := n, inMemory := false }
  | _ => .ok o

/-- The systems of files on the disk. -/
def systems : List String := ["unix", "unix-none", "unix-dotfile", "unix-excl"]

/-- The number at the front of a setting, which may be hexadecimal. -/
def settingNumber (cs : List Char) : Nat :=
  let hexadecimal (cs : List Char) : Nat :=
    ((cs.map hexValue?).takeWhile Option.isSome).foldl (fun n d => 16 * n + d.getD 0) 0
  match cs with
  | '0' :: 'x' :: cs | '0' :: 'X' :: cs => hexadecimal cs
  | cs => ofDigits (cs.takeWhile Char.isDigit)

/-- A setting that is on or off is on.  Of a number, which has to fit 31 bits, the last eight count. -/
def settingIsOn (value : String) : Bool :=
  let n := settingNumber value.toList
  if (value.toList.head?.map Char.isDigit).getD false then n < 2 ^ 31 && n % 256 != 0
  else ["on", "yes", "true"].contains (String.ofList (value.toList.map Char.toLower))

/-- How the file of an address is read in one of the systems. -/
def Address.access (a : Address) (system : String) : Access :=
  let isOn (name : String) : Bool := ((a.settings.lookup name).map settingIsOn).getD false
  if isOn "immutable" then .unchanging
  else if isOn "nolock" || system == "unix-none" then .unlocked
  else if system == "unix-dotfile" then .lockFile
  else if isOn "readonly_shm" then .locked (if system == "unix-excl" then .inMemory else .found)
  else .locked .made

/-- What an address stands for. -/
def Address.source (a : Address) : Except NameFault DatabaseSource := do
  let o ← a.settings.foldlM Opening.set {}
  let file (system : String) : DatabaseSource :=
    if o.inMemory || a.path.isEmpty || a.path == ":memory:" then .fresh
    else .file ⟨a.path⟩ (a.access system)
  match o.system with
  | none => return file "unix"
  | some name =>
    if systems.contains name then return file name
    else if name = "memdb" then return .fresh
    else throw (.unknownSystem name)

end DatabaseName

open DatabaseName in
/-- What the name of a database stands for. -/
def readDatabaseName (name : String) : Except NameFault DatabaseSource :=
  match name.toList with
  | 'f' :: 'i' :: 'l' :: 'e' :: ':' :: cs => (readAddress cs).bind Address.source
  | _ => .ok (if name = ":memory:" then .fresh else .file ⟨name⟩ (.locked .made))

/-! ## Opening -/

namespace FileTree

/-- The place that a path names, whatever is on the way. -/
def namedPlace (t : FileTree) (p : Path) : Place := p.segments.foldl step (t.start p)

/-- The place of a file that stands beside the one at a place and belongs to it. -/
def beside (place : Place) (suffix : String) : Place :=
  place.dropLast ++ (place.getLast?.map (· ++ suffix)).toList

/-- The most bytes that the full name of a database can have. -/
def longestName : Nat := 504

/-- How many bytes the full name of a place has. -/
def nameLength (place : Place) : Nat :=
  (String.join (place.map fun name => "/" ++ name)).utf8ByteSize

/-- The place of the file that a database is in, and how it is read there; a new one is in none. -/
def databasePlace (t : FileTree) (name : String) : Except NameFault (Option (Place × Access)) := do
  match ← readDatabaseName name with
  | .fresh => return none
  | .file path access =>
    let place := t.namedPlace path
    if place.isEmpty || longestName < nameLength place then throw (.noFile name)
    match t.at? place with
    | none => throw (.noFile name)
    | some .directory => throw .aDirectory
    | some (.file _) => return some (place, access)

end FileTree
end ShareStreaks
