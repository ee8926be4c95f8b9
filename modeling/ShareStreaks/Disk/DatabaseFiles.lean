import ShareStreaks.Disk.DatabaseName
import ShareStreaks.Disk.Log
import ShareStreaks.Tables.SchemaFault

/-!
# Files beside a database

Up to three files can stand beside the file of a database, under its name with something behind it.  The
*journal* is the record of a change that was broken off, the *log* holds what was written last, and the
*index* belongs to the log.

A change that was broken off would have to be taken back, so that a database with such a journal cannot be
read.  A log is read wherever there is one, or if the database says that it keeps one; for that a missing
log is begun and the index is made anew, though the database is only read.  A database without content has
no use for either: a log beside it is what another database has left, and is removed, and so is a journal
if nothing is locked.  Where a lock is a file of its own, one that is there is somebody else's.

`FileTree.openBeside` does all this at one place, and gives the log with which the database is to be read.
-/

set_option autoImplicit false

namespace ShareStreaks

-- Bytes are compared as the core library compares them.
attribute [local instance (20000)] ByteArray.instDecidableEq

/-! ## What a file says -/

namespace Content

/-- The bytes of a file; tables have none. -/
def toBytes : Content → ByteArray
  | .text s => s.toUTF8
  | .bytes b => b
  | .tables _ => .empty

def isEmpty : Content → Bool
  | .text s => s.isEmpty
  | .bytes b => b.size == 0
  | .tables _ => false

/-- The file is too short to be a database with content. -/
def isBlank : Content → Bool
  | .text s => s.utf8ByteSize ≤ 1
  | .bytes b => b.size ≤ 1
  | .tables _ => false

/-- The file begins with a byte that is not zero. -/
def isMarked : Content → Bool
  | .tables _ => true
  | c => c.toBytes[0]?.any (· != 0)

/-- The file is a database that keeps a log. -/
def keepsLog (c : Content) : Bool :=
  (c.toBytes.extract 0 16).toList == Image.signature && byteAt c.toBytes 19 == 2

end Content

/-! ## Opening -/

namespace FileTree

variable (t : FileTree) (place : Place)

/-- The place of the journal of a database. -/
def journalOf : Place := beside place "-journal"

/-- The place of the log of a database. -/
def logOf : Place := beside place "-wal"

/-- The place of the index of the log. -/
def indexOf : Place := beside place "-shm"

/-- Something is at a place that is more than an empty file. -/
def isFilled : Bool :=
  match t.at? place with
  | some .directory => true
  | some (.file c) => !c.isEmpty
  | none => false

/-- The name of a place is longer than names can be. -/
def isTooLong : Bool := (place.getLast?.map String.utf8ByteSize).getD 0 > 255

/-- Looks for a journal of the database `c` at a place. -/
def openJournal (access : Access) (c : Content) : FileTree × Option SchemaFault :=
  match t.at? (journalOf place) with
  | none => (t, none)
  | some .directory => (t, if c.isBlank then none else some .besideUnreadable)
  | some (.file j) =>
    if c.isBlank then
      (if access = .unlocked && !j.isEmpty then t.remove (journalOf place) else t, none)
    else (t, if j.isMarked then some .changePending else none)

/-- Begins the log of the database at a place, unless it is there. -/
def beginLog : FileTree :=
  if (t.at? (logOf place)).isSome then t else t.put (logOf place) (.file (.text ""))

/-- The log that is at a place. -/
def log? : Option Log :=
  match t.at? place with
  | some (.file c) => Log.ofBytes c.toBytes
  | _ => some {}

/-- What is done about the index at a place; one that cannot be written is only read. -/
def indexUse (use : IndexUse) : IndexUse := if t.at? place = some .directory then .found else use

/-- Reads the log of the database at a place. -/
def readLog (use : IndexUse) : FileTree × Except SchemaFault Log :=
  let log := t.log? (logOf place)
  let result := match log with
    | some log => .ok log
    | none => .error .besideClosed
  match t.indexUse (indexOf place) use with
  | .made =>
    (t.put (indexOf place) (.file (.bytes ((log.map Log.index).getD Log.blankIndex))), result)
  | .inMemory => (t, result)
  | .found =>
    (t, if (t.at? (indexOf place)).isNone then .error .besideClosed
      else if log.any Log.isForeign then .error .unsettled
      else result)

/-- Looks for a log of the database `c` at a place. -/
def openLog (access : Access) (c : Content) : FileTree × Except SchemaFault Log :=
  let isDirectory := t.at? (logOf place) == some .directory
  if c.isBlank then
    if !t.isFilled (logOf place) then (t, .ok {})
    else if isDirectory then (t, .error .besideKept)
    else (t.remove (logOf place), .ok {})
  else if !t.isFilled (logOf place) && !c.keepsLog then (t, .ok {})
  else
    match access with
    | .locked use =>
      if isDirectory || isTooLong (logOf place) then (t, .error .besideClosed)
      else (t.beginLog place).readLog place use
    | .lockFile | .unlocked | .unchanging => (t, .error .besideClosed)

/-- Looks for a journal and, if it has nothing to say, for a log. -/
def openBoth (access : Access) (c : Content) : FileTree × Except SchemaFault Log :=
  match t.openJournal place access c with
  | (t, none) => t.openLog place access c
  | (t, some fault) => (t, .error fault)

/-- The disk after the database `c` at a place was opened, and the log with which it is read. -/
def openBeside (access : Access) (c : Content) : FileTree × Except SchemaFault Log :=
  match access with
  | .unchanging => (t, .ok {})
  | .lockFile =>
    if (t.at? (beside place ".lock")).isSome then (t, .error .locked) else t.openLog place access c
  | .locked _ | .unlocked => t.openBoth place access c

end FileTree
end ShareStreaks
