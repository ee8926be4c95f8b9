import ShareStreaks.Disk.FileTree
import ShareStreaks.Tables.Shares

/-!
# Database engines

A database belongs to an engine: the program hands over a path and a query, and takes the rows that come
back.  Everything between, such as how a database is stored and locked, which files stand beside it, and
in which order its rows are found, is the engine's own matter, and an `Engine` can be anything that takes
part in this exchange.

`Engine.ask` tells how far the engine comes with a query, and what the disk is like when the database is
closed again.  `Engine.complaint` is what it says of bytes that should be a text and are no UTF-8.
-/

set_option autoImplicit false

namespace ShareStreaks

/-- What comes of asking an engine. -/
inductive Reply where
  /-- The database cannot be opened. -/
  | closed (fault : EngineFault)
  /-- The query cannot be prepared. -/
  | unprepared (fault : EngineFault)
  /-- The query cannot be started. -/
  | unstarted (fault : EngineFault)
  | answered (answer : Answer)

structure Engine where
  ask : FileTree → Path → Query → FileTree × Reply
  complaint : List UInt8 → List String

end ShareStreaks
