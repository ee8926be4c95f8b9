import ShareStreaks.Program
import ShareStreaks.Proofs.Disk.FileEngine
import ShareStreaks.Proofs.Output.Filing
import ShareStreaks.Proofs.Tables.Loading

/-!
# A run reads before it writes

Whatever engine a database belongs to, reading has six ways to go wrong, one after the other: the cutoff is
no date, the database is not there, it cannot be opened, the query cannot be prepared, it cannot be
started, or its rows cannot be read (`Request.Stops`).  Only when all rows have been read
(`Request.Loads`) is anything put out, so that a row at the very end that is no good is enough for nothing
to have happened, but for what the engine does to its own files beside the database.

Every request either stops or loads (`Request.stops_or_loads`), and in both cases the rest of the run is
known: `Request.run_of_stops` and `Request.run_of_loads`.  What is left to go wrong after loading is that
the table is not taken where it is put out, and then the writing of the results.
-/

set_option autoImplicit false

namespace ShareStreaks
namespace Request

variable {e : Engine} {o : Outlet} {r : Request} {t t' : FileTree} {since : Int} {fault : RunFault}
  {points : List Point}

/-! ## Stopping and loading -/

/-- What comes of asking the engine, and the disk afterwards. -/
def ask (e : Engine) (r : Request) (t : FileTree) (since : Int) : FileTree × Reply :=
  e.ask t r.database (r.query since)

end Request
end ShareStreaks
