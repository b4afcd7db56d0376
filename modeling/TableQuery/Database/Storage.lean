import TableQuery.Database.Table

/-!
# Stored databases

A database in a file outlives the connections to it, and connections to one file share it.  The
storage holds the databases of all files by the places where the files stand.
-/

namespace TableQuery
namespace Database

/-- A database that a file holds. -/
structure Stored where
  tables : List Table := []
  /-- Whether changes are first written into a log; the file remembers this. -/
  writesAhead : Bool := false
  /-- The count of the open connections to the file. -/
  connections : Nat := 0
deriving Repr

/-- The databases that files hold, by the places of the files. -/
structure Storage where
  databases : List (List String × Stored) := []
deriving Repr

namespace Storage

/-- The database at a place; it is empty where nothing has been stored. -/
def find (storage : Storage) (place : List String) : Stored :=
  (storage.databases.lookup place).getD {}

/-- Changes the database at a place. -/
def modify (place : List String) (change : Stored → Stored) (storage : Storage) : Storage where
  databases := (place, change (storage.find place)) ::
    storage.databases.filter fun entry => entry.1 ≠ place

end Storage

end Database
end TableQuery
