import TableQuery.Database.Connection
import TableQuery.Settings.Read

/-!
# Opening databases

A database is opened at a path, or in memory.  The file and the directories above it are made where
they are missing.  Settings choose the journal of a file, how carefully data is written, and how
long a busy database is waited for.
-/

namespace TableQuery
namespace Database

-- Powers are those of the core library, whatever else is known.
attribute [local instance (1100)] instPowNat

/-! ## Choices -/

/-- The word for a database in memory. -/
def memoryPath : String := ":memory:"

/-- The path of the database where none is given. -/
def defaultPath : String := "data/db/app.db"

/-- The kinds of journal that a file can have. -/
def journalModes : List String :=
  ["wal", "delete", "truncate", "persist", "off", "memory"]

/-- The degrees of care in writing, the least first. -/
def synchronousModes : List String :=
  ["OFF", "NORMAL", "FULL", "EXTRA"]

/-- The greatest time that the engine can wait. -/
def timeoutLimit : Int := 2 ^ (31 : Nat) - 1

/-- The time that the engine waits: one that is too long for it counts as none. -/
def effectiveTimeout (configured : Int) : Int :=
  let wanted := max 0 configured
  if timeoutLimit < wanted then 0 else wanted

/-! ## Files -/

/-- The greatest length in bytes of the path of a journal. -/
def journalPathLimit : Nat := 512

/-- The absolute path that a value means, and the text that shows it.  Bytes mean the text that
they encode, and are shown as bytes. -/
def filePath (world : World) (path : Value) : Except Fault (String × String) :=
  match path.asText?, path with
  | some path, _ =>
    let file := Files.absolute world.directory path
    .ok (file, file)
  | none, .bytes content =>
    let file := Files.absolute world.directory (Cell.textOfBytes content)
    .ok (file, (Value.bytes file.toUTF8.toList).repr)
  | none, _ => .error Value.wrongType

/-- The outcome of an operation on files, as an action. -/
def orFileFault (result : Except Files.FileError α) : Except Fault α :=
  match result with
  | .ok value => .ok value
  | .error error => .error error.toFault

/-- Makes the file of a database, unless the engine cannot open it. -/
def makeFile (file : String) : Action World Unit := do
  let journal := file ++ Access.journalEnding
  if journalPathLimit < journal.utf8ByteSize && !file.toList.contains '\x00' then
    throw (.database .cannotOpen)
  match ← (World.onFiles (Files.appendFile (← get).place file "") : StateM World _) with
  | .ok () => pure ()
  | .error error =>
    throw (if error.trouble.isSystem then .database .cannotOpen else error.toFault)

/-- Makes the file of a database and the directories above it, where they are missing. -/
def prepareFile (file shown : String) : Action World Unit := do
  let world ← get
  if Files.isDirectory world.tree world.place file then throw (.databaseIsDirectory shown)
  else
    let folder := Files.directoryOf file
    let made ← (World.onFiles (Files.makeDirectories world.place folder world.nesting) :
      StateM World _)
    (orFileFault made : Except Fault Unit)
    makeFile file

/-- Whether the file of a database holds something else than a database; a single byte does not
count. -/
def isForeign (world : World) (file : String) : Bool :=
  match Files.find? world.tree world.place file with
  | some (.file content) => 1 < content.utf8ByteSize
  | _ => false

/-! ## Connections -/

/-- Chooses a journal for a file.  The log for changes is kept with the file, and cannot be given
up while another connection is open. -/
def chooseJournal (place : List String) (journal : String) : Action Storage Unit := do
  let stored := (← get).find place
  let writesAhead := journal = "wal"
  if stored.writesAhead && !writesAhead && 0 < stored.connections then
    throw (.database .locked)
  else modify (Storage.modify place fun stored => { stored with writesAhead })

/-- Makes a connection to a file, with what the settings choose for it. -/
def connectFile (file shown : String) : Action (Setting Storage) Connection := do
  let place := (Files.names file).filter (· ≠ "")
  let foreign := isForeign (← get).1 file
  let journal ← Setting.onWorld (Settings.choice? "SQLITE_JOURNAL_MODE" journalModes)
  match journal with
  | some journal =>
    if foreign then throw (.database .notADatabase)
    else Setting.onOther (chooseJournal place journal)
  | none => pure ()
  let synchronous ← Setting.onWorld (Settings.choice? "SQLITE_SYNCHRONOUS" synchronousModes)
  if foreign then throw (.database .notADatabase)
  let timeout ← Setting.onWorld (Settings.integer "SQLITE_BUSY_TIMEOUT_MS" 4000)
  Setting.onOther (modify (Storage.modify place fun stored =>
    { stored with connections := stored.connections + 1 }) : Action Storage Unit)
  return {
    file := shown
    location := .file place
    chosenJournal := journal.getD "delete"
    synchronous := synchronousModes.idxOf (synchronous.getD "NORMAL")
    busyTimeout := effectiveTimeout timeout }

/-- Makes a connection to an empty database in memory, with what the settings choose for it. -/
def connectMemory : Action World Connection := do
  let synchronous ← Settings.choice? "SQLITE_SYNCHRONOUS" synchronousModes
  let timeout ← Settings.integer "SQLITE_BUSY_TIMEOUT_MS" 4000
  return {
    file := memoryPath
    location := .memory []
    chosenJournal := "memory"
    synchronous := synchronousModes.idxOf (synchronous.getD "NORMAL")
    busyTimeout := effectiveTimeout timeout }

/-- Opens the database at a path; a value that counts as false means the default path. -/
def connect (path : Value) : Action (Setting Storage) Connection := do
  let path := if path.truthy then path else .text defaultPath
  if path.equal (.text memoryPath) then Setting.onWorld connectMemory
  else
    let (file, shown) ← (filePath (← get).1 path : Except Fault (String × String))
    Setting.onWorld (prepareFile file shown)
    connectFile file shown

end Database
end TableQuery
