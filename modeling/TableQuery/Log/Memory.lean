import TableQuery.Log.File

/-!
# The log memory

Every log entry is remembered, whatever its severity, and then offered to the log file.  The memory
holds a bounded count of the latest entries.
-/

namespace TableQuery

-- Powers are those of the core library, whatever else is known.
attribute [local instance (1100)] instPowNat

namespace LogMemory

/-- The last members of a list. -/
def suffix (count : Nat) (entries : List α) : List α :=
  entries.drop (entries.length - count)

/-- Remembers an entry, and forgets the oldest one where there are too many. -/
def push (entry : Severity × Value) (memory : LogMemory) : LogMemory :=
  { memory with entries := suffix memory.capacity (memory.entries ++ [entry]) }

end LogMemory

namespace Log

/-- The greatest capacity of a memory. -/
def capacityLimit : Int := 2 ^ (63 : Nat) - 1

/-- Empties the memory and gives it the capacity that the settings name, at least one. -/
def initializeMemory : Action World Unit := do
  let size ← Settings.integer "LOG_MEMORY_SIZE" 500
  let capacity := max 1 size
  if capacityLimit < capacity then throw (.refused .overflow)
  else modify fun world =>
    { world with log := { entries := [], capacity := capacity.toNat, initialized := true } }

/-- Initializes the memory if that has not been done. -/
def ensureInitialized : Action World Unit := do
  if (← get).log.initialized then pure () else initializeMemory

/-- The severity that a value names; a value that counts as false names the ordinary one, and so
does an unknown name. -/
def severityOf (level : Value) : Except Fault Severity :=
  if level.truthy then Severity.ofName <$> upperName level else .ok .info

/-- Remembers an entry and offers it to the log file. -/
def record (severity : Severity) (message : Value) : Action World Unit := do
  ensureInitialized
  modify fun world => { world with log := world.log.push (severity, message) }
  write severity message

/-- Remembers an entry of the severity that a value names, and offers it to the log file. -/
def create (level message : Value) : Action World Unit := do
  ensureInitialized
  let severity ← (severityOf level : Except Fault Severity)
  record severity message

/-- The entries of the severity that a value names, or all of them for a value that counts as
false. -/
def entriesOf (level : Value) (memory : LogMemory) : Except Fault (List (Severity × Value)) := do
  if !level.truthy || memory.entries.isEmpty then return memory.entries
  else
    let name ← upperName level
    return memory.entries.filter fun entry => entry.1.name = name

/-- What is read of the memory. -/
inductive Excerpt where
  | entries (entries : List (Severity × Value))
  | last (entry : Option (Severity × Value))

/-- Reads the entries of the severity that a value names, or only the last one of them. -/
def read (lastOnly level : Value) (memory : LogMemory) : Except Fault Excerpt := do
  let entries ← entriesOf level memory
  return if lastOnly.truthy then .last entries.getLast? else .entries entries

/-- Forgets all entries. -/
def clear (world : World) : World :=
  { world with log := { world.log with entries := [] } }

end Log

end TableQuery
