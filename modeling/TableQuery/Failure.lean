import TableQuery.Value.Printing

/-!
# Failures

A failure is an error as it is raised and recorded: its kind, its arguments, whether it has been
raised, and the failure that caused it.  This module fixes the names of the kinds, their lines of
descent, the message that a failure shows and the report that is written into a log.
-/

namespace TableQuery

/-- The kind of a failure. -/
inductive ErrorKind where
  | base
  | general
  | value
  | type
  | key
  | lookup
  | attribute
  | arithmetic
  | overflow
  | runtime
  | recursion
  | system
  | connection
  | fileExists
  | fileMissing
  | isDirectory
  | notDirectory
  /-- The root of the kinds of this library. -/
  | query
  | building
  | compilation
  | modelBinding
  /-- The root of the kinds of the database engine. -/
  | engine
  | database
  | operational
  | programming
  | integrity
deriving DecidableEq, Repr, Inhabited

namespace ErrorKind

/-- The name of a kind. -/
def name : ErrorKind → String
  | .base => "BaseException"
  | .general => "Exception"
  | .value => "ValueError"
  | .type => "TypeError"
  | .key => "KeyError"
  | .lookup => "LookupError"
  | .attribute => "AttributeError"
  | .arithmetic => "ArithmeticError"
  | .overflow => "OverflowError"
  | .runtime => "RuntimeError"
  | .recursion => "RecursionError"
  | .system => "OSError"
  | .connection => "ConnectionError"
  | .fileExists => "FileExistsError"
  | .fileMissing => "FileNotFoundError"
  | .isDirectory => "IsADirectoryError"
  | .notDirectory => "NotADirectoryError"
  | .query => "DBError"
  | .building => "QueryBuilderError"
  | .compilation => "CompilationError"
  | .modelBinding => "ModelBindingError"
  | .engine => "Error"
  | .database => "DatabaseError"
  | .operational => "OperationalError"
  | .programming => "ProgrammingError"
  | .integrity => "IntegrityError"

/-- The place that defines a kind, where it is not a general one. -/
def origin? : ErrorKind → Option String
  | .query | .building | .compilation | .modelBinding => some "fluentq.db.query"
  | .engine | .database | .operational | .programming | .integrity => some "sqlite3"
  | _ => none

/-- The name of a kind with the place that defines it. -/
def qualifiedName (kind : ErrorKind) : String :=
  match kind.origin? with
  | some origin => origin ++ "." ++ kind.name
  | none => kind.name

/-- The kinds that a kind belongs to: itself first, then from the nearest to the most general. -/
def ancestors : ErrorKind → List ErrorKind
  | .base => [.base]
  | .general => [.general, .base]
  | .value => [.value, .general, .base]
  | .type => [.type, .general, .base]
  | .key => [.key, .lookup, .general, .base]
  | .lookup => [.lookup, .general, .base]
  | .attribute => [.attribute, .general, .base]
  | .arithmetic => [.arithmetic, .general, .base]
  | .overflow => [.overflow, .arithmetic, .general, .base]
  | .runtime => [.runtime, .general, .base]
  | .recursion => [.recursion, .runtime, .general, .base]
  | .system => [.system, .general, .base]
  | .connection => [.connection, .system, .general, .base]
  | .fileExists => [.fileExists, .system, .general, .base]
  | .fileMissing => [.fileMissing, .system, .general, .base]
  | .isDirectory => [.isDirectory, .system, .general, .base]
  | .notDirectory => [.notDirectory, .system, .general, .base]
  | .query => [.query, .general, .base]
  | .building => [.building, .query, .value, .general, .base]
  | .compilation => [.compilation, .query, .value, .general, .base]
  | .modelBinding => [.modelBinding, .query, .general, .base]
  | .engine => [.engine, .general, .base]
  | .database => [.database, .engine, .general, .base]
  | .operational => [.operational, .database, .engine, .general, .base]
  | .programming => [.programming, .database, .engine, .general, .base]
  | .integrity => [.integrity, .database, .engine, .general, .base]

/-- Whether a kind is the other one or descends from it. -/
def isA (kind ancestor : ErrorKind) : Bool :=
  kind.ancestors.contains ancestor

end ErrorKind

/-- An error as it is raised and recorded. -/
structure Failure where
  kind : ErrorKind
  arguments : List Value
  /-- Whether the failure has been raised, so that it knows where. -/
  traced : Bool
  /-- The failure that led to this one. -/
  cause : Option Failure
deriving Inhabited

namespace Failure

/-- A failure that is raised with a message. -/
def ofMessage (kind : ErrorKind) (message : String) : Failure :=
  { kind, arguments := [.text message], traced := true, cause := none }

/-- The message of arguments without a meaning of their own. -/
def plainMessage : List Value → String
  | [] => ""
  | [argument] => argument.display
  | arguments => (Value.tuple arguments).repr

/-- The message of a system error of up to five arguments: its number, its words, and the names of
the files that it is about.  The fourth argument is not shown. -/
def systemMessage (arguments : List Value) : String :=
  let shown : Value → String := fun file => if file.isNone then "" else ": " ++ file.repr
  match arguments with
  | [number, words] => "[Errno " ++ number.display ++ "] " ++ words.display
  | [number, words, file] | [number, words, file, _] =>
    "[Errno " ++ number.display ++ "] " ++ words.display ++ shown file
  | [number, words, file, _, second] =>
    "[Errno " ++ number.display ++ "] " ++ words.display ++ shown file ++
      (if file.isNone || second.isNone then "" else " -> " ++ second.repr)
  | _ => plainMessage arguments

/-- The message of a failure.  A missing key is shown by its inner text. -/
def message (failure : Failure) : String :=
  if failure.kind.isA .system then systemMessage failure.arguments
  else
    match failure.kind, failure.arguments with
    | .key, [key] => key.repr
    | _, arguments => plainMessage arguments

/-- The values whose texts make up a message of arguments without a meaning of their own. -/
def plainShown : List Value → List Value
  | [] => []
  | [argument] => [argument]
  | arguments => [.tuple arguments]

/-- The values whose texts make up the message of a failure. -/
def shown (failure : Failure) : List Value :=
  if failure.kind.isA .system then
    match failure.arguments with
    | [number, words] => [number, words]
    | [number, words, file] | [number, words, file, _] => [number, words, file]
    | [number, words, file, _, second] =>
      [number, words, file] ++ if file.isNone then [] else [second]
    | arguments => plainShown arguments
  else plainShown failure.arguments

/-- A failure in one line: its kind and its message. -/
def summary (failure : Failure) : String :=
  failure.kind.name ++ ": " ++ failure.message

/-- The line that stands for the places through which a raised failure has passed. -/
def traceLine : String := "<traceback>\n"

/-- The line that joins the reports of a cause and of what it led to. -/
def causeLine : String :=
  "\nThe above exception was the direct cause of the following exception:\n\n"

/-- The report of a failure without its cause. -/
def ownReport (failure : Failure) : String :=
  let message := failure.message
  (if failure.traced then traceLine else "") ++ failure.kind.qualifiedName ++
    (if message = "" then "" else ": " ++ message) ++ "\n"

/-- The report of a failure: the report of its cause first, if it has one. -/
def report : Failure → String
  | ⟨kind, arguments, traced, none⟩ => ownReport ⟨kind, arguments, traced, none⟩
  | ⟨kind, arguments, traced, some cause⟩ =>
    cause.report ++ causeLine ++ ownReport ⟨kind, arguments, traced, none⟩

end Failure

end TableQuery
