/-!
# Severities of log entries
-/

namespace TableQuery

/-- How serious a log entry is. -/
inductive Severity where
  | debug
  | info
  | success
  | warning
  | error
  | critical
deriving DecidableEq, Repr, Inhabited

namespace Severity

/-- The name of a severity. -/
def name : Severity → String
  | .debug => "DEBUG"
  | .info => "INFO"
  | .success => "SUCCESS"
  | .warning => "WARNING"
  | .error => "ERROR"
  | .critical => "CRITICAL"

/-- The rank of a severity; a higher one is more serious. -/
def rank : Severity → Nat
  | .debug => 10
  | .info => 20
  | .success => 25
  | .warning => 30
  | .error => 40
  | .critical => 50

/-- All severities. -/
def all : List Severity :=
  [.debug, .info, .success, .warning, .error, .critical]

/-- The severity with a name. -/
def ofName? (name : String) : Option Severity :=
  all.find? (·.name = name)

/-- The severity with a name; an unknown name stands for ordinary information. -/
def ofName (name : String) : Severity :=
  (ofName? name).getD .info

end Severity

end TableQuery
