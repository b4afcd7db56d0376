import TableQuery.Query.Spec
import TableQuery.Value.Conversion

/-!
# Models and instances

A model names a table and says how its rows become instances.  The attributes of an instance are
the columns of its row; a column with the name of an attribute of the model hides that attribute.
-/

namespace TableQuery

/-- A description of the rows of a table. -/
structure Model where
  name : String
  /-- What tells the class of a model from every other one, also from those of the same name. -/
  identity : String := name
  table : Value := .none
  /-- The column that tells instances apart. -/
  primaryKey : Value := .text "id"
  /-- The columns that a search looks into. -/
  searchFields : Value := .list []
  /-- The columns whose values are converted, in order. -/
  casts : List (String × Value.Cast) := []
  /-- The table name that the model gives in place of its table. -/
  tableOverride : Option Value := none

namespace Model

/-- The name of the table of a model. -/
def tableName (model : Model) : Except Fault Value :=
  match model.tableOverride with
  | some name => .ok name
  | none => if model.table.truthy then .ok model.table else .error (.unboundModel model.name)

/-- A new specification for the table of a model. -/
def newSpec (model : Model) : Except Fault Spec := do
  let table ← model.tableName
  if table.truthy then return { table } else throw (.namelessTable model.name)

/-- A new specification with the search fields and the primary key of a model. -/
def querySpec (model : Model) : Except Fault Spec := do
  let spec ← model.newSpec
  let searching ← spec.bindSearchFields model.searchFields
  return searching.bindPrimaryKey model.primaryKey

/-- The model after its search fields have been walked through: a stream of them has none left. -/
def afterQuery (model : Model) : Model :=
  match model.searchFields with
  | .stream _ => { model with searchFields := .stream [] }
  | _ => model

end Model

/-- A row of a table as an object of a model. -/
structure Instance where
  model : Model
  /-- The columns with their values, in the order of the row. -/
  attributes : List (Value × Value)

namespace Model

/-- Converts the values of columns one after the other; a missing value stays missing. -/
def applyCasts : List (String × Value.Cast) → List (Value × Value) →
    Except Fault (List (Value × Value))
  | [], entries => .ok entries
  | (column, cast) :: rest, entries =>
    match Value.lookup (.text column) entries with
    | some value =>
      if value.isNone then applyCasts rest entries
      else do
        let converted ← cast.apply value
        applyCasts rest (Value.insert (.text column) converted entries)
    | none => applyCasts rest entries

/-- The names of attributes are texts, and one name is taken. -/
def checkAttributes (entries : List (Value × Value)) : Except Fault Unit :=
  entries.forM fun entry =>
    match entry.1.asText? with
    | some name => if name = "self" then .error Value.wrongType else .ok ()
    | none => .error Value.wrongType

/-- The instance of a row. -/
def hydrate (model : Model) (row : Value) : Except Fault Instance := do
  let entries ← row.toDict
  let converted ← applyCasts model.casts entries
  checkAttributes converted
  return { model, attributes := converted }

end Model

namespace Instance

/-- The value of a column. -/
def attribute? (self : Instance) (name : String) : Option Value :=
  Value.lookup (.text name) self.attributes

/-- The name of the key column; a column can hide the one of the model. -/
def keyField (self : Instance) : Value :=
  (self.attribute? "pk_field").getD self.model.primaryKey

/-- The value of the key. -/
def key (self : Instance) : Except Fault Value := do
  let _ ← self.keyField.hashAtoms
  return (Value.lookup self.keyField self.attributes).getD .none

/-- The attributes as a dictionary, unless a column hides this operation. -/
def toDict (self : Instance) : Except Fault (List (Value × Value)) :=
  if (self.attribute? "to_dict").isSome then .error Value.wrongType else .ok self.attributes

/-- The text of an instance: its model and its key. -/
def repr (self : Instance) : Except Fault String := do
  let key ← self.key
  return "<" ++ self.model.name ++ " " ++ self.keyField.display ++ "=" ++ key.repr ++ ">"

/-- Whether two instances are equal: they are of one class and have equal attributes.  An instance has
the attributes of itself even where one of them equals nothing. -/
def equal (same : Bool) (left right : Instance) : Except Fault Bool := do
  if left.model.identity ≠ right.model.identity then return false
  else
    let first ← left.toDict
    let second ← right.toDict
    return same || Value.equal (.dict first) (.dict second)

/-- The atoms that determine the hash of the key of an instance. -/
def hashAtoms (self : Instance) : Except Fault (List Value.HashAtom) := do
  (← self.key).hashAtoms

/-- Whether two instances have one hash. -/
def sameHash (same : Bool) (left right : Instance) : Except Fault Bool := do
  let first ← left.hashAtoms
  let second ← right.hashAtoms
  return same || (left.model.identity = right.model.identity && Value.sameHash first second)

/-- Whether an instance is in a set: it is one of the members, or equal to one of its hash. -/
def isMember [DecidableEq label] (candidate : label × Instance) :
    List (label × Instance) → Except Fault Bool
  | [] => .ok false
  | member :: rest => do
    let same := member.1 = candidate.1
    if same then return true
    let hashed ← sameHash false member.2 candidate.2
    let found ← if hashed then equal false member.2 candidate.2 else pure false
    if found then return true else isMember candidate rest

/-- The set of instances, given with labels that tell whether two of them are one. -/
def distinct [DecidableEq label] (instances : List (label × Instance)) :
    Except Fault (List (label × Instance)) :=
  instances.foldlM
    (fun members candidate => do
      let _ ← candidate.2.hashAtoms
      return if ← isMember candidate members then members else members ++ [candidate])
    []

end Instance

end TableQuery
