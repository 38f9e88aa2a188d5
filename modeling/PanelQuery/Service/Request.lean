import PanelQuery.Editor.Codec
import PanelQuery.Service.Error
import PanelQuery.Timestamp
import PanelQuery.Variable.Codec

/-!
# Requests

The bodies of the requests that the service answers, and what is read off them: the form, which may be an object or
its text, and the range of time, whose bounds may be seconds or time stamps.
-/

namespace PanelQuery

open RecordDecoder (need given maybe)

/-! ## Forms and ranges -/

/-- The form in a request, as an object or as text. -/
def formOf (queryText : Json) : Except ServiceError Form :=
  let form :=
    match queryText with
    | .text s => (Form.decoder.read s).toOption
    | value => Form.ofJson? value
  match form with
  | some form => .ok form
  | none => .error (.badRequest "invalid queryText")

/-- A bound of a range as it is written. -/
inductive TimeBound where
  | seconds (n : Int)
  | text (s : String)
  deriving DecidableEq, Repr

namespace TimeBound

def ofJson? : Json → Option TimeBound
  | .text s => some (text s)
  | value => value.int64?.map seconds

def decoder : Decoder TimeBound := .whole ofJson?

def resolve : TimeBound → Except ServiceError Int
  | seconds n => .ok n
  | text s =>
    match Timestamp.read? (Text.trim s) with
    | some n => .ok n
    | none => .error (.badRequest ("invalid time `" ++ s ++ "`"))

end TimeBound

/-- A range as it is written. -/
structure RangeBounds where
  start : TimeBound
  stop : TimeBound
  deriving DecidableEq, Repr

namespace RangeBounds

def decoder : Decoder RangeBounds := .record (mk <$> need "from" TimeBound.decoder <*> need "to" TimeBound.decoder)

/-- The range of time, whose start is not after its end. -/
def resolve (r : RangeBounds) : Except ServiceError TimeRange := do
  let start ← r.start.resolve
  let stop ← r.stop.resolve
  if stop < start then .error (.badRequest "range.from must not be after range.to") else .ok ⟨start, stop⟩

end RangeBounds

/-! ## Bodies -/

/-- A query: a form and what it is compiled against. -/
structure QueryRequest where
  queryText : Json
  vars : VarContext
  range : Option RangeBounds
  requestId : String
  refId : String
  deriving Repr

def QueryRequest.decoder : Decoder QueryRequest :=
  .record
    (mk <$> need "queryText" .any
      <*> VarContext.fieldsDecoder
      <*> maybe "range" RangeBounds.decoder
      <*> given "requestId" "" .text
      <*> given "refId" "" .text)

/-- A question for the columns of a relationship. -/
structure RelationshipRequest where
  queryText : Json
  returnTags : List Json
  deriving Repr

def RelationshipRequest.decoder : Decoder RelationshipRequest :=
  .record (mk <$> need "queryText" .any <*> given "returnTags" [] (.list .any))

/-- A question for what the editor offers, in general and for one row. -/
structure OptionsRequest where
  queryText : Json
  clause : Option Clause
  index : Option Nat
  deriving Repr

def OptionsRequest.decoder : Decoder OptionsRequest :=
  .record
    (mk <$> need "queryText" .any
      <*> maybe "clause" (.choice Clause.ofName?)
      <*> maybe "index" .natural)

/-- An edit of a form. -/
structure EditRequest where
  queryText : Json
  edit : Edit
  deriving Repr

def EditRequest.decoder : Decoder EditRequest := .record (mk <$> need "queryText" .any <*> need "edit" Edit.decoder)

/-- The query that lists the options of a variable. -/
structure VariableRequest where
  database : String
  sql : String
  datasource : String
  /-- Whether the option that switches conditions off is offered. -/
  useDisabled : Bool
  /-- Whether the option that matches anything is offered. -/
  useAny : Bool
  vars : VarContext
  deriving Repr

def VariableRequest.decoder : Decoder VariableRequest :=
  .record
    (mk <$> given "database" "" .text
      <*> given "sql" "" .text
      <*> given "datasource" "" .text
      <*> given "useDisabled" false .bool
      <*> given "useAny" false .bool
      <*> VarContext.fieldsDecoder)

/-- The parameters of a search for the values of a tag. -/
structure TagSearch where
  db : String
  table : String
  search : String
  deriving DecidableEq, Repr

/-- The parameters in the fields of a query string, none of which may be given twice. -/
def TagSearch.ofPairs? (pairs : List (String × String)) : Option TagSearch :=
  let given (name : String) : List String := (pairs.filter fun pair => pair.1 == name).map Prod.snd
  match given "db", given "table", given "search" with
  | _ :: _ :: _, _, _ | _, _ :: _ :: _, _ | _, _, _ :: _ :: _ => none
  | db, table, search => some ⟨db.headD "", table.headD "", search.headD ""⟩

end PanelQuery
