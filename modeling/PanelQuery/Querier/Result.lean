import PanelQuery.Json.Decoder
import PanelQuery.Json.Print
import PanelQuery.Querier.Error

/-!
# Query results

The answer of the querier to a statement: columns and rows of values, one for each column (`QueryResult.ofBody`). A
row read by column names is a record; of columns with one name the last one counts.
-/

namespace PanelQuery

/-- Columns and rows. -/
structure QueryResult where
  columns : List String
  rows : List (List Json)
  deriving Repr

/-- A row by column names, in the order of the names. -/
abbrev Record := Fields

namespace QueryResult

def empty : QueryResult := ⟨[], []⟩

/-- A row by column names. -/
def recordOf (columns : List String) (row : List Json) : Record := Fields.sorted (columns.zip row)

def records (r : QueryResult) : List Record := r.rows.map (recordOf r.columns)

/-- The first value of each row as text. -/
def firstColumn (r : QueryResult) : List String := (r.rows.filterMap List.head?).map Json.shown

/-! ## Reading responses -/

/-- Columns and rows as a response gives them, either of which may be missing. -/
structure RawResult where
  columns : Option (List String)
  rows : Option (List (List Json))
  deriving Repr

/-- The body of a response. -/
structure Envelope where
  status : Option String
  description : Option String
  result : Option RawResult
  deriving Repr

def RawResult.decoder : Decoder RawResult :=
  .record (mk <$> .keyed "columns" (.list .text) <*> .maybe "values" (.list (.list .any)))

def Envelope.decoder : Decoder Envelope :=
  .record (mk <$> .maybe "OPT_STATUS" .text <*> .maybe "DESCRIPTION" .text <*> .maybe "result" RawResult.decoder)

/-- The result in a response. A status other than success is an error, and every row has to have a value for each
column. -/
def ofEnvelope (e : Envelope) : Except QuerierError QueryResult :=
  let status := e.status.getD ""
  if !status.isEmpty && status != "SUCCESS" then .error (.decode (status ++ ": " ++ e.description.getD ""))
  else
    match e.result with
    | none => .error (.decode "missing field `result`")
    | some ⟨none, _⟩ => .error (.decode "missing field `result.columns`")
    | some ⟨some columns, rows⟩ =>
      let rows := rows.getD []
      match rows.find? fun row => row.length != columns.length with
      | some row =>
        .error (.decode
          ("row has " ++ toString row.length ++ " values for " ++ toString columns.length ++ " columns"))
      | none => .ok ⟨columns, rows⟩

/-- The result in the body of a response. -/
def ofBody (body : String) : Except QuerierError QueryResult :=
  match Envelope.decoder.read body with
  | .error _ => .error (.decode "invalid json")
  | .ok envelope => ofEnvelope envelope

end QueryResult
end PanelQuery
