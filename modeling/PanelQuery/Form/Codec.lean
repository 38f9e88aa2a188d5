import PanelQuery.Form.Basic

/-!
# Forms in JSON

For each type of a form an encoder and a decoder. Parts that are unset are left out when a form is written; when one
is read, missing parts take the values of a new form. Sort order, side and format are read leniently: what is not
one of their names is unset.
-/

namespace PanelQuery

open RecordDecoder (need given maybe)

/-- A field that is written only if it is set. -/
def Fields.optional (name : String) (encode : α → Json) : Option α → Fields
  | none => []
  | some a => [(name, encode a)]

/-- A field that is written only under a condition. -/
def Fields.onlyIf (condition : Bool) (name : String) (value : Json) : Fields :=
  if condition then [(name, value)] else []

namespace Decoder

/-- An optional scalar, of which only a text with a meaning counts. -/
def lenient (ofName? : String → Option α) : Decoder (Option α) :=
  whole fun value =>
    (Json.nullable Scalar.ofJson? value).map fun scalar => (scalar.bind Scalar.text?).bind ofName?

def scalarText : Decoder String :=
  whole fun value => (Json.nullable Scalar.ofJson? value).map fun scalar => (scalar.map Scalar.shown).getD ""

end Decoder

/-! ## Values and functions -/

namespace Params

def toJson : Params → Json
  | list items => .array (items.map Scalar.toJson)
  | single item => item.toJson

def ofJson? : Json → Option Params
  | .array items => (items.mapM Scalar.ofJson?).map list
  | value => (Scalar.ofJson? value).map single

def decoder : Decoder Params := .whole ofJson?

end Params

namespace SubFunction

def toJson (f : SubFunction) : Json :=
  .object ([("func", .text f.func)] ++ Fields.optional "op" .text f.op ++
    Fields.optional "params" Params.toJson f.params)

def decoder : Decoder SubFunction :=
  .record (mk <$> need "func" .text <*> maybe "op" .text <*> maybe "params" Params.decoder)

end SubFunction

namespace Choice

def toJson (c : Choice) : Json :=
  .object (Fields.optional "label" Scalar.toJson c.label ++ [("value", c.value.toJson)] ++
    Fields.onlyIf c.isVariable "isVariable" (.bool true))

def decoder : Decoder Choice :=
  .record (mk <$> maybe "label" Scalar.decoder <*> given "value" .empty Scalar.decoder <*>
    given "isVariable" false .bool)

end Choice

namespace ValueItem

def toJson : ValueItem → Json
  | choice c => c.toJson
  | literal s => s.toJson

/-- The value item of a JSON value: a choice, or else a literal. -/
def ofJson? (value : Json) : Option ValueItem :=
  ((Choice.decoder.decode value).map choice).or ((Scalar.ofJson? value).map literal)

end ValueItem

namespace RowValue

def toJson : RowValue → Json
  | list items => .array (items.map ValueItem.toJson)
  | single item => item.toJson

/-- The value of a condition of a JSON value: a list of items, or else one item. -/
def ofJson? (value : Json) : Option RowValue :=
  ((Json.listOf ValueItem.ofJson? value).map list).or ((ValueItem.ofJson? value).map single)

def decoder : Decoder RowValue := .whole ofJson?

end RowValue

/-! ## Rows -/

namespace RowKind

def name : RowKind → String
  | tag => "tag"
  | metric => "metric"

def ofName? : String → Option RowKind
  | "tag" => some tag
  | "metric" => some metric
  | _ => none

end RowKind

namespace Side

def name : Side → String
  | source => "from"
  | target => "to"

def ofName? : String → Option Side
  | "from" => some source
  | "to" => some target
  | _ => none

end Side

namespace SortOrder

def name : SortOrder → String
  | ascending => "asc"
  | descending => "desc"

/-- The order of that name, in any case. -/
def ofName? (name : String) : Option SortOrder :=
  match String.ofList (name.toList.map Char.toLower) with
  | "asc" => some ascending
  | "desc" => some descending
  | _ => none

end SortOrder

namespace SelectRef

def toJson (r : SelectRef) : Json :=
  .object [("key", .text r.key), ("func", .text r.func), ("params", r.params.toJson),
    ("subFuncs", .array (r.subFuncs.map SubFunction.toJson))]

def decoder : Decoder SelectRef :=
  .record (mk <$> given "key" "" .text <*> given "func" "" .text <*> given "params" .empty Params.decoder <*>
    given "subFuncs" [] (.list SubFunction.decoder))

end SelectRef

namespace Row

def toJson (r : Row) : Json :=
  .object ([("type", .text r.kind.name), ("key", .text r.key), ("func", .text r.func),
      ("params", r.params.toJson), ("op", .text r.op)] ++
    Fields.optional "val" RowValue.toJson r.val ++
    [("as", .text r.aliasName)] ++
    Fields.onlyIf (!r.subFuncs.isEmpty) "subFuncs" (.array (r.subFuncs.map SubFunction.toJson)) ++
    Fields.onlyIf (!r.preFunc.isEmpty) "preFunc" (.text r.preFunc) ++
    Fields.optional "sort" (fun s => .text s.name) r.sort ++
    Fields.optional "sideType" (fun s => .text s.name) r.side ++
    [("whereOnly", .bool r.whereOnly), ("isResourceType", .bool r.isResource), ("isIpType", .bool r.isIp)] ++
    Fields.optional "fromSelect" SelectRef.toJson r.fromSelect ++
    Fields.optional "uuid" .text r.uuid)

/-- The decoder of the fields of a row, whose kind is read in one of two ways. -/
def fieldsDecoder (kind : Decoder RowKind) : RecordDecoder Row :=
  mk <$> given "type" .tag kind
    <*> given "key" "" .text
    <*> given "func" "" .text
    <*> given "params" .empty Params.decoder
    <*> given "op" "" .text
    <*> maybe "val" RowValue.decoder
    <*> given "as" "" .text
    <*> given "subFuncs" [] (.list SubFunction.decoder)
    <*> given "preFunc" "" .text
    <*> given "sort" none (.lenient SortOrder.ofName?)
    <*> given "sideType" none (.lenient Side.ofName?)
    <*> given "whereOnly" false .bool
    <*> given "isResourceType" false .bool
    <*> given "isIpType" false .bool
    <*> maybe "fromSelect" SelectRef.decoder
    <*> maybe "uuid" .text

def decoder : Decoder Row := .record (fieldsDecoder (.choice RowKind.ofName?))

def ofJson? (value : Json) : Option Row := decoder.decode value

end Row

/-! ## Forms -/

namespace AppType

def name : AppType → String
  | trafficQuery => "trafficQuery"
  | accessRelationship => "accessRelationship"
  | appTracing => "appTracing"
  | appTracingFlame => "appTracingFlame"
  | profiling => "profiling"

def ofName? : String → Option AppType
  | "trafficQuery" => some trafficQuery
  | "accessRelationship" => some accessRelationship
  | "appTracing" => some appTracing
  | "appTracingFlame" => some appTracingFlame
  | "profiling" => some profiling
  | _ => none

end AppType

namespace Format

def name : Format → String
  | timeSeries => "timeSeries"
  | table => "table"

def ofName? : String → Option Format
  | "timeSeries" => some timeSeries
  | "table" => some table
  | _ => none

end Format

namespace Clause

def name : Clause → String
  | select => "select"
  | filter => "where"
  | having => "having"
  | groupBy => "groupBy"
  | orderBy => "orderBy"

def ofName? : String → Option Clause
  | "select" => some select
  | "where" => some filter
  | "having" => some having
  | "groupBy" => some groupBy
  | "orderBy" => some orderBy
  | _ => none

end Clause

namespace Form

def rowsToJson (rows : List Row) : Json := .array (rows.map Row.toJson)

def toJson (f : Form) : Json :=
  .object ([("appType", .text f.appType.name), ("db", .text f.db), ("from", .text f.table),
      ("sources", .text f.sources), ("select", rowsToJson f.select), ("where", rowsToJson f.filter),
      ("having", rowsToJson f.having), ("groupBy", rowsToJson f.groupBy), ("orderBy", rowsToJson f.orderBy),
      ("interval", .text f.interval), ("slimit", .text f.slimit), ("limit", .text f.limit),
      ("offset", .text f.offset)] ++
    Fields.optional "formatAs" (fun format => .text format.name) f.format ++
    [("alias", .text f.aliasName), ("showMetrics", .int f.showMetrics.toInt)] ++
    Fields.optional "tracingId" Choice.toJson f.tracingId)

def decoder : Decoder Form :=
  let new := Form.new .trafficQuery
  let rows : Decoder (List Row) := .list Row.decoder
  .record
    (mk <$> given "appType" new.appType (.choice AppType.ofName?)
      <*> given "db" new.db .text
      <*> given "from" new.table .text
      <*> given "sources" new.sources .text
      <*> given "select" new.select rows
      <*> given "where" new.filter rows
      <*> given "having" new.having rows
      <*> given "groupBy" new.groupBy rows
      <*> given "orderBy" new.orderBy rows
      <*> given "interval" new.interval .scalarText
      <*> given "slimit" new.slimit .scalarText
      <*> given "limit" new.limit .scalarText
      <*> given "offset" new.offset .scalarText
      <*> given "formatAs" new.format (.lenient Format.ofName?)
      <*> given "alias" new.aliasName .text
      <*> given "showMetrics" new.showMetrics .int8
      <*> given "tracingId" new.tracingId (.nullable Choice.decoder))

def ofJson? (value : Json) : Option Form := decoder.decode value

end Form
end PanelQuery
