import PanelQuery.Editor.Edit
import PanelQuery.Editor.Options

/-!
# Edits and options in JSON

The decoder of edits and the encoders of options. All fields of an edit have to be there.
-/

namespace PanelQuery

open RecordDecoder (need)

/-! ## Edits -/

/-- The clause and the index of an edit of a row. -/
def Edit.placeDecoder (edit : Clause → Nat → α) : RecordDecoder α :=
  edit <$> need "clause" (.looseChoice Clause.ofName?) <*> need "index" .natural

def Edit.ofKind? : String → Option (RecordDecoder Edit)
  | "setAppType" => some (.setAppType <$> need "appType" (.looseChoice AppType.ofName?))
  | "setDb" => some (.setDb <$> need "db" .text)
  | "setTable" => some (.setTable <$> need "from" .text)
  | "setSources" => some (.setSources <$> need "sources" .text)
  | "setInterval" => some (.setInterval <$> need "interval" .text)
  | "setSlimit" => some (.setSlimit <$> need "slimit" .text)
  | "setLimit" => some (.setLimit <$> need "limit" .text)
  | "setOffset" => some (.setOffset <$> need "offset" .text)
  | "setFormatAs" => some (.setFormat <$> need "formatAs" .text)
  | "setAlias" => some (.setAlias <$> need "alias" .text)
  | "setShowMetrics" => some (.setShowMetrics <$> need "showMetrics" .int8)
  | "setRow" =>
    some (placeDecoder .setRow <*> need "row" (.record (Row.fieldsDecoder (.looseChoice RowKind.ofName?))))
  | "addRow" => some (placeDecoder .addRow)
  | "removeRow" => some (placeDecoder .removeRow)
  | _ => none

def Edit.decoder : Decoder Edit := .tagged "kind" ofKind?

def Edit.ofJson? (value : Json) : Option Edit := decoder.decode value

/-! ## Options -/

/-- A choice in JSON, by label and value. -/
def labelled (label value : String) : Json := .object [("label", .text label), ("value", .text value)]

/-- A name that is its own label. -/
def selfLabelled (name : String) : Json := labelled name name

def OperatorOption.toJson (o : OperatorOption) : Json :=
  .object ([("label", .text o.label), ("value", .text o.value)] ++
    Fields.onlyIf (!o.description.isEmpty) "description" (.text o.description))

def OptionKind.toJson : OptionKind → Json
  | tag name => .text name
  | metric kind => .int kind

def FieldOption.toJson (o : FieldOption) : Json :=
  .object ([("label", .text o.label), ("value", .text o.value), ("type", o.kind.toJson),
      ("operatorOpts", .array (o.operators.map OperatorOption.toJson))] ++
    Fields.optional "sideType" (fun side => .text side.name) o.side ++
    Fields.onlyIf o.whereOnly "whereOnly" (.bool true) ++ Fields.onlyIf o.isAgg "isAgg" (.bool true) ++
    Fields.onlyIf (!o.notSupportedOperators.isEmpty) "notSupportedOperators" (.texts o.notSupportedOperators))

def FunctionOption.toJson (o : FunctionOption) : Json :=
  .object ([("label", .text o.name), ("value", .text o.name), ("paramCount", .int o.paramCount)] ++
    Fields.optional "supportMetricTypes" (fun kinds => .array (kinds.map Json.int)) o.metricKinds)

def TableOptions.toJson (t : TableOptions) : Json :=
  .object [("tags", .array (t.tags.map FieldOption.toJson)), ("metrics", .array (t.metrics.map FieldOption.toJson)),
    ("functions", .array (t.functions.map FunctionOption.toJson)),
    ("subFunctions", .array (t.subFunctions.map selfLabelled))]

def FieldOptions.toJson (o : FieldOptions) : Json :=
  .object [("tags", .array (o.tags.map FieldOption.toJson)), ("metrics", .array (o.metrics.map FieldOption.toJson))]

def clauseOptionsToJson (options : Clause → FieldOptions) : Json :=
  .object (Clause.all.map fun c => (c.name, (options c).toJson))

/-- The functions of the rows of all clauses in JSON. -/
def functionOptionsToJson (t : TableOptions) (f : Form) : Json :=
  .object (Clause.all.map fun c =>
    (c.name, .array ((f.rows c).map fun row => .array ((functionOptions t c row).map FunctionOption.toJson))))

end PanelQuery
