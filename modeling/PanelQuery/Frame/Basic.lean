import PanelQuery.Querier.Compiled
import PanelQuery.Relationship

/-!
# Frames

What the panel draws: frames of named fields with one value for each row, and what is known of the tags and metrics in
them.
-/

namespace PanelQuery

/-- How the values of a field are read. -/
inductive FieldKind where
  | time
  | number
  | text
  /-- Structured values that are passed on untouched. -/
  | other
  deriving DecidableEq, Repr

/-- A column of a frame. -/
structure FrameField where
  name : String
  kind : FieldKind
  values : List Json
  deriving Repr

/-- What is known of the columns of a frame. -/
structure FrameMeta where
  tags : List Json := []
  metrics : List ReturnMetric := []
  relationship : Option Relationship := none
  deriving Repr

/-- A frame. -/
structure Frame where
  fields : List FrameField
  info : FrameMeta
  deriving Repr

def FieldKind.name : FieldKind → String
  | time => "time"
  | number => "number"
  | text => "string"
  | other => "other"

def FrameField.toJson (f : FrameField) : Json :=
  .object [("name", .text f.name), ("type", .text f.kind.name), ("values", .array f.values)]

def FrameMeta.toJson (m : FrameMeta) : Json :=
  .object [("custom", .object ([("returnTags", .array m.tags),
    ("returnMetrics", .array (m.metrics.map ReturnMetric.toJson))] ++
      (m.relationship.map Relationship.toFields).getD []))]

def Frame.toJson (f : Frame) : Json :=
  .object [("name", .text ""), ("fields", .array (f.fields.map FrameField.toJson)), ("meta", f.info.toJson)]

end PanelQuery
