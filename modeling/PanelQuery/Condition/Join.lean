import PanelQuery.Condition.Normal
import PanelQuery.Grouping
import PanelQuery.ResourceKey

/-!
# Joining conditions

`joinConditions` builds the condition of a query from those of its rows. Tag conditions are grouped by key, and
within a key by the class of their operators: forward operators are joined by OR, all others by AND, and the classes
of one key by OR. Conditions that stand for both sides of a flow are expanded and form one group of their own.
Metric conditions come last as they are.
-/

namespace PanelQuery

/-- A tag condition that is to be grouped. -/
inductive TagPart where
  | plain (c : Comparison)
  /-- The expansion of a condition over both sides. -/
  | sided (op : Junction) (members : List Condition)

namespace TagPart

/-- The key that a part is grouped by. -/
def key? : TagPart → Option String
  | plain c => some c.key
  | sided _ _ => none

/-- The class that a part is grouped by. -/
def class? : TagPart → Option OperatorClass
  | plain c => c.op.class?
  | sided _ _ => none

/-- The part as a condition. -/
def toCondition : TagPart → Condition
  | plain c => .leaf c
  | sided op members => .group op members

end TagPart

/-- How the conditions of a class are joined. -/
def junctionOf : Option OperatorClass → Junction
  | some .forward => .or
  | _ => .and

namespace Comparison

/-- Patterns are matched one at a time: one comparison for each of several patterns. -/
def splitLike (c : Comparison) : List Comparison :=
  if !c.op.isLike then [c]
  else
    match c.val with
    | .many values => values.map fun value => { c with val := .one value }
    | .one _ => [c]

/-- The comparison of the column of one side. -/
def onSide (c : Comparison) (ending : String) : Comparison :=
  let sided := c.key ++ ending
  { c with key := if c.op.matchesIds then resourceIdKey sided else sided }

/-- The comparison on both sides: one side has to satisfy it, or both where it negates. -/
def expandSides (c : Comparison) : TagPart :=
  .sided (if c.op.isNegated then .and else .or)
    ((sideEndings.flatMap fun ending => (c.onSide ending).splitLike).map .leaf)

end Comparison

namespace Normalized

/-- The parts of a condition that are to be grouped. -/
def parts : Normalized → List TagPart
  | tag c => if c.whereOnly then [c.expandSides] else c.splitLike.map .plain
  | metric _ => []

def metric? : Normalized → Option Condition
  | tag _ => none
  | metric c => some c

end Normalized

/-- The groups of one key by the classes of their operators. -/
def classGroups (parts : List TagPart) : List Condition :=
  (groupOn TagPart.class? parts).map fun (cls, members) =>
    .group (junctionOf cls) (members.map TagPart.toCondition)

/-- The condition of one key. -/
def keyGroup (parts : List TagPart) : Condition :=
  match classGroups parts with
  | [group] => group
  | groups => .group .or groups

/-- The condition of a query from those of its rows. -/
def joinConditions (items : List Normalized) : List Condition :=
  (groupOn TagPart.key? (items.flatMap Normalized.parts)).map (fun (_, parts) => keyGroup parts) ++
    items.filterMap Normalized.metric?

end PanelQuery
