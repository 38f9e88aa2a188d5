import PanelQuery.Editor.Edit

/-!
# Resets

Three edits start a form over: another application, another database, another table. All of them bring back the rows of
a relationship (`Form.apply_setDb`, `Form.apply_setTable`), but only the first brings back the filter of a trace and
takes its format away (`Form.opened_of_isTracing`). So the other two come to what the application is opened with, apart
from the names that they set and keep, exactly if it does not trace requests (`Form.resets_agree_iff`).
-/

namespace PanelQuery
namespace Form

variable {f : Form} {appType : AppType} {db table : String}

/-! ## What an application is opened with -/

/-- The defaults of a relationship go into three fields, whatever the others are. -/
theorem relationshipDefaults_eq (f : Form) : f.relationshipDefaults =
    { f with
      select := if f.appType = .accessRelationship then [.blank .metric] else f.select
      groupBy :=
        if f.appType = .accessRelationship then [Clause.groupBy.blankRow, Clause.groupBy.blankRow] else f.groupBy
      format := if f.appType = .accessRelationship then none else f.format } := by
  unfold relationshipDefaults
  by_cases happ : f.appType = .accessRelationship
  · simp only [if_pos happ]
  · simp only [if_neg happ]

theorem ne_accessRelationship_of_isTracing (h : appType.isTracing = true) : appType ≠ .accessRelationship := by
  rintro rfl
  exact absurd h (by decide)

/-- Tracing is opened on its table, without a format and with its filter. -/
theorem opened_of_isTracing (h : appType.isTracing = true) : opened appType =
    { new appType with db := "flow_log", table := "l7_flow_log", format := none, filter := [tracingFilter] } := by
  unfold opened
  rw [if_pos h]
  exact if_neg (ne_accessRelationship_of_isTracing h)

/-- Any other application is opened as it is new. -/
theorem opened_of_not_isTracing (h : appType.isTracing = false) :
    opened appType = (new appType).relationshipDefaults := by
  unfold opened
  rw [h]
  rfl

/-! ## What the other resets come to -/

/-- Setting the database starts a new form of the application. -/
theorem apply_setDb : f.apply (.setDb db) = { (new f.appType).relationshipDefaults with db } := by
  rw [apply, relationshipDefaults_eq, relationshipDefaults_eq]
  rfl

/-- Setting the table starts a new form on the database. -/
theorem apply_setTable : f.apply (.setTable table) =
    { (new f.appType).relationshipDefaults with table, db := f.db, sources := f.sources } := by
  rw [apply, relationshipDefaults_eq, relationshipDefaults_eq]
  rfl

theorem relationshipDefaults_of_isTracing (h : appType.isTracing = true) :
    (new appType).relationshipDefaults = new appType :=
  if_neg (ne_accessRelationship_of_isTracing h)

/-- **When a reset restores the defaults of an application.** Another database, and another table, bring the form to
what its application is opened with, but for the names of where it queries, exactly if the application does not trace
requests. If it does, they lose the filter on the sources of spans, and give the form a format. -/
theorem resets_agree_iff (f : Form) (db table : String) :
    (f.apply (.setDb db) = { f.apply (.setAppType f.appType) with db, table := "" } ↔ f.appType.isTracing = false) ∧
    (f.apply (.setTable table) =
        { f.apply (.setAppType f.appType) with table, db := f.db, sources := f.sources } ↔
      f.appType.isTracing = false) ∧
    (f.appType.isTracing = true →
      f.apply (.setDb db) =
        { f.apply (.setAppType f.appType) with
          db, table := "", filter := [Clause.filter.blankRow], format := some .timeSeries } ∧
      f.apply (.setTable table) =
        { f.apply (.setAppType f.appType) with
          table, db := f.db, sources := f.sources
          filter := [Clause.filter.blankRow], format := some .timeSeries }) := by
  have hopened : f.apply (.setAppType f.appType) = opened f.appType := rfl
  rw [hopened, apply_setDb, apply_setTable]
  cases htracing : f.appType.isTracing with
  | false =>
    rw [opened_of_not_isTracing htracing, relationshipDefaults_eq]
    exact ⟨iff_of_true rfl rfl, iff_of_true rfl rfl, nofun⟩
  | true =>
    rw [opened_of_isTracing htracing, relationshipDefaults_of_isTracing htracing]
    have hfilter : [Clause.filter.blankRow] ≠ [tracingFilter] := by decide
    refine ⟨iff_of_false (fun hsame => ?_) nofun, iff_of_false (fun hsame => ?_) nofun, fun _ => ⟨rfl, rfl⟩⟩
    · exact hfilter (congrArg Form.filter hsame)
    · exact hfilter (congrArg Form.filter hsame)

/-- Choosing the only table that a trace can query takes the filter away that the trace was opened with. -/
theorem resets_agree_not :
    let f := opened .appTracing
    f.apply (.setTable "l7_flow_log") ≠
      { f.apply (.setAppType f.appType) with table := "l7_flow_log", db := f.db, sources := f.sources } := by
  intro f hsame
  exact absurd ((resets_agree_iff f "" "l7_flow_log").2.1.mp hsame) (by decide)

end Form
end PanelQuery
