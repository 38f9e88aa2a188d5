import Mathlib.Logic.Relation
import PanelQuery.Proofs.Expression
import PanelQuery.Proofs.Results
import PanelQuery.Validation

/-!
# Rows in a payload

A row without a key leaves no trace in a payload: the payload is that of the form without such rows
(`Form.compile_dropBlanks`), so that any number of them may be inserted and deleted (`Form.SameButBlanks.compile_eq`).
Every other row of the select, group-by and order-by clauses has one entry there, which starts from the column that the
row refers to (`Form.listsRows_compile`).
-/

namespace PanelQuery

/-! ## The columns of entries -/

/-- The key of the column that an expression starts from. -/
def Expr.columnKey : Expr → String
  | column _ key _ _ => key
  | call _ operand _ => operand.columnKey

namespace Expr

variable {e : Expr} {chain : List SubFunction} {name : String}

theorem columnKey_origin : e.origin.columnKey = e.columnKey := by
  induction e with
  | column => rfl
  | call func operand args ih => exact ih

@[simp] theorem columnKey_applyChain : (e.applyChain chain).columnKey = e.columnKey := by
  rw [← columnKey_origin, origin_applyChain, columnKey_origin]

@[simp] theorem columnKey_named : (e.named name).columnKey = e.columnKey := by
  unfold named
  split <;> rfl

end Expr

/-- The key of the column that an entry starts from. -/
def Selection.columnKey : Selection → String
  | key name => name
  | expr e => e.columnKey

namespace Row

variable {r : Row}

theorem columnKey_composeAs (name : String) : (r.composeAs name).columnKey = r.realKey := by
  unfold composeAs
  dsimp only
  split
  · rfl
  · rw [Expr.columnKey_named, Expr.columnKey_applyChain, Expr.columnKey]

/-- Whether an entry is the one that selects the column of a row. -/
def IsSelectedBy (r : Row) (s : Selection) : Prop := s = r.selection ∧ s.columnKey = r.realKey

/-- Whether an entry is the one that groups by the column of a row. -/
def IsGroupedBy (r : Row) (s : Selection) : Prop := s = r.grouping ∧ s.columnKey = r.realKey

/-- Whether an entry is the one that orders by the column of a row, or by the time of its bucket. -/
def IsOrderedBy (r : Row) (o : OrderEntry) : Prop :=
  o = r.ordering ∧ o.expr.columnKey = if r.isBucket then "time" else r.realKey

theorem isSelectedBy_selection : r.IsSelectedBy r.selection := by
  refine ⟨rfl, ?_⟩
  unfold selection
  split
  · rfl
  · exact columnKey_composeAs r.aliasName

theorem isGroupedBy_grouping : r.IsGroupedBy r.grouping := by
  refine ⟨rfl, ?_⟩
  unfold grouping
  split <;> rfl

theorem isSome_dropStart? {text start : String} :
    (Text.dropStart? text start).isSome = Text.startsWith text start := by
  unfold Text.dropStart? Text.startsWith
  rw [Option.isSome_map, List.isSome_isPrefixOf?_eq_isPrefixOf]

theorem isOrderedBy_ordering : r.IsOrderedBy r.ordering := by
  refine ⟨rfl, ?_⟩
  unfold isBucket
  rw [← isSome_dropStart?, ordering]
  cases Text.dropStart? r.realKey bucketKeyStart with
  | none => exact columnKey_composeAs ""
  | some width => rfl

end Row

/-! ## Rows without a key -/

namespace Form

variable {f g : Form} {ctx : Context}

/-- The form without the rows that have no key. -/
def dropBlanks (f : Form) : Form :=
  { f with
    select := f.select.filter Row.hasKey
    filter := f.filter.filter Row.hasKey
    having := f.having.filter Row.hasKey
    groupBy := f.groupBy.filter Row.hasKey
    orderBy := f.orderBy.filter Row.hasKey }

theorem filterMap_normalize?_filter_hasKey (rows : List Row) :
    (rows.filter Row.hasKey).filterMap (fun row => row.normalize? ctx) =
      rows.filterMap fun row => row.normalize? ctx := by
  rw [List.filterMap_filter]
  refine List.filterMap_congr fun row _ => ?_
  cases hkey : row.hasKey with
  | true => rfl
  | false => simp [Row.normalize?, hkey]

theorem selections_dropBlanks (kind : RowKind) : f.dropBlanks.selections kind = f.selections kind := by
  unfold selections dropBlanks
  rw [List.filter_filter]
  refine congrArg (List.map Row.selection) (List.filter_congr fun row _ => ?_)
  cases row.hasKey <;> simp

theorem condition_dropBlanks : f.dropBlanks.condition ctx = f.condition ctx := by
  unfold condition conditionRows dropBlanks
  simp only [List.filterMap_append, filterMap_normalize?_filter_hasKey]

theorem seriesLimit?_dropBlanks : f.dropBlanks.seriesLimit? = f.seriesLimit? := by
  unfold seriesLimit? dropBlanks
  simp only [List.any_filter, Bool.and_self]

/-- The rows without a key have no part in a payload. -/
theorem compile_dropBlanks : f.dropBlanks.compile ctx = f.compile ctx := by
  unfold compile
  rw [selections_dropBlanks, selections_dropBlanks, condition_dropBlanks, seriesLimit?_dropBlanks]
  simp only [dropBlanks, List.filter_filter, Bool.and_self]
  rfl

/-- Whether a form is another one with a row without a key inserted somewhere. -/
def InsertsBlank (f g : Form) : Prop :=
  ∃ c before row after, f.rows c = before ++ after ∧ row.hasKey = false ∧ g = f.setRows c (before ++ row :: after)

/-- Whether a form becomes another one when rows without a key are inserted and deleted, one after another. -/
def SameButBlanks : Form → Form → Prop := Relation.EqvGen InsertsBlank

/-- One insertion. -/
theorem InsertsBlank.dropBlanks_eq (h : f.InsertsBlank g) : g.dropBlanks = f.dropBlanks := by
  obtain ⟨c, before, row, after, hrows, hkey, rfl⟩ := h
  have hblank : (before ++ row :: after).filter Row.hasKey = (f.rows c).filter Row.hasKey := by
    rw [hrows, List.filter_append, List.filter_append, List.filter_cons_of_neg (by simp [hkey])]
  cases c <;> simp only [dropBlanks, setRows, hblank] <;> rfl

/-- Any number of insertions and deletions. -/
theorem SameButBlanks.dropBlanks_eq (h : f.SameButBlanks g) : g.dropBlanks = f.dropBlanks := by
  induction h with
  | rel f g hinserts => exact hinserts.dropBlanks_eq
  | refl f => rfl
  | symm f g _ ih => exact ih.symm
  | trans f g k _ _ ihfirst ihsecond => exact ihsecond.trans ihfirst

theorem SameButBlanks.compile_eq (h : f.SameButBlanks g) : g.compile ctx = f.compile ctx := by
  rw [← compile_dropBlanks, h.dropBlanks_eq, compile_dropBlanks]

end Form

/-! ## Rows with a key -/

theorem Interval.isSome_resolve?_iff {ctx : Context} {text : String} :
    (Interval.resolve? ctx text).isSome = true ↔ Text.trim text ≠ "" := by
  unfold Interval.resolve?
  dsimp only
  split
  · next hblank => simpa using hblank
  · next hblank =>
    refine iff_of_true ?_ (by simpa using hblank)
    split <;> split <;> rfl

/-- Whether a payload has one entry for each row of the select, group-by and order-by clauses that has a key, in the
order of the rows, and besides these only the identifier of a record after the tags of a trace and the time bucket
before the tags that are grouped by. -/
structure Payload.ListsRows (p : Payload) (f : Form) : Prop where
  tags : ∃ entries, p.tags = entries ++ (if f.appType.isTracing then [Form.recordId] else []) ∧
    List.Forall₂ Row.IsSelectedBy (f.select.filter fun r => r.hasKey && r.kind == .tag) entries
  metrics : List.Forall₂ Row.IsSelectedBy (f.select.filter fun r => r.hasKey && r.kind == .metric) p.metrics
  groupBy : ∃ bucket : Option Selection, ∃ entries, p.groupBy = bucket.toList ++ entries ∧
    (bucket.isSome = true ↔ Text.trim f.interval ≠ "") ∧ (∀ s ∈ bucket, s.columnKey = "time") ∧
    List.Forall₂ Row.IsGroupedBy (f.groupBy.filter Row.hasKey) entries
  orderBy : List.Forall₂ Row.IsOrderedBy (f.orderBy.filter Row.hasKey) p.orderBy

namespace Form

theorem listsRows_compile (f : Form) (ctx : Context) : (f.compile ctx).ListsRows f where
  tags := ⟨_, rfl, forall₂_map_right_of_forall (fun _ => Row.isSelectedBy_selection) _⟩
  metrics := forall₂_map_right_of_forall (fun _ => Row.isSelectedBy_selection) _
  groupBy := by
    refine ⟨f.timeBucket? ctx, _, rfl, ?_, ?_, forall₂_map_right_of_forall (fun _ => Row.isGroupedBy_grouping) _⟩
    · rw [timeBucket?, Option.isSome_map, Interval.isSome_resolve?_iff]
    · intro s hs
      obtain ⟨interval, -, rfl⟩ := Option.map_eq_some_iff.mp hs
      rfl
  orderBy := forall₂_map_right_of_forall (fun _ => Row.isOrderedBy_ordering) _

end Form
end PanelQuery
