import PanelQuery.Proofs.Querier.Plays
import PanelQuery.Querier.TimePlaceholder
import PanelQuery.Service.Basic

/-!
# Names in statements

The statements that show the values of a tag, or the tags or metrics of a table, are put together from names (`Shows`).
A name is an identifier if it has no other characters than letters, digits, underscores and dots: then it has no blanks,
so the statement can be read in one way only (`namesIdentifiers_values`). A log of calls is guarded if all statements
that are executed name identifiers only (`IsGuarded`), other than the queries of the compiler, which the service does
not put together itself.
-/

namespace PanelQuery

open PanelQuery.Action (isIdentifier)
open Dialogue (loadCalls)

/-! ## The names in a statement -/

/-- The names in a statement that shows the values of a tag, or the tags or metrics of a table. -/
inductive Shows (sql : String) : List String → Prop where
  | values {tag table : String} (h : sql = "show tag " ++ tag ++ " values from " ++ table) : Shows sql [tag, table]
  | tags {table : String} (h : sql = "show tags from " ++ table) : Shows sql [table]
  | metrics {table : String} (h : sql = "show metrics from " ++ table) : Shows sql [table]

/-- Whether all names in a statement are identifiers, however it is read. -/
def NamesIdentifiers (sql : String) : Prop := ∀ names, Shows sql names → ∀ name ∈ names, isIdentifier name = true

section Statements

variable {tag table : String}

theorem blank_notMem_of_isIdentifier (h : isIdentifier tag = true) : ' ' ∉ tag.toList := by
  intro hmem
  simp only [isIdentifier, Bool.and_eq_true, List.all_eq_true] at h
  exact absurd (h.2 _ hmem) (by decide)

/-- Names without blanks are told apart by the text between them. -/
theorem append_values_inj {xs ys xs' ys' : List Char} (hx : ' ' ∉ xs) (hy : ' ' ∉ ys)
    (h : xs ++ " values from ".toList ++ ys = xs' ++ " values from ".toList ++ ys') : xs = xs' ∧ ys = ys' := by
  -- as many blanks on both sides: there are none in the other names either
  have hcount := congrArg (List.count ' ') h
  simp only [List.count_append, List.count_eq_zero_of_not_mem hx, List.count_eq_zero_of_not_mem hy] at hcount
  have hx' : ' ' ∉ xs' := List.count_eq_zero.mp (by omega)
  have hfront {zs rest : List Char} (hz : ' ' ∉ zs) :
      (zs ++ " values from ".toList ++ rest).takeWhile (· != ' ') = zs := by
    rw [List.append_assoc, List.takeWhile_append_of_pos fun c hc => bne_iff_ne.mpr (ne_of_mem_of_not_mem hc hz)]
    exact List.append_nil zs
  obtain rfl : xs = xs' := by rw [← hfront hx, h, hfront hx']
  exact ⟨rfl, List.append_cancel_left h⟩

/-- A statement that lists the values of a tag names identifiers if the tag and the table are. -/
theorem namesIdentifiers_values (htag : isIdentifier tag = true) (htable : isIdentifier table = true) :
    NamesIdentifiers ("show tag " ++ tag ++ " values from " ++ table) := by
  intro names hshows
  cases hshows with
  | values h =>
    have hlists := congrArg String.toList h
    simp only [String.toList_append, List.append_assoc] at hlists
    obtain ⟨hnames, hnames'⟩ := append_values_inj (blank_notMem_of_isIdentifier htag)
      (blank_notMem_of_isIdentifier htable) (by simpa using List.append_cancel_left hlists)
    rw [← String.toList_inj.mp hnames, ← String.toList_inj.mp hnames']
    simp [htag, htable]
  | tags h | metrics h => simpa using congrArg String.toList h

/-- A statement that shows the tags or metrics of a table names the table only. -/
theorem namesIdentifiers_table {sql : String}
    (h : sql = "show tags from " ++ table ∨ sql = "show metrics from " ++ table) :
    NamesIdentifiers sql ↔ isIdentifier table = true := by
  refine ⟨fun hnames => hnames _ (h.elim .tags .metrics) _ List.mem_cons_self, fun htable names hshows => ?_⟩
  suffices hname : names = [table] by simpa [hname] using htable
  obtain rfl | rfl := h
  · cases hshows with
    | tags h => rw [(String.append_right_inj _).mp h]
    | values h | metrics h => simpa using congrArg String.toList h
  · cases hshows with
    | metrics h => rw [(String.append_right_inj _).mp h]
    | values h | tags h => simpa using congrArg String.toList h

/-- The other statements that show something name nothing. -/
theorem namesIdentifiers_unnamed {sql : String}
    (h : sql ∈ ["show databases", "show tables", "show metric function"]) : NamesIdentifiers sql := by
  intro names hshows
  simp only [List.mem_cons, List.not_mem_nil, or_false] at h
  obtain rfl | rfl | rfl := h <;>
    cases hshows with
    | values h | tags h | metrics h => simpa using congrArg String.toList h

end Statements

/-! ## Logs -/

/-- Whether a statement is a query that the compiler gave, before or after the bounds of a range are put in. -/
def IsCompiled (log : List Exchange) (sql : String) : Prop :=
  ∃ payload compiled, (⟨.compile payload, .ok compiled⟩ : Exchange) ∈ log ∧
    (sql = compiled.sql ∨ ∃ range, sql = substituteTime compiled.sql range)

/-- Whether all statements that are executed name identifiers only, the queries of the compiler apart. -/
def IsGuarded (log : List Exchange) : Prop :=
  ∀ st, .execute st ∈ log.map Exchange.call → NamesIdentifiers st.sql ∨ IsCompiled log st.sql

section Logs

variable {front back log : List Exchange} {sql db table : String} {st : Statement}

/-- What is compiled in two logs is compiled in one of them. -/
theorem isCompiled_append : IsCompiled (front ++ back) sql ↔ IsCompiled front sql ∨ IsCompiled back sql := by
  simp only [IsCompiled, List.mem_append, or_and_right, exists_or]

theorem not_isCompiled_nil : ¬IsCompiled [] sql := fun ⟨_, _, hmem, _⟩ => nomatch hmem

theorem not_isCompiled_executed {reply : (Call.execute st).Answer} : ¬IsCompiled [⟨.execute st, reply⟩] sql :=
  fun ⟨_, _, hmem, _⟩ => nomatch List.mem_singleton.mp hmem

theorem isGuarded_nil : IsGuarded [] := fun _ => nofun

theorem IsGuarded.append (hfront : IsGuarded front) (hback : IsGuarded back) : IsGuarded (front ++ back) := by
  intro st hst
  rw [List.map_append, List.mem_append] at hst
  rw [isCompiled_append]
  obtain hst | hst := hst
  · exact (hfront st hst).imp_right .inl
  · exact (hback st hst).imp_right .inr

/-- A statement that names identifiers may be executed. -/
theorem isGuarded_executed {reply : (Call.execute st).Answer} (h : NamesIdentifiers st.sql) :
    IsGuarded [⟨.execute st, reply⟩] := by
  intro st' hst'
  cases List.mem_singleton.mp hst'
  exact .inl h

theorem isGuarded_compiling {payload : Payload} {reply : (Call.compile payload).Answer} :
    IsGuarded [⟨.compile payload, reply⟩] := fun _ hst => nomatch List.mem_singleton.mp hst

/-- The query that the compiler gives is executed at once. -/
theorem isGuarded_compiled {payload : Payload} {compiled : CompiledQuery} {reply : (Call.execute st).Answer}
    (h : st.sql = compiled.sql ∨ ∃ range, st.sql = substituteTime compiled.sql range) :
    IsGuarded [⟨.compile payload, .ok compiled⟩, ⟨.execute st, reply⟩] := by
  intro st' hst'
  simp only [List.map_cons, List.map_nil, List.mem_cons, reduceCtorEq, false_or, List.not_mem_nil, or_false] at hst'
  cases hst'
  exact .inr ⟨payload, compiled, List.mem_cons_self, h⟩

/-- The statements that load a table name nothing else. -/
theorem isGuarded_loading (h : isIdentifier table = true) (hcalls : log.map Exchange.call <+: loadCalls db table) :
    IsGuarded log := by
  intro st hst
  have hmem := hcalls.subset hst
  simp only [loadCalls, List.mem_cons, Call.execute.injEq, List.not_mem_nil, or_false] at hmem
  refine .inl ?_
  obtain rfl | rfl | rfl := hmem
  · exact (namesIdentifiers_table (.inl rfl)).mpr h
  · exact (namesIdentifiers_table (.inr rfl)).mpr h
  · exact namesIdentifiers_unnamed (by simp)

end Logs

namespace Dialogue

variable {α : Type} {log : List Exchange} {reply : Except QuerierError α}

/-- What is read off the answer to one statement. -/
theorem plays_reading {st : Statement} {g : QueryResult → α}
    (h : (do return g (← execute st) : ExceptT QuerierError Dialogue α).run.Plays log reply) :
    ∃ answer, log = [⟨.execute st, answer⟩] := by
  rcases plays_bind_run.mp h with ⟨_, hexecute, -⟩ | ⟨_, _, _, hexecute, hdone, rfl⟩
  · exact ⟨_, plays_execute.mp hexecute⟩
  · obtain rfl := plays_execute.mp hexecute
    obtain ⟨rfl, -⟩ := plays_done.mp hdone
    exact ⟨_, rfl⟩

theorem isGuarded_reading {st : Statement} {g : QueryResult → α} (h : NamesIdentifiers st.sql)
    (hplays : (do return g (← execute st) : ExceptT QuerierError Dialogue α).run.Plays log reply) :
    IsGuarded log := by
  obtain ⟨answer, rfl⟩ := plays_reading hplays
  exact isGuarded_executed h

/-- Asking for the details of spans executes no statement but a compiled one. -/
theorem isGuarded_spanDetails {t : Table} {spans : List Record} {reply : Except QuerierError Fields}
    (h : (Flame.spanDetails t spans).run.Plays log reply) : IsGuarded log := by
  unfold Flame.spanDetails at h
  dsimp only at h
  split at h
  · obtain ⟨rfl, -⟩ := plays_done.mp h
    exact isGuarded_nil
  rcases plays_bind_run.mp h with ⟨_, hcompile, -⟩ | ⟨_, compiled, _, hcompile, hrest, rfl⟩
  · obtain rfl := plays_compile.mp hcompile
    exact isGuarded_compiling
  obtain rfl := plays_compile.mp hcompile
  obtain ⟨answer, rfl⟩ := plays_reading hrest
  exact isGuarded_compiled (.inl rfl)

/-- What refuses everything answers any dialogue. -/
theorem exists_plays_refused (d : Dialogue α) : ∃ log a, d.Plays log a ∧ ∀ sql, ¬IsCompiled log sql := by
  induction d with
  | done a => exact ⟨[], a, .done a, fun _ => not_isCompiled_nil⟩
  | ask c next ih =>
    obtain ⟨log, a, hplays, hlog⟩ := ih (.error .transport)
    refine ⟨⟨c, .error .transport⟩ :: log, a, .ask hplays, ?_⟩
    rintro sql ⟨payload, compiled, hmem, hsql⟩
    obtain heq | hrest := List.mem_cons.mp hmem
    · cases heq
    · exact hlog sql ⟨payload, compiled, hrest, hsql⟩

end Dialogue

end PanelQuery
