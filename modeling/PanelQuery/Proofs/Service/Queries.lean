import PanelQuery.Proofs.Results
import PanelQuery.Proofs.Service.Actions
import PanelQuery.Proofs.Service.Statements
import PanelQuery.Service.Respond

/-!
# What queries leave behind

A query is refused before anything is asked if its form cannot be read or has a fault, or if its range is none
(`QueryRequest.IsRefused`); it then changes nothing. Otherwise it asks for its table, has its payload compiled and
executes the statement (`QueryPlay`). What is kept is decided by the answer of the compiler alone
(`Service.respond_query`), so that the statement of a query can be looked up although its execution failed
(`QueryPlay.find?_eq_sql`).
-/

namespace PanelQuery

open Dialogue (loadCalls)

/-! ## Requests -/

/-- Whether bounds are no range: one of them cannot be read, or they are in the wrong order. -/
def RangeBounds.IsInvalid (b : RangeBounds) : Prop :=
  ∀ start stop, b.start.resolve = .ok start → b.stop.resolve = .ok stop → stop < start

/-- Bounds are a range exactly if they are not invalid. -/
theorem RangeBounds.resolve_eq (b : RangeBounds) :
    (b.IsInvalid ∧ ∃ error, b.resolve = .error error) ∨ (¬b.IsInvalid ∧ ∃ range, b.resolve = .ok range) := by
  unfold IsInvalid resolve
  cases hstart : b.start.resolve with
  | error error => exact .inl ⟨nofun, error, rfl⟩
  | ok start =>
    cases hstop : b.stop.resolve with
    | error error => exact .inl ⟨nofun, error, rfl⟩
    | ok stop =>
      by_cases horder : stop < start
      · exact .inl ⟨by rintro _ _ ⟨⟩ ⟨⟩; exact horder, _, if_pos horder⟩
      · exact .inr ⟨fun h => horder (h _ _ rfl rfl), _, if_neg horder⟩

namespace QueryRequest

/-- Whether a query is for the frame of a trace. -/
def IsFlame (q : QueryRequest) : Prop := ∃ f, formOf q.queryText = .ok f ∧ f.appType = .appTracingFlame

/-- Whether a query is refused: its form cannot be read or has a fault, or its range is none. -/
def IsRefused (q : QueryRequest) : Prop :=
  (∃ error, formOf q.queryText = .error error) ∨ (∃ f, formOf q.queryText = .ok f ∧ f.fault? ≠ none) ∨
    ∃ bounds, q.range = some bounds ∧ bounds.IsInvalid

/-- Whether a query at a time is for that range: the hour before, unless one is given. -/
def Covers (q : QueryRequest) (now : Int) (range : TimeRange) : Prop :=
  match q.range with
  | some bounds => bounds.resolve = .ok range
  | none => range = ⟨now - 3600, now⟩

/-- The statements that are kept once that of a query is, whose request has to have a name. -/
def keep (q : QueryRequest) (sql : String) (kept : Lru String String) : Lru String String :=
  if q.requestId.isEmpty then kept else kept.insert (Service.statementKey q.requestId q.refId) sql

variable {q : QueryRequest} {now : Int}

/-- A query whose range is not invalid covers one. -/
theorem exists_covers (h : ∀ bounds, q.range = some bounds → ¬bounds.IsInvalid) : ∃ range, q.Covers now range := by
  unfold Covers
  cases hrange : q.range with
  | none => exact ⟨_, rfl⟩
  | some bounds =>
    rcases bounds.resolve_eq with ⟨hinvalid, -⟩ | ⟨-, range, hresolve⟩
    · exact absurd hinvalid (h bounds hrange)
    · exact ⟨range, hresolve⟩

/-- A query that can be read is refused for its form or for its range. -/
theorem not_isRefused_iff {f : Form} (now : Int) (hform : formOf q.queryText = .ok f) :
    ¬q.IsRefused ↔ f.fault? = none ∧ ∃ range, q.Covers now range := by
  constructor
  · intro haccepted
    simp only [IsRefused, not_or, not_exists, not_and, not_not] at haccepted
    exact ⟨haccepted.2.1 f hform, exists_covers haccepted.2.2⟩
  · rintro ⟨hfault, range, hrange⟩ (⟨error, herror⟩ | ⟨f', hform', hfault'⟩ | ⟨bounds, hbounds, hinvalid⟩)
    · cases hform.symm.trans herror
    · cases hform.symm.trans hform'
      exact hfault' hfault
    · have hresolve : bounds.resolve = .ok range := by simpa only [Covers, hbounds] using hrange
      obtain ⟨-, error, herror⟩ | ⟨hvalid, -⟩ := bounds.resolve_eq
      · cases hresolve.symm.trans herror
      · exact hvalid hinvalid

end QueryRequest

/-! ## Plays of queries -/

/-- What passes between the service and the querier for a query on a form, and which statements are `kept` then. -/
inductive QueryPlay (q : QueryRequest) (f : Form) (range : TimeRange) (kept : Lru String String) :
    List Exchange → Lru String String → Prop where
  /-- Nothing is executed besides the statements that load the table, and nothing is kept. -/
  | uncompiled {loading table error} (hloading : loading.map Exchange.call <+: loadCalls f.db f.table) :
    QueryPlay q f range kept
      (loading ++ [⟨.compile (f.compile { toVarContext := q.vars, range := some range, table }), .error error⟩]) kept
  /-- Whatever the answer to the statement, it is kept as the compiler gave it if the request has a name. -/
  | compiled {loading table compiled reply} (hloading : loading.map Exchange.call <+: loadCalls f.db f.table) :
    QueryPlay q f range kept
      (loading ++ [⟨.compile (f.compile { toVarContext := q.vars, range := some range, table }), .ok compiled⟩,
        ⟨.execute { db := f.db, sql := substituteTime compiled.sql range, dataPrecision := f.sources }, reply⟩])
      (q.keep compiled.sql kept)

/-- Every play compiles a payload. -/
theorem QueryPlay.exists_compile {q : QueryRequest} {f : Form} {range : TimeRange} {kept kept' : Lru String String}
    {log : List Exchange} (h : QueryPlay q f range kept log kept') :
    ∃ payload reply, ⟨.compile payload, reply⟩ ∈ log := by
  cases h <;> exact ⟨_, _, List.mem_append_right _ List.mem_cons_self⟩

/-- Nothing is compiled to load a table. -/
theorem not_mem_loading {loading : List Exchange} {db table : String} {payload : Payload}
    {answer : (Call.compile payload).Answer} (h : loading.map Exchange.call <+: loadCalls db table) :
    ⟨.compile payload, answer⟩ ∉ loading := by
  intro hmem
  have hcall := h.subset (List.mem_map_of_mem hmem)
  simp [loadCalls] at hcall

/-- The statement that the compiler gives a query with a name is found from then on. -/
theorem QueryPlay.find?_eq_sql {q : QueryRequest} {f : Form} {range : TimeRange} {kept kept' : Lru String String}
    {log : List Exchange} {payload : Payload} {compiled : CompiledQuery} (h : QueryPlay q f range kept log kept')
    (hname : q.requestId ≠ "") (hroom : 0 < kept.capacity) (hcompiled : ⟨.compile payload, .ok compiled⟩ ∈ log) :
    kept'.find? (Service.statementKey q.requestId q.refId) = some compiled.sql := by
  cases h with
  | uncompiled hloading =>
    rcases List.mem_append.mp hcompiled with hmem | hmem
    · exact absurd hmem (not_mem_loading hloading)
    · cases List.mem_singleton.mp hmem
  | compiled hloading =>
    have hkeep : q.keep compiled.sql kept = kept.insert (Service.statementKey q.requestId q.refId) compiled.sql :=
      if_neg (by simpa using hname)
    rcases List.mem_append.mp hcompiled with hmem | hmem
    · exact absurd hmem (not_mem_loading hloading)
    · rcases List.mem_pair.mp hmem with hmem | hmem
      · cases hmem
        rw [hkeep]
        exact Lru.find?_insert_self hroom
      · cases hmem

section Queries

variable {q : QueryRequest} {f : Form} {now : Int} {range : TimeRange} {s s' : Service}

/-- The range of a query is the one that it covers. -/
theorem Action.rangeOf_eq (h : q.Covers now range) : rangeOf now q = pure range := by
  unfold QueryRequest.Covers at h
  unfold rangeOf
  cases hrange : q.range with
  | some bounds =>
    simp only [hrange] at h
    exact congrArg ofExcept h
  | none =>
    simp only [hrange] at h
    exact congrArg pure h.symm

namespace Action

def shapeResult (f : Form) (compiled : CompiledQuery) (result : QueryResult) : Action (List Frame) :=
  match shapeFrames result compiled f with
  | .ok frames => return frames
  | .error e => throw (.querier e)

/-- Keeps a statement and executes it. -/
def executeCompiled (f : Form) (q : QueryRequest) (range : TimeRange) (compiled : CompiledQuery) :
    Action (List Frame) := do
  keepStatement q.requestId q.refId compiled.sql
  let result ← ask (Dialogue.execute
    { db := f.db, sql := substituteTime compiled.sql range, dataPrecision := f.sources })
  shapeResult f compiled result

/-- What follows once a form and a range are accepted. -/
theorem executeForm_eq (hfault : f.fault? = none) (hrange : q.Covers now range) :
    executeForm now f q = (do
      let table ← formTable? f
      let compiled ← ask (Dialogue.compile (f.compile { toVarContext := q.vars, range := some range, table }))
      executeCompiled f q range compiled) := by
  simp only [executeForm, prepare, hfault, rangeOf_eq hrange, pure_bind, bind_assoc]
  rfl

variable {log : List Exchange} {result : Except ServiceError (List Frame)}

/-- Keeping a statement makes no calls. -/
theorem plays_keepStatement {sql : String} {r : Except ServiceError Unit} :
    ((keepStatement q.requestId q.refId sql).perform s).Plays log (r, s') ↔
      log = [] ∧ r = .ok () ∧ s' = { s with statements := q.keep sql s.statements } := by
  have hkeep : (keepStatement q.requestId q.refId sql).perform s = _ :=
    Service.perform_keepStatement (q := ⟨q.requestId, q.refId⟩)
  rw [hkeep, Dialogue.plays_done, Prod.mk.injEq]
  unfold QueryRequest.keep
  cases q.requestId.isEmpty <;> rfl

/-- Shaping a result makes no calls and changes nothing. -/
theorem plays_shapeResult {compiled : CompiledQuery} {answer : QueryResult}
    (h : ((shapeResult f compiled answer).perform s).Plays log (result, s')) : log = [] ∧ s' = s := by
  unfold shapeResult at h
  cases hframes : shapeFrames answer compiled f with
  | ok frames | error error =>
    rw [hframes] at h
    obtain ⟨rfl, hresult⟩ := Dialogue.plays_done.mp h
    cases hresult
    exact ⟨rfl, rfl⟩

/-- A statement is kept before it is executed, and nothing changes after that. -/
theorem plays_executeCompiled {compiled : CompiledQuery}
    (h : ((executeCompiled f q range compiled).perform s).Plays log (result, s')) :
    (∃ reply, log = [⟨.execute
      { db := f.db, sql := substituteTime compiled.sql range, dataPrecision := f.sources }, reply⟩]) ∧
    s'.statements = q.keep compiled.sql s.statements := by
  rcases plays_bind.mp h with ⟨error, hkeep, -⟩ | ⟨_, _, s₁, _, hkeep, hexecute, rfl⟩
  · cases (plays_keepStatement.mp hkeep).2.1
  obtain ⟨rfl, -, rfl⟩ := plays_keepStatement.mp hkeep
  obtain ⟨front, reply, back, hreply, rfl, hshape⟩ := plays_ask_bind hexecute
  obtain rfl := Dialogue.plays_execute.mp hreply
  cases reply with
  | error error =>
    obtain ⟨rfl, rfl⟩ := hshape
    exact ⟨⟨_, rfl⟩, rfl⟩
  | ok answer =>
    obtain ⟨rfl, rfl⟩ := plays_shapeResult hshape
    exact ⟨⟨_, rfl⟩, rfl⟩

/-- The query of an accepted form is played in one of the two ways of a `QueryPlay`. -/
theorem plays_executeForm (hfault : f.fault? = none) (hrange : q.Covers now range)
    (h : ((executeForm now f q).perform s).Plays log (result, s')) :
    QueryPlay q f range s.statements log s'.statements := by
  rw [executeForm_eq hfault hrange] at h
  -- a table that cannot be loaded is none, so this step does not fail
  rcases plays_bind.mp h with ⟨error, htable, -⟩ | ⟨loading, table, s₁, _, htable, hcompile, rfl⟩
  · obtain ⟨⟨_, hfound⟩, -⟩ := plays_table? htable
    cases hfound
  obtain ⟨-, hloading, hkept⟩ := plays_table? htable
  rw [← hkept]
  obtain ⟨front, reply, back, hreply, rfl, hexecute⟩ := plays_ask_bind hcompile
  obtain rfl := Dialogue.plays_compile.mp hreply
  cases reply with
  | error error =>
    obtain ⟨rfl, rfl⟩ := hexecute
    exact .uncompiled hloading
  | ok compiled =>
    obtain ⟨⟨answer, rfl⟩, hstatements⟩ := plays_executeCompiled hexecute
    rw [hstatements]
    exact .compiled hloading

end Action

/-- What answers a request is the response with the result of its action. -/
theorem Service.plays_answer {asked : ServiceRequest} {response : Http.Response} {log : List Exchange} :
    (s.answer now asked).Plays log (response, s') ↔
      ∃ result, ((asked.perform now).perform s).Plays log (result, s') ∧ response = responseOf result := by
  have hanswer : s.answer now asked =
      ((asked.perform now).perform s).bind fun r => .done (responseOf r.1, r.2) := rfl
  rw [hanswer, Dialogue.plays_bind_done]
  constructor
  · rintro ⟨⟨result, t⟩, hresult, hresponse⟩
    cases hresponse
    exact ⟨result, hresult, rfl⟩
  · rintro ⟨result, hresult, rfl⟩
    exact ⟨(result, s'), hresult, rfl⟩

theorem Action.runQuery_eq (hform : formOf q.queryText = .ok f) (happ : f.appType ≠ .appTracingFlame) :
    runQuery now q = executeForm now f q := by
  unfold runQuery
  rw [hform]
  exact if_neg happ

/-- A query that is refused fails at once. -/
theorem Action.perform_runQuery_of_isRefused (hflame : ¬q.IsFlame) (h : q.IsRefused) :
    ∃ error, (runQuery now q).perform s = .done (.error error, s) := by
  cases hform : formOf q.queryText with
  | error error =>
    refine ⟨error, ?_⟩
    unfold runQuery
    rw [hform]
    rfl
  | ok f =>
    rw [runQuery_eq hform fun happ => hflame ⟨f, hform, happ⟩]
    unfold executeForm prepare
    cases hfault : f.fault? with
    | some fault => exact ⟨_, rfl⟩
    | none =>
      rcases h with ⟨error, herror⟩ | ⟨f', hform', hfault'⟩ | ⟨bounds, hbounds, hinvalid⟩
      · cases hform.symm.trans herror
      · cases hform.symm.trans hform'
        exact absurd hfault hfault'
      · rcases bounds.resolve_eq with ⟨-, error, hresolve⟩ | ⟨hvalid, -⟩
        · have hrange : rangeOf now q = throw error := by
            simp only [rangeOf, hbounds, hresolve]
            rfl
          simp only [hrange]
          exact ⟨error, rfl⟩
        · exact absurd hinvalid hvalid

section Requests

variable {r : Http.Request}

/-- What is posted to the path of queries is read as one. -/
theorem ServiceRequest.ofHttp_query (hpath : r.target.segments = ["", "api", "v1", "query"])
    (hpost : r.method = "POST") :
    ofHttp r = query <$> r.json QueryRequest.decoder := by
  have hroute : Route.ofSegments? r.target.segments = some .query := by rw [hpath]; rfl
  have hadmits : Route.query.admits r.method = true := by rw [hpost]; decide
  unfold ofHttp
  rw [hroute]
  exact if_pos hadmits

/-- What is posted as a query is answered as that query. -/
theorem Service.respond_eq_answer (hpath : r.target.segments = ["", "api", "v1", "query"]) (hpost : r.method = "POST")
    (hbody : r.json QueryRequest.decoder = .ok q) : s.respond now r = s.answer now (.query q) := by
  unfold respond
  rw [ServiceRequest.ofHttp_query hpath hpost, hbody, hpost]
  exact Dialogue.bind_done _

end Requests

theorem QueryRequest.not_isFlame (hform : formOf q.queryText = .ok f) (happ : f.appType ≠ .appTracingFlame) :
    ¬q.IsFlame := by
  rintro ⟨f', hform', happ'⟩
  cases hform.symm.trans hform'
  exact happ happ'

end Queries

end PanelQuery
