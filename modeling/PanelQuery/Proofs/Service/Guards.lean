import PanelQuery.Proofs.Service.Names
import PanelQuery.Proofs.Service.Queries

/-!
# Which names reach a statement

A search for the values of a tag is refused unless the tag and the table are identifiers; the table of a form is
looked up whatever it is called. So the calls for a request are guarded exactly if the table that is looked up for it
has an identifier for a name and, where the options of a variable are asked for, its statement names nothing else
(`Service.isGuarded_iff`). An action is guarded if its steps are (`Action.IsGuarded.bind`); that another one is not is
shown by a play in which the table is looked up (`Action.Reaches`).
-/

namespace PanelQuery

open PanelQuery.Action (isIdentifier)

/-! ## Actions -/

/-- Whether the name of the table that a form looks up is an identifier. -/
def Form.IsGuarded (f : Form) : Prop := f.db = "" ∨ f.table = "" ∨ isIdentifier f.table = true

namespace Action

variable {α β : Type} {x : Action α} {g : α → Action β} {s t : Service} {c : Call} {f : Form} {q : QueryRequest}

/-- Whether what an action executes names identifiers only, whatever it is answered. -/
def IsGuarded (x : Action α) : Prop :=
  ∀ s log result s', (x.perform s).Plays log (result, s') → PanelQuery.IsGuarded log

theorem IsGuarded.done (h : ∀ s, ∃ r, x.perform s = .done r) : x.IsGuarded := by
  intro s log result s' hplays
  obtain ⟨r, hr⟩ := h s
  rw [hr] at hplays
  obtain ⟨rfl, -⟩ := Dialogue.plays_done.mp hplays
  exact isGuarded_nil

theorem isGuarded_pure (a : α) : (pure a : Action α).IsGuarded := .done fun _ => ⟨_, rfl⟩

theorem isGuarded_throw (error : ServiceError) : (throw error : Action α).IsGuarded := .done fun _ => ⟨_, rfl⟩

theorem isGuarded_ofExcept (r : Except ServiceError α) : (ofExcept r).IsGuarded := by
  cases r with
  | ok a => exact isGuarded_pure a
  | error error => exact isGuarded_throw error

/-- Actions that are guarded are guarded one after another. -/
theorem IsGuarded.bind (hx : x.IsGuarded) (hg : ∀ a, (g a).IsGuarded) : (x >>= g).IsGuarded := by
  intro s log result s' hplays
  rcases plays_bind.mp hplays with ⟨_, hfront, -⟩ | ⟨front, a, t, back, hfront, hback, rfl⟩
  · exact hx _ _ _ _ hfront
  · exact (hx _ _ _ _ hfront).append (hg a _ _ _ _ hback)

theorem isGuarded_map {h : α → β} : (h <$> x).IsGuarded ↔ x.IsGuarded := by
  refine ⟨fun hmap s log result s' hplays => ?_, fun hx s log result s' hplays => ?_⟩
  · exact hmap s log _ s' (plays_map.mpr ⟨result, hplays, rfl⟩)
  · obtain ⟨_, hplays', -⟩ := plays_map.mp hplays
    exact hx _ _ _ _ hplays'

theorem IsGuarded.mapM {h : α → Action β} : ∀ {items : List α}, (∀ a ∈ items, (h a).IsGuarded) →
    (items.mapM h).IsGuarded
  | [], _ => isGuarded_pure _
  | a :: rest, hh => by
    rw [List.mapM_cons]
    exact (hh a List.mem_cons_self).bind fun _ =>
      (IsGuarded.mapM fun b hb => hh b (List.mem_cons_of_mem a hb)).bind fun _ => isGuarded_pure _

/-- Asking the querier is guarded if its calls are. -/
theorem isGuarded_ask {d : ExceptT QuerierError Dialogue α}
    (h : ∀ log reply, d.run.Plays log reply → PanelQuery.IsGuarded log) : (ask d).IsGuarded := by
  intro s log result s' hplays
  obtain ⟨reply, hreply, -⟩ := plays_ask.mp hplays
  exact h log reply hreply

/-- Loading a table is guarded if the name of the table is an identifier. -/
theorem isGuarded_table? {db table : String} (h : isIdentifier table = true) : (table? db table).IsGuarded :=
  fun _ _ _ _ hplays => isGuarded_loading h (plays_table? hplays).2.1

theorem isGuarded_formTable? (h : f.IsGuarded) : (formTable? f).IsGuarded := by
  obtain hdb | htable | hname := h
  · exact .done fun s => ⟨_, perform_table?.trans (by rw [hdb]; rfl)⟩
  · exact .done fun s => ⟨_, perform_table?.trans (by rw [htable, Bool.or_comm]; rfl)⟩
  · exact isGuarded_table? hname

theorem isGuarded_rangeOf {now : Int} : (rangeOf now q).IsGuarded := by
  unfold rangeOf
  split
  · exact isGuarded_ofExcept _
  · exact isGuarded_pure _

/-! ## Calls that are made -/

/-- Whether an action may make a call while nothing is compiled. -/
def Reaches (x : Action α) (s : Service) (c : Call) : Prop :=
  ∃ log result s', (x.perform s).Plays log (result, s') ∧ c ∈ log.map Exchange.call ∧ ∀ sql, ¬IsCompiled log sql

/-- What the second of two actions calls is reached by both. -/
theorem reaches_bind {a : α} {front back : List Exchange} {result : Except ServiceError β} {s' : Service}
    (hfront : (x.perform s).Plays front (.ok a, t)) (hback : ((g a).perform t).Plays back (result, s'))
    (hmem : c ∈ front.map Exchange.call ∨ c ∈ back.map Exchange.call)
    (hcompiled : ∀ sql, ¬IsCompiled front sql ∧ ¬IsCompiled back sql) : (x >>= g).Reaches s c := by
  refine ⟨front ++ back, result, s', plays_bind.mpr (.inr ⟨front, a, t, back, hfront, hback, rfl⟩), ?_, fun sql => ?_⟩
  · rwa [List.map_append, List.mem_append]
  · exact isCompiled_append.not.mpr (not_or.mpr (hcompiled sql))

/-- What follows may be refused everything. -/
theorem Reaches.bind_left (h : x.Reaches s c) : (x >>= g).Reaches s c := by
  obtain ⟨front, result, t, hfront, hmem, hcompiled⟩ := h
  cases result with
  | error error => exact ⟨front, _, t, plays_bind.mpr (.inl ⟨error, hfront, rfl⟩), hmem, hcompiled⟩
  | ok a =>
    obtain ⟨back, ⟨result, s'⟩, hback, hcompiled'⟩ := Dialogue.exists_plays_refused ((g a).perform t)
    exact reaches_bind hfront hback (.inl hmem) fun sql => ⟨hcompiled sql, hcompiled' sql⟩

theorem Reaches.bind_right {a : α} {front : List Exchange} (hfront : (x.perform s).Plays front (.ok a, t))
    (hcompiled : ∀ sql, ¬IsCompiled front sql) (h : (g a).Reaches t c) : (x >>= g).Reaches s c := by
  obtain ⟨back, result, s', hback, hmem, hcompiled'⟩ := h
  exact reaches_bind hfront hback (.inr hmem) fun sql => ⟨hcompiled sql, hcompiled' sql⟩

/-- The tags of a table that is not held are asked for first. -/
theorem reaches_formTable? (hdb : f.db ≠ "") (htable : f.table ≠ "")
    (hmissing : s.catalog.find? (f.db, f.table) = none) :
    (formTable? f).Reaches s (.execute { db := f.db, sql := "show tags from " ++ f.table }) := by
  refine ⟨[⟨_, .error .transport⟩], .ok none, s, ?_, List.mem_cons_self, fun _ => not_isCompiled_executed⟩
  unfold formTable?
  rw [perform_table?, if_neg (by simp [hdb, htable])]
  refine Dialogue.plays_bind_done.mpr ⟨(.error .transport, s.catalog), ?_, rfl⟩
  rw [Catalog.plays_getOrLoad, hmissing]
  exact ⟨.ask (.done _), rfl⟩

/-- An action that may load the table of a form is guarded only if the form is. -/
theorem IsGuarded.form (hx : x.IsGuarded)
    (h : ∀ {s : Service} {c : Call}, (formTable? f).Reaches s c → x.Reaches s c) : f.IsGuarded := by
  by_cases hdb : f.db = ""
  · exact .inl hdb
  by_cases htable : f.table = ""
  · exact .inr (.inl htable)
  obtain ⟨log, result, s', hplays, hmem, hcompiled⟩ := h (reaches_formTable? (s := .new 1 1) hdb htable rfl)
  have hnames := (hx _ _ _ _ hplays _ hmem).resolve_right (hcompiled _)
  exact .inr (.inr ((namesIdentifiers_table (.inl rfl)).mp hnames))

/-! ## Requests -/

section Queries

variable {now : Int}

/-- What is prepared for a query that is accepted. -/
theorem prepare_eq {range : TimeRange} (hfault : f.fault? = none) (hrange : q.Covers now range) :
    prepare now f q = (do
      let table ← formTable? f
      return (f.compile { toVarContext := q.vars, range := some range, table }, range)) := by
  simp only [prepare, hfault, rangeOf_eq hrange, pure_bind]

/-- Preparing a form that is accepted reaches what loading its table does. -/
theorem Reaches.prepare (h : (formTable? f).Reaches s c) (hform : formOf q.queryText = .ok f)
    (haccepted : ¬q.IsRefused) : (prepare now f q).Reaches s c := by
  obtain ⟨hfault, range, hrange⟩ := (QueryRequest.not_isRefused_iff now hform).mp haccepted
  rw [prepare_eq hfault hrange]
  exact h.bind_left

/-- Bounds that are no range end a query with an error. -/
theorem exists_covers_or_throw (now : Int) (q : QueryRequest) :
    (∃ range, q.Covers now range) ∨ ∃ error, rangeOf now q = throw error := by
  simp only [QueryRequest.Covers, rangeOf]
  cases q.range with
  | none => exact .inl ⟨_, rfl⟩
  | some bounds =>
    dsimp only
    cases bounds.resolve with
    | ok range => exact .inl ⟨range, rfl⟩
    | error error => exact .inr ⟨error, rfl⟩

/-- Preparing is guarded if the table of an accepted form is. -/
theorem isGuarded_prepare (h : f.fault? = none → ∀ range, q.Covers now range → f.IsGuarded) :
    (prepare now f q).IsGuarded := by
  cases hfault : f.fault? with
  | some fault =>
    simp only [prepare, hfault]
    exact isGuarded_throw _
  | none =>
    obtain ⟨range, hrange⟩ | ⟨error, herror⟩ := exists_covers_or_throw now q
    · rw [prepare_eq hfault hrange]
      exact (isGuarded_formTable? (h hfault range hrange)).bind fun _ => isGuarded_pure _
    · simp only [prepare, hfault, herror]
      exact .done fun _ => ⟨_, rfl⟩

theorem Reaches.queryPayload (h : (formTable? f).Reaches s c) (hform : formOf q.queryText = .ok f)
    (haccepted : ¬q.IsRefused) : (queryPayload now q).Reaches s c := by
  unfold Action.queryPayload
  rw [hform]
  exact (h.prepare hform haccepted).bind_left

/-- Compiling a payload and executing the query. -/
theorem isGuarded_executeCompiled (payload : Payload) (range : TimeRange) :
    (ask (Dialogue.compile payload) >>= executeCompiled f q range).IsGuarded := by
  intro s log result s' hplays
  obtain ⟨front, reply, back, hreply, rfl, hrest⟩ := plays_ask_bind hplays
  obtain rfl := Dialogue.plays_compile.mp hreply
  cases reply with
  | error error =>
    obtain ⟨rfl, -⟩ := hrest
    exact isGuarded_compiling
  | ok compiled =>
    obtain ⟨⟨reply, rfl⟩, -⟩ := plays_executeCompiled hrest
    exact isGuarded_compiled (.inr ⟨range, rfl⟩)

/-- What is prepared is guarded, with all that follows, if the form of a query that is accepted is. -/
theorem isGuarded_prepare_bind_iff {g : Payload × TimeRange → Action α} (hform : formOf q.queryText = .ok f)
    (hg : ∀ prepared, (g prepared).IsGuarded) :
    (prepare now f q >>= g).IsGuarded ↔ (¬q.IsRefused → f.IsGuarded) := by
  constructor
  · intro hx haccepted
    exact hx.form fun h => (h.prepare hform haccepted).bind_left
  · intro h
    refine (isGuarded_prepare fun hfault range hrange => ?_).bind hg
    exact h ((QueryRequest.not_isRefused_iff now hform).mpr ⟨hfault, range, hrange⟩)

/-- The frame of a trace looks up one table, under its own name. -/
theorem isGuarded_flame (id : String) (range : TimeRange) : (flame id range).IsGuarded := by
  unfold flame
  refine (isGuarded_ask fun log reply htrace => ?_).bind fun trace => ?_
  · obtain rfl := Dialogue.plays_call.mp htrace
    exact fun _ hst => nomatch List.mem_singleton.mp hst
  refine (IsGuarded.mapM fun tag htag => ?_).bind fun names => ?_
  · refine (isGuarded_ask fun _ _ => ?_).bind fun _ => isGuarded_pure _
    have hnames : ∀ tag ∈ Flame.namedTags, isIdentifier tag = true := by decide
    exact Dialogue.isGuarded_reading (namesIdentifiers_values (hnames tag htag) (by decide))
  refine (isGuarded_table? (by decide)).bind fun table => ?_
  cases table with
  | none => exact isGuarded_pure _
  | some table =>
    dsimp only
    split
    · exact isGuarded_pure _
    · exact (isGuarded_ask fun _ _ => Dialogue.isGuarded_spanDetails).bind fun _ => isGuarded_pure _

theorem isGuarded_flameFrames (range : TimeRange) : (flameFrames f range).IsGuarded := by
  unfold flameFrames
  split
  · exact isGuarded_pure _
  · exact (isGuarded_flame _ _).bind fun _ => isGuarded_pure _

/-- The query of a trace asks for its spans. -/
theorem runQuery_flame (hform : formOf q.queryText = .ok f) (happ : f.appType = .appTracingFlame) :
    runQuery now q = rangeOf now q >>= flameFrames f := by
  unfold runQuery
  rw [hform]
  exact if_pos happ

/-- A query is guarded exactly if its form is, unless it is refused or for a trace. -/
theorem isGuarded_runQuery_iff : (runQuery now q).IsGuarded ↔
    ∀ f, formOf q.queryText = .ok f → f.appType ≠ .appTracingFlame → ¬q.IsRefused → f.IsGuarded := by
  cases hform : formOf q.queryText with
  | error error =>
    refine iff_of_true (.done fun s => ⟨(.error error, s), ?_⟩) fun _ => nofun
    unfold runQuery
    rw [hform]
    rfl
  | ok f =>
    simp only [Except.ok.injEq, forall_eq']
    by_cases happ : f.appType = .appTracingFlame
    · rw [runQuery_flame hform happ]
      exact iff_of_true (isGuarded_rangeOf.bind isGuarded_flameFrames) fun happ' => absurd happ happ'
    · rw [runQuery_eq hform happ]
      refine (isGuarded_prepare_bind_iff hform fun prepared => ?_).trans ⟨fun h _ => h, fun h => h happ⟩
      exact isGuarded_executeCompiled prepared.1 prepared.2

/-- Compiling is guarded exactly if the form is, unless it is refused. -/
theorem isGuarded_queryPayload_iff : (queryPayload now q).IsGuarded ↔
    ∀ f, formOf q.queryText = .ok f → ¬q.IsRefused → f.IsGuarded := by
  unfold queryPayload
  cases hform : formOf q.queryText with
  | error error => exact iff_of_true (.done fun _ => ⟨_, rfl⟩) fun _ => nofun
  | ok f =>
    simp only [Except.ok.injEq, forall_eq']
    exact isGuarded_prepare_bind_iff hform fun _ => isGuarded_pure _

end Queries

section Editor

/-- What looks up the table of a form is guarded, with all that follows, if the form is. -/
theorem isGuarded_formTable?_bind_iff {g : Option Table → Action α} (hg : ∀ table, (g table).IsGuarded) :
    (formTable? f >>= g).IsGuarded ↔ f.IsGuarded :=
  ⟨fun hx => hx.form Reaches.bind_left, fun h => (isGuarded_formTable? h).bind hg⟩

/-- An edit is guarded exactly if the form that it makes is. -/
theorem isGuarded_editForm_iff {request : EditRequest} : (editForm request).IsGuarded ↔
    ∀ f, formOf request.queryText = .ok f → (f.apply request.edit).IsGuarded := by
  unfold editForm
  cases hform : formOf request.queryText with
  | error error => exact iff_of_true (.done fun _ => ⟨_, rfl⟩) fun _ => nofun
  | ok f =>
    simp only [Except.ok.injEq, forall_eq']
    exact isGuarded_formTable?_bind_iff fun table => by cases table <;> exact isGuarded_pure _

theorem isGuarded_databases : (ask Dialogue.databases).IsGuarded :=
  isGuarded_ask fun _ _ => Dialogue.isGuarded_reading (namesIdentifiers_unnamed (by simp))

theorem isGuarded_tables (db : String) : (ask (Dialogue.tables db)).IsGuarded :=
  isGuarded_ask fun _ _ => Dialogue.isGuarded_reading (namesIdentifiers_unnamed (by simp))

theorem plays_ask_reading {st : Statement} {h : QueryResult → α} (answer : QueryResult) :
    ((ask (do return h (← Dialogue.execute st))).perform s).Plays [⟨.execute st, .ok answer⟩] (.ok (h answer), s) :=
  plays_ask.mpr ⟨.ok (h answer), .ask (.done _), rfl, rfl⟩

/-- Listing what the editor offers is guarded exactly if the form is. -/
theorem isGuarded_editorOptions_iff {request : OptionsRequest} : (editorOptions request).IsGuarded ↔
    ∀ f, formOf request.queryText = .ok f → f.IsGuarded := by
  unfold editorOptions
  cases hform : formOf request.queryText with
  | error error => exact iff_of_true (.done fun _ => ⟨_, rfl⟩) fun _ => nofun
  | ok f =>
    have hread : ofExcept (.ok f) = (pure f : Action Form) := rfl
    simp only [Except.ok.injEq, forall_eq', hread, pure_bind]
    constructor
    · -- the databases and the tables are asked for before the table of the form
      refine fun hx => hx.form fun h => ?_
      refine .bind_right (plays_ask_reading .empty) (fun _ => not_isCompiled_executed) ?_
      split
      · exact h.bind_left
      · exact .bind_right (plays_map.mpr ⟨_, plays_ask_reading .empty, rfl⟩)
          (fun _ => not_isCompiled_executed) h.bind_left
    · intro h
      refine isGuarded_databases.bind fun databases => ?_
      split
      · exact (isGuarded_formTable? h).bind fun _ => isGuarded_pure _
      · refine (isGuarded_map.mpr (isGuarded_tables _)).bind fun _ => ?_
        exact (isGuarded_formTable? h).bind fun _ => isGuarded_pure _

end Editor

/-- Listing the options of a variable is guarded exactly if the interpolated statement is. -/
theorem isGuarded_variableOptions_iff {request : VariableRequest} : (variableOptions request).IsGuarded ↔
    request.database = "" ∨ request.sql = "" ∨ NamesIdentifiers (request.vars.interpolate request.sql) := by
  unfold variableOptions
  split
  · next hempty =>
    refine iff_of_true (isGuarded_pure _) ?_
    simp only [Bool.or_eq_true, String.isEmpty_iff] at hempty
    exact hempty.imp_right .inl
  · next hempty =>
    simp only [Bool.or_eq_true, String.isEmpty_iff, not_or] at hempty
    rw [or_iff_right hempty.1, or_iff_right hempty.2]
    constructor
    · intro hx
      have hplays := hx (.new 1 1) [⟨_, .error .transport⟩] _ _ (.ask (.done _)) _ List.mem_cons_self
      exact hplays.resolve_right not_isCompiled_executed
    · intro h
      refine (isGuarded_ask fun log reply hplays => ?_).bind fun _ => isGuarded_pure _
      obtain rfl := Dialogue.plays_execute.mp hplays
      exact isGuarded_executed h

/-- A search for tag values is guarded whatever is searched for. -/
theorem isGuarded_searchTag (tag : String) (request : TagSearch) : (searchTag tag request).IsGuarded := by
  unfold searchTag
  split
  · exact isGuarded_pure _
  · split
    · exact isGuarded_throw _
    · next hnames =>
      simp only [Bool.not_eq_true', Bool.not_eq_false, Bool.and_eq_true] at hnames
      refine (isGuarded_ask fun _ _ => ?_).bind fun _ => isGuarded_pure _
      exact Dialogue.isGuarded_reading (namesIdentifiers_values hnames.1 hnames.2)

theorem isGuarded_keptStatement (requestId refId : String) : (keptStatement requestId refId).IsGuarded := by
  refine .done fun s => ?_
  rw [Service.perform_keptStatement (q := ⟨requestId, refId⟩)]
  exact ⟨_, rfl⟩

end Action

/-- Whether the names that come with a request, as far as it takes them into statements, are identifiers: that of the
table that is looked up, or those in the statement of a variable. -/
def ServiceRequest.IsGuarded : ServiceRequest → Prop
  | query q => ∀ f, formOf q.queryText = .ok f → f.appType ≠ .appTracingFlame → ¬q.IsRefused → f.IsGuarded
  | payload q => ∀ f, formOf q.queryText = .ok f → ¬q.IsRefused → f.IsGuarded
  | editorOptions request => ∀ f, formOf request.queryText = .ok f → f.IsGuarded
  | editorEdit request => ∀ f, formOf request.queryText = .ok f → (f.apply request.edit).IsGuarded
  | variableOptions request =>
    request.database = "" ∨ request.sql = "" ∨ NamesIdentifiers (request.vars.interpolate request.sql)
  | statement _ _ | relationship _ | tagValues _ _ | health => True

/-- What a request does is guarded exactly if the request is. -/
theorem ServiceRequest.isGuarded_perform_iff (now : Int) (asked : ServiceRequest) :
    (asked.perform now).IsGuarded ↔ asked.IsGuarded := by
  cases asked with
  | query q => exact Action.isGuarded_map.trans Action.isGuarded_runQuery_iff
  | payload q => exact Action.isGuarded_map.trans Action.isGuarded_queryPayload_iff
  | editorOptions request => exact Action.isGuarded_map.trans Action.isGuarded_editorOptions_iff
  | editorEdit request => exact Action.isGuarded_map.trans Action.isGuarded_editForm_iff
  | variableOptions request => exact Action.isGuarded_map.trans Action.isGuarded_variableOptions_iff
  | statement requestId refId =>
    exact iff_of_true ((Action.isGuarded_keptStatement _ _).bind fun _ => Action.isGuarded_pure _) trivial
  | relationship request =>
    refine iff_of_true (Action.IsGuarded.bind ?_ fun _ => Action.isGuarded_pure _) trivial
    exact (Action.isGuarded_ofExcept _).bind fun _ => Action.isGuarded_pure _
  | tagValues tag request =>
    exact iff_of_true ((Action.isGuarded_searchTag _ _).bind fun _ => Action.isGuarded_pure _) trivial
  | health =>
    refine iff_of_true (Action.IsGuarded.bind ?_ fun _ => Action.isGuarded_pure _) trivial
    exact Action.isGuarded_databases.bind fun _ => Action.isGuarded_pure _

namespace Service

variable {now : Int} {r : Http.Request} {asked : ServiceRequest} {s : Service} {log : List Exchange}

/-- The exchanges of a response are those of what is asked for. -/
theorem exists_plays_respond_iff (hasked : ServiceRequest.ofHttp r = .ok asked) :
    (∃ response s', (s.respond now r).Plays log (response, s')) ↔
      ∃ result s', ((asked.perform now).perform s).Plays log (result, s') := by
  have hrespond : s.respond now r = (s.answer now asked).bind fun p =>
      .done (if r.method == "HEAD" then { p.1 with body := none } else p.1, p.2) := by
    unfold respond
    rw [hasked]
    rfl
  rw [hrespond]
  constructor
  · rintro ⟨_, s', hplays⟩
    obtain ⟨⟨response, t⟩, hanswer, -⟩ := Dialogue.plays_bind_done.mp hplays
    obtain ⟨result, hresult, -⟩ := plays_answer.mp hanswer
    exact ⟨result, t, hresult⟩
  · rintro ⟨result, s', hplays⟩
    exact ⟨_, s', Dialogue.plays_bind_done.mpr ⟨(_, s'), plays_answer.mpr ⟨result, hplays, rfl⟩, rfl⟩⟩

/-- **Which names reach a statement.** Whatever a service holds and whatever its calls are answered, the statements with
which it responds to a request name identifiers only, the queries of the compiler apart, exactly if what is asked for
brings no other names along: as the table of a form that is looked up, or in the statement of a variable. Searching for
the values of a tag never does. -/
theorem isGuarded_iff (now : Int) (r : Http.Request) :
    (∀ (s : Service) log response s', (s.respond now r).Plays log (response, s') → IsGuarded log) ↔
      ∀ asked, ServiceRequest.ofHttp r = .ok asked → asked.IsGuarded := by
  cases hasked : ServiceRequest.ofHttp r with
  | error rejection =>
    refine iff_of_true (fun s log response s' hplays => ?_) fun _ => nofun
    unfold respond at hplays
    rw [hasked] at hplays
    obtain ⟨rfl, -⟩ := Dialogue.plays_done.mp hplays
    exact isGuarded_nil
  | ok asked =>
    simp only [Except.ok.injEq, forall_eq', ← asked.isGuarded_perform_iff now]
    constructor
    · intro h s log result s' hplays
      obtain ⟨response, t, hrespond⟩ := (exists_plays_respond_iff hasked).mpr ⟨result, s', hplays⟩
      exact h s log response t hrespond
    · intro h s log response s' hplays
      obtain ⟨result, t, hresult⟩ := (exists_plays_respond_iff hasked).mp ⟨response, s', hplays⟩
      exact h s log result t hresult

/-- The table of a form that is posted is put into a statement with all that stands in it. -/
theorem isGuarded_not :
    let posted : Http.Request := ⟨"POST", ⟨"/api/v1/query/params", ""⟩, some "application/json",
      "\x7b\"queryText\": \x7b\"db\": \"flow_log\", \"from\": \"l7_flow_log; drop table x\"\x7d\x7d"⟩
    ∃ log response s', ((Service.new 1 1).respond 0 posted).Plays log (response, s') ∧
      .execute { db := "flow_log", sql := "show tags from l7_flow_log; drop table x" } ∈ log.map Exchange.call ∧
      ¬IsGuarded log := by
  intro posted
  let f : Form := { Form.new .trafficQuery with db := "flow_log", table := "l7_flow_log; drop table x" }
  have hread : (posted.json QueryRequest.decoder).map (fun q => (formOf q.queryText, q.range)) =
      .ok (.ok f, none) := by
    decide +kernel
  obtain ⟨q, hbody, hread⟩ := map_eq_ok_iff.mp hread
  obtain ⟨hform, hrange⟩ : formOf q.queryText = .ok f ∧ q.range = none := by simpa using hread
  have hasked : ServiceRequest.ofHttp posted = .ok (.payload q) := by
    have hroute : Route.ofSegments? posted.target.segments = some .payload := by decide +kernel
    simp only [ServiceRequest.ofHttp, hroute, ServiceRequest.ofRoute, hbody]
    rfl
  have haccepted : ¬q.IsRefused := by
    refine (QueryRequest.not_isRefused_iff 0 hform).mpr ⟨by decide, ?_⟩
    exact QueryRequest.exists_covers (by simp [hrange])
  have hlookup := Action.reaches_formTable? (s := .new 1 1) (f := f) (by decide) (by decide) rfl
  have hpayload : (Action.queryPayload 0 q).Reaches (.new 1 1) _ := hlookup.queryPayload hform haccepted
  obtain ⟨log, result, s', hplays, hmem, hcompiled⟩ := hpayload
  obtain ⟨response, t, hrespond⟩ :=
    (exists_plays_respond_iff hasked).mpr ⟨_, s', Action.plays_map.mpr ⟨result, hplays, rfl⟩⟩
  refine ⟨log, response, t, hrespond, hmem, fun hguarded => ?_⟩
  have hnames := (hguarded _ hmem).resolve_right (hcompiled _)
  exact absurd ((namesIdentifiers_table (.inl rfl)).mp hnames) (by decide)

end Service
end PanelQuery
