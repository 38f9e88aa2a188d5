import PanelQuery.Proofs.Service.Actions
import PanelQuery.Proofs.Service.Statements
import PanelQuery.Service.Respond

/-!
# Tables that are kept and tables that are loaded anew

A service whose querier always gives the same answer to a call cannot be told from one that forgets its tables before
each request (`Service.catalog_transparent`): the tables of its catalog are those that would be loaded now
(`Catalog.Agrees`), so an action has the same result in services that differ in such catalogs only (`Action.IsBlind`).
-/

namespace PanelQuery

open Dialogue (loadTable loadCalls)

/-- What answers every call, and the same call always in the same way. -/
abbrev Answers : Type := (c : Call) → c.Answer

variable {u : Answers}

/-! ## Catalogs -/

namespace Catalog

variable {c : Catalog} {db table : String}

/-- All tables of a catalog are as they would be loaded. -/
def Agrees (u : Answers) (c : Catalog) : Prop :=
  ∀ db table held, c.find? (db, table) = some held → (loadTable db table).run.against u = .ok held

theorem agrees_empty (capacity : Nat) : Agrees u (.empty capacity) := fun _ _ _ => nofun

theorem Agrees.touch (h : c.Agrees u) (key : String × String) : Agrees u (Lru.touch c key) :=
  fun _ _ _ hheld => h _ _ _ (Lru.find?_touch.symm.trans hheld)

/-- A table that has just been loaded is as it would be loaded. -/
theorem Agrees.insert (h : c.Agrees u) {loaded : Table} (hload : (loadTable db table).run.against u = .ok loaded) :
    Agrees u (Lru.insert c (db, table) loaded) := by
  intro db' table' held hheld
  have hput := Lru.find?_insert_eq_some hheld
  split at hput
  · next hkey =>
    cases hkey
    cases hput
    exact hload
  · exact h _ _ _ hput

/-- A look-up gives what a load would, and the catalog goes on to agree. -/
theorem Agrees.getOrLoad (h : c.Agrees u) (db table : String) :
    ((c.getOrLoad db table).against u).1 = (loadTable db table).run.against u ∧
      Agrees u ((c.getOrLoad db table).against u).2 := by
  unfold Catalog.getOrLoad
  cases hfound : c.find? (db, table) with
  | some held =>
    simp only [Lru.find?_touch, hfound]
    exact ⟨(h _ _ _ hfound).symm, h.touch _⟩
  | none =>
    simp only [hfound, Lru.touch_of_find?_eq_none hfound]
    refine (congrArg (fun r : Except QuerierError Table × Catalog => r.1 = _ ∧ Agrees u r.2)
      Dialogue.against_bind).mpr ?_
    cases hload : (loadTable db table).run.against u with
    | error error => exact ⟨rfl, h⟩
    | ok loaded => exact ⟨rfl, h.insert hload⟩

end Catalog

/-! ## Actions -/

/-- Services with the same statements, whose tables are all as they would be loaded. -/
structure Service.Alike (u : Answers) (s t : Service) : Prop where
  statements : s.statements = t.statements
  left : s.catalog.Agrees u
  right : t.catalog.Agrees u

theorem Service.Alike.useStatements {s t : Service} (h : s.Alike u t) (use : Lru.Use QueryName String) :
    (s.useStatements use).Alike u (t.useStatements use) :=
  ⟨congrArg (fun kept => kept.use (use.mapKey QueryName.key)) h.statements, h.left, h.right⟩

namespace Action

variable {α β : Type} {x : Action α} {g : α → Action β}

/-- What an action comes to if calls are answered so. -/
def outcome (u : Answers) (x : Action α) (s : Service) : Except ServiceError α × Service := (x.perform s).against u

/-- An action that does not tell the tables that are kept from those that are loaded. -/
def IsBlind (u : Answers) (x : Action α) : Prop :=
  ∀ s t, s.Alike u t → (x.outcome u s).1 = (x.outcome u t).1 ∧ (x.outcome u s).2.Alike u (x.outcome u t).2

theorem IsBlind.done {r : Except ServiceError α} (h : ∀ s, x.perform s = .done (r, s)) : x.IsBlind u := by
  intro s t hst
  unfold outcome
  rw [h, h]
  exact ⟨rfl, hst⟩

theorem isBlind_pure (a : α) : (pure a : Action α).IsBlind u := .done fun _ => rfl

theorem isBlind_throw (error : ServiceError) : (throw error : Action α).IsBlind u := .done fun _ => rfl

theorem isBlind_ofExcept (r : Except ServiceError α) : (ofExcept r).IsBlind u := by
  cases r with
  | ok a => exact isBlind_pure a
  | error error => exact isBlind_throw error

/-- Actions that do not tell catalogs apart do not do so one after another. -/
theorem IsBlind.bind (hx : x.IsBlind u) (hg : ∀ a, (g a).IsBlind u) : (x >>= g).IsBlind u := by
  intro s t hst
  obtain ⟨hresult, hafter⟩ := hx s t hst
  unfold outcome at hresult hafter ⊢
  rw [perform_bind, perform_bind, Dialogue.against_bind, Dialogue.against_bind]
  revert hresult hafter
  generalize (x.perform s).against u = left
  generalize (x.perform t).against u = right
  obtain ⟨r, s₁⟩ := left
  obtain ⟨r', t₁⟩ := right
  rintro rfl hafter
  cases r with
  | error error => exact ⟨rfl, hafter⟩
  | ok a => exact hg a s₁ t₁ hafter

theorem IsBlind.map {h : α → β} (hx : x.IsBlind u) : (h <$> x).IsBlind u := by
  rw [map_eq_pure_bind]
  exact hx.bind fun _ => isBlind_pure _

theorem IsBlind.mapM {h : α → Action β} (hh : ∀ a, (h a).IsBlind u) : ∀ items : List α, (items.mapM h).IsBlind u
  | [] => isBlind_pure _
  | a :: rest => by
    rw [List.mapM_cons]
    exact (hh a).bind fun _ => (IsBlind.mapM hh rest).bind fun _ => isBlind_pure _

/-- Asking the querier does not look at the catalog. -/
theorem isBlind_ask (d : ExceptT QuerierError Dialogue α) : (ask d).IsBlind u := by
  intro s t hst
  unfold outcome
  rw [perform_ask, perform_ask, Dialogue.against_bind, Dialogue.against_bind]
  exact ⟨rfl, hst⟩

/-- Against something that answers the same each time, a table is the same whether it is held or loaded. -/
theorem isBlind_table? (db table : String) : (table? db table).IsBlind u := by
  intro s t hst
  unfold outcome
  rw [perform_table?, perform_table?]
  split
  · exact ⟨rfl, hst⟩
  · rw [Dialogue.against_bind, Dialogue.against_bind]
    obtain ⟨hleft, hagrees⟩ := hst.left.getOrLoad db table
    obtain ⟨hright, hagrees'⟩ := hst.right.getOrLoad db table
    refine ⟨?_, hst.statements, hagrees, hagrees'⟩
    simp only [Dialogue.against_done, hleft, hright]

theorem isBlind_keepStatement (requestId refId sql : String) : (keepStatement requestId refId sql).IsBlind u := by
  intro s t hst
  have hkeep : ∀ s, (keepStatement requestId refId sql).perform s = _ := fun s =>
    Service.perform_keepStatement (q := ⟨requestId, refId⟩)
  unfold outcome
  rw [hkeep, hkeep]
  refine ⟨rfl, ?_⟩
  split
  · exact hst
  · exact hst.useStatements _

theorem isBlind_keptStatement (requestId refId : String) : (keptStatement requestId refId).IsBlind u := by
  intro s t hst
  have hkept : ∀ s, (keptStatement requestId refId).perform s = _ := fun s =>
    Service.perform_keptStatement (q := ⟨requestId, refId⟩)
  unfold outcome
  rw [hkept, hkept, hst.statements]
  exact ⟨rfl, hst.useStatements _⟩

/-! ## Requests -/

theorem isBlind_rangeOf (now : Int) (q : QueryRequest) : (rangeOf now q).IsBlind u := by
  unfold rangeOf
  split
  · exact isBlind_ofExcept _
  · exact isBlind_pure _

theorem isBlind_prepare (now : Int) (f : Form) (q : QueryRequest) : (prepare now f q).IsBlind u := by
  unfold prepare
  cases f.fault? with
  | some fault => exact isBlind_throw _
  | none => exact (isBlind_rangeOf now q).bind fun _ => (isBlind_table? _ _).bind fun _ => isBlind_pure _

theorem isBlind_flame (id : String) (range : TimeRange) : (flame id range).IsBlind u := by
  unfold flame
  refine (isBlind_ask _).bind fun trace => ?_
  refine (IsBlind.mapM (fun tag => (isBlind_ask _).bind fun _ => isBlind_pure _) _).bind fun names => ?_
  refine (isBlind_table? _ _).bind fun table => ?_
  cases table with
  | none => exact isBlind_pure _
  | some table =>
    dsimp only
    split
    · exact isBlind_pure _
    · exact (isBlind_ask _).bind fun _ => isBlind_pure _

theorem isBlind_executeForm (now : Int) (f : Form) (q : QueryRequest) : (executeForm now f q).IsBlind u := by
  refine (isBlind_prepare now f q).bind fun prepared => ?_
  refine (isBlind_ask _).bind fun compiled => ?_
  refine (isBlind_keepStatement _ _ _).bind fun _ => ?_
  refine (isBlind_ask _).bind fun result => ?_
  split
  · exact isBlind_pure _
  · exact isBlind_throw _

theorem isBlind_runQuery (now : Int) (q : QueryRequest) : (runQuery now q).IsBlind u := by
  refine (isBlind_ofExcept _).bind fun f => ?_
  split
  · refine (isBlind_rangeOf now q).bind fun range => ?_
    unfold flameFrames
    split
    · exact isBlind_pure _
    · exact (isBlind_flame _ _).bind fun _ => isBlind_pure _
  · exact isBlind_executeForm now f q

theorem isBlind_editorOptions (request : OptionsRequest) : (editorOptions request).IsBlind u := by
  refine (isBlind_ofExcept _).bind fun f => ?_
  refine (isBlind_ask _).bind fun databases => ?_
  dsimp only
  split
  · exact (isBlind_pure _).bind fun _ => (isBlind_table? _ _).bind fun _ => isBlind_pure _
  · exact (isBlind_ask _).map.bind fun _ => (isBlind_table? _ _).bind fun _ => isBlind_pure _

theorem isBlind_editForm (request : EditRequest) : (editForm request).IsBlind u := by
  refine (isBlind_ofExcept _).bind fun f => ?_
  refine (isBlind_table? _ _).bind fun table => ?_
  cases table <;> exact isBlind_pure _

theorem isBlind_variableOptions (request : VariableRequest) : (variableOptions request).IsBlind u := by
  unfold variableOptions
  split
  · exact isBlind_pure _
  · exact (isBlind_ask _).bind fun _ => isBlind_pure _

theorem isBlind_searchTag (tag : String) (request : TagSearch) : (searchTag tag request).IsBlind u := by
  unfold searchTag
  split
  · exact isBlind_pure _
  · split
    · exact isBlind_throw _
    · exact (isBlind_ask _).bind fun _ => isBlind_pure _

end Action

/-- Nothing that is asked for tells the tables that are kept from those that are loaded. -/
theorem ServiceRequest.isBlind_perform (now : Int) (asked : ServiceRequest) : (asked.perform now).IsBlind u := by
  cases asked with
  | query request => exact (Action.isBlind_runQuery now request).map
  | payload request =>
    refine Action.IsBlind.map ?_
    exact (Action.isBlind_ofExcept _).bind fun f => (Action.isBlind_prepare now f request).bind fun _ =>
      Action.isBlind_pure _
  | statement requestId refId => exact (Action.isBlind_keptStatement _ _).bind fun _ => Action.isBlind_pure _
  | relationship request =>
    refine Action.IsBlind.bind ?_ fun _ => Action.isBlind_pure _
    exact (Action.isBlind_ofExcept _).bind fun _ => Action.isBlind_pure _
  | editorOptions request => exact (Action.isBlind_editorOptions request).map
  | editorEdit request => exact (Action.isBlind_editForm request).map
  | variableOptions request => exact (Action.isBlind_variableOptions request).bind fun _ => Action.isBlind_pure _
  | tagValues tag request => exact (Action.isBlind_searchTag tag request).bind fun _ => Action.isBlind_pure _
  | health =>
    refine Action.IsBlind.bind ?_ fun _ => Action.isBlind_pure _
    exact (Action.isBlind_ask _).bind fun _ => Action.isBlind_pure _

/-! ## Services -/

namespace Service

variable {s t : Service}

/-- A request is answered by what its action comes to. -/
theorem against_answer (now : Int) (asked : ServiceRequest) : (s.answer now asked).against u =
    (responseOf ((asked.perform now).outcome u s).1, ((asked.perform now).outcome u s).2) :=
  Dialogue.against_bind

/-- One request: the responses are the same, and so they will be. -/
theorem Alike.respond (h : s.Alike u t) (now : Int) (r : Http.Request) :
    ((s.respond now r).against u).1 = ((t.respond now r).against u).1 ∧
      ((s.respond now r).against u).2.Alike u ((t.respond now r).against u).2 := by
  unfold Service.respond
  cases ServiceRequest.ofHttp r with
  | error rejection => exact ⟨rfl, h⟩
  | ok asked =>
    obtain ⟨hresult, hafter⟩ := ServiceRequest.isBlind_perform now asked s t h
    refine (congrArg₂ (fun x y : Http.Response × Service => x.1 = y.1 ∧ x.2.Alike u y.2)
      Dialogue.against_bind Dialogue.against_bind).mpr ?_
    rw [against_answer, against_answer, hresult]
    exact ⟨rfl, hafter⟩

/-- The responses to requests at their times, in order, by a service that something is done to before each of them. -/
def serve (u : Answers) (before : Service → Service) : Service → List (Int × Http.Request) → List Http.Response
  | _, [] => []
  | s, (now, r) :: later =>
    let (response, s) := ((before s).respond now r).against u
    response :: serve u before s later

def forgetTables (s : Service) : Service := { s with catalog := .empty s.catalog.capacity }

/-- All requests. -/
theorem Alike.serve (h : s.Alike u t) (requests : List (Int × Http.Request)) :
    Service.serve u id s requests = Service.serve u forgetTables t requests := by
  induction requests generalizing s t with
  | nil => rfl
  | cons request later ih =>
    obtain ⟨now, r⟩ := request
    -- the left service keeps what it has loaded, the right one starts without tables: both agree with the answers
    have hforgotten : s.Alike u t.forgetTables := ⟨h.statements, h.left, Catalog.agrees_empty _⟩
    obtain ⟨hresponse, hafter⟩ := hforgotten.respond now r
    exact congrArg₂ List.cons hresponse (ih hafter)

/-- **The catalog does not show.** Whatever answers its calls, if it always answers the same call in the same way, a
service responds to requests like one that loads its tables anew for each of them, however many tables it may keep. A
table that is held is not asked for, and a load that fails at any of its statements leaves the catalog as it was. -/
theorem catalog_transparent (u : Answers) (statementCapacity tableCapacity : Nat)
    (requests : List (Int × Http.Request)) :
    serve u id (.new statementCapacity tableCapacity) requests =
      serve u forgetTables (.new statementCapacity tableCapacity) requests ∧
    ∀ (c c' : Catalog) db table log result, (c.getOrLoad db table).Plays log (result, c') →
      (log = [] ↔ ∃ held, c.find? (db, table) = some held) ∧ log.map Exchange.call <+: loadCalls db table ∧
        ((∃ e ∈ log, e.IsFailure) → c' = c) := by
  refine ⟨Alike.serve ⟨rfl, Catalog.agrees_empty _, Catalog.agrees_empty _⟩ requests, ?_⟩
  exact fun _ _ _ _ _ _ h => Catalog.calls_getOrLoad h

/-- A load that fails at its second statement keeps the catalog as it was, with another table. -/
theorem catalog_transparent_failing :
    let c : Catalog := ⟨1, [(("d", "other"), ⟨[], [], []⟩)]⟩
    let log : List Exchange := [⟨.execute { db := "d", sql := "show tags from t" }, .ok ⟨["name"], []⟩⟩,
      ⟨.execute { db := "d", sql := "show metrics from t" }, .error .transport⟩]
    (c.getOrLoad "d" "t").Plays log (.error .transport, c) ∧ log.map Exchange.call <+: loadCalls "d" "t" ∧
      ∀ c', (c.getOrLoad "d" "t").Plays log (.error .transport, c') → c' = c := by
  intro c log
  have hmissing : c.find? ("d", "t") = none := by decide
  have hplays : (c.getOrLoad "d" "t").Plays log (.error .transport, c) := by
    rw [Catalog.plays_getOrLoad, hmissing]
    exact ⟨.ask (.ask (.done _)), rfl⟩
  have hfailure : ∃ e ∈ log, e.IsFailure := ⟨_, List.mem_cons_of_mem _ List.mem_cons_self, .transport, rfl⟩
  have hcatalog := (catalog_transparent (fun _ => .error .transport) 1 1 []).2 c
  exact ⟨hplays, (hcatalog c "d" "t" _ _ hplays).2.1, fun c' h => (hcatalog c' "d" "t" _ _ h).2.2 hfailure⟩

end Service

end PanelQuery
