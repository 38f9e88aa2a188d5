import PanelQuery.Proofs.Querier.Plays
import PanelQuery.Service.Basic

/-!
# Actions, step by step

What an action does in a state, as a dialogue: one action after another (`Action.perform_bind`), a question to the
querier (`Action.perform_ask`) and a table that is looked up (`Action.perform_table?`). From these come the plays of an
action: a failed step is the last one (`Action.plays_bind`), and looking a table up never fails, asks for nothing but
that table and leaves the statements alone (`Action.plays_table?`).
-/

namespace PanelQuery
namespace Action

open Dialogue

variable {α β : Type} {x : Action α} {g : α → Action β} {s s' : Service} {log : List Exchange}

/-! ## Steps -/

/-- What follows a step: the rest of the action, unless the step failed. -/
def thenDo (g : α → Action β) : Except ServiceError α × Service → Dialogue (Except ServiceError β × Service)
  | (.ok a, s) => (g a).perform s
  | (.error error, s) => .done (.error error, s)

/-- One action after another is one dialogue after another, in the state that the first leaves. -/
theorem perform_bind : (x >>= g).perform s = (x.perform s).bind (thenDo g) := by
  refine congrArg (Dialogue.bind (x.perform s)) (funext ?_)
  rintro ⟨_ | _, _⟩ <;> rfl

theorem perform_map {h : α → β} : (h <$> x).perform s = (x.perform s).bind fun r => .done (r.1.map h, r.2) := by
  refine congrArg (Dialogue.bind (x.perform s)) (funext ?_)
  rintro ⟨_ | _, _⟩ <;> rfl

theorem perform_liftM {d : Dialogue α} : (liftM d : Action α).perform s = d.bind fun a => .done (.ok a, s) := by
  have hlift : (liftM d : Action α).perform s =
      (d.bind fun a => .done (a, s)).bind fun r => .done ((.ok r.1 : Except ServiceError α), r.2) := rfl
  rw [hlift, Dialogue.bind_bind]
  rfl

/-- Asking the querier leaves the state alone. -/
theorem perform_ask {d : ExceptT QuerierError Dialogue α} :
    (ask d).perform s = d.run.bind fun reply => .done (reply.mapError .querier, s) := by
  unfold ask
  rw [perform_bind, perform_liftM, Dialogue.bind_bind]
  refine congrArg (Dialogue.bind d.run) (funext ?_)
  rintro (_ | _) <;> rfl

/-- A table that cannot be loaded is none, and only the catalog changes. -/
theorem perform_table? {db table : String} : (table? db table).perform s =
    if db.isEmpty || table.isEmpty then .done (.ok none, s)
    else (s.catalog.getOrLoad db table).bind fun r => .done (.ok r.1.toOption, { s with catalog := r.2 }) := by
  unfold table?
  split
  · rfl
  · refine (perform_bind (x := liftM (s.catalog.getOrLoad db table))).trans ?_
    rw [perform_liftM, Dialogue.bind_bind]
    rfl

/-! ## Plays -/

variable {result : Except ServiceError β}

/-- A failed step is the last one. -/
theorem plays_bind : ((x >>= g).perform s).Plays log (result, s') ↔
    (∃ error, (x.perform s).Plays log (.error error, s') ∧ result = .error error) ∨
      ∃ front a t back, (x.perform s).Plays front (.ok a, t) ∧ ((g a).perform t).Plays back (result, s') ∧
        log = front ++ back := by
  rw [perform_bind, Dialogue.plays_bind]
  constructor
  · rintro ⟨front, ⟨r, t⟩, back, hfront, hback, rfl⟩
    cases r with
    | error error =>
      obtain ⟨rfl, hresult⟩ := plays_done.mp hback
      cases hresult
      exact .inl ⟨error, by simpa using hfront, rfl⟩
    | ok a => exact .inr ⟨front, a, t, back, hfront, hback, rfl⟩
  · rintro (⟨error, hx, rfl⟩ | ⟨front, a, t, back, hfront, hback, rfl⟩)
    · exact ⟨log, _, [], hx, .done _, (List.append_nil log).symm⟩
    · exact ⟨front, _, back, hfront, hback, rfl⟩

theorem plays_ask {d : ExceptT QuerierError Dialogue α} {result : Except ServiceError α} :
    ((ask d).perform s).Plays log (result, s') ↔
      ∃ reply, d.run.Plays log reply ∧ result = reply.mapError .querier ∧ s' = s := by
  simp only [perform_ask, plays_bind_done, Prod.mk.injEq]

theorem plays_map {h : α → β} : ((h <$> x).perform s).Plays log (result, s') ↔
    ∃ r, (x.perform s).Plays log (r, s') ∧ result = r.map h := by
  rw [perform_map, plays_bind_done]
  constructor
  · rintro ⟨⟨r, t⟩, hx, hresult⟩
    cases hresult
    exact ⟨r, hx, rfl⟩
  · rintro ⟨r, hx, rfl⟩
    exact ⟨(r, s'), hx, rfl⟩

/-- What follows a question goes on from the same state, unless the question failed. -/
theorem plays_ask_bind {d : ExceptT QuerierError Dialogue α} (h : ((ask d >>= g).perform s).Plays log (result, s')) :
    ∃ front reply back, d.run.Plays front reply ∧ log = front ++ back ∧
      match reply with
      | .ok a => ((g a).perform s).Plays back (result, s')
      | .error _ => back = [] ∧ s' = s := by
  rcases plays_bind.mp h with ⟨error, hask, -⟩ | ⟨front, a, t, back, hask, hback, rfl⟩
  · obtain ⟨reply, hreply, hresult, rfl⟩ := plays_ask.mp hask
    refine ⟨log, reply, [], hreply, (List.append_nil log).symm, ?_⟩
    cases reply with
    | ok _ => cases hresult
    | error _ => exact ⟨rfl, rfl⟩
  · obtain ⟨reply, hreply, hresult, rfl⟩ := plays_ask.mp hask
    refine ⟨front, reply, back, hreply, rfl, ?_⟩
    cases reply with
    | ok _ =>
      cases hresult
      exact hback
    | error _ => cases hresult

/-- Looking a table up never fails, and asks for nothing but that table. -/
theorem plays_table? {db table : String} {r : Except ServiceError (Option Table)}
    (h : ((table? db table).perform s).Plays log (r, s')) :
    (∃ found, r = .ok found) ∧ log.map Exchange.call <+: loadCalls db table ∧ s'.statements = s.statements := by
  rw [perform_table?] at h
  split at h
  · obtain ⟨rfl, hr⟩ := plays_done.mp h
    cases hr
    exact ⟨⟨none, rfl⟩, List.nil_prefix, rfl⟩
  · obtain ⟨⟨loaded, catalog⟩, hload, hr⟩ := plays_bind_done.mp h
    cases hr
    exact ⟨⟨_, rfl⟩, (Catalog.calls_getOrLoad hload).2.1, rfl⟩

end Action
end PanelQuery
