import PanelQuery.Proofs.Lru
import PanelQuery.Service.Catalog

/-!
# Plays of dialogues

A play of a dialogue is the list of its calls with the answers that they were given, and its result
(`Dialogue.Plays`); whatever answers the calls, the run is a play (`Dialogue.exists_plays_run`). Where each call has one
answer, there is one result (`Dialogue.against`).

The plays that look up a table are those of the catalog: nothing is asked for a table that is held, and a load asks for
tags, metrics and functions in this order up to its first failure, after which the catalog is as it was
(`Catalog.calls_getOrLoad`).
-/

namespace PanelQuery

/-- A call and its answer. -/
structure Exchange where
  call : Call
  answer : call.Answer

def Exchange.IsFailure (e : Exchange) : Prop := ∃ error, e.answer = .error error

namespace Dialogue

variable {α β σ : Type} {d : Dialogue α} {f : α → Dialogue β} {log : List Exchange} {a b : α}

/-! ## Plays -/

/-- With these exchanges in order, a dialogue has that result. -/
inductive Plays : Dialogue α → List Exchange → α → Prop where
  | done (a : α) : Plays (.done a) [] a
  | ask {c : Call} {next : c.Answer → Dialogue α} {answer : c.Answer} {log : List Exchange} {a : α}
    (h : Plays (next answer) log a) : Plays (.ask c next) (⟨c, answer⟩ :: log) a

/-- A dialogue that is done makes no calls. -/
theorem plays_done : (done b).Plays log a ↔ log = [] ∧ a = b := by
  constructor
  · rintro ⟨⟩
    exact ⟨rfl, rfl⟩
  · rintro ⟨rfl, rfl⟩
    exact .done a

/-- A dialogue that asks makes its call, and goes on according to the answer. -/
theorem plays_ask {c : Call} {next : c.Answer → Dialogue α} :
    (ask c next).Plays log a ↔ ∃ answer rest, log = ⟨c, answer⟩ :: rest ∧ (next answer).Plays rest a := by
  constructor
  · rintro ⟨⟩
    exact ⟨_, _, rfl, ‹_›⟩
  · rintro ⟨answer, rest, rfl, h⟩
    exact .ask h

theorem plays_call {c : Call} {reply : c.Answer} : (call c).Plays log reply ↔ log = [⟨c, reply⟩] := by
  refine plays_ask.trans ⟨?_, ?_⟩
  · rintro ⟨answer, rest, rfl, hrest⟩
    obtain ⟨rfl, rfl⟩ := plays_done.mp hrest
    rfl
  · rintro rfl
    exact ⟨reply, [], rfl, .done reply⟩

/-- Calls of one dialogue after another come in that order. -/
theorem Plays.bind {back : List Exchange} {b : β} (h : d.Plays log a) (hback : (f a).Plays back b) :
    (d.bind f).Plays (log ++ back) b := by
  induction h with
  | done a => exact hback
  | ask _ ih => exact .ask (ih hback)

/-- A play of two dialogues in a row is one of the first and then one of the second. -/
theorem plays_bind {b : β} : (d.bind f).Plays log b ↔
    ∃ front a back, d.Plays front a ∧ (f a).Plays back b ∧ log = front ++ back := by
  constructor
  · intro h
    induction d generalizing log with
    | done a => exact ⟨[], a, log, .done a, h, rfl⟩
    | ask c next ih =>
      obtain ⟨answer, rest, rfl, hrest⟩ := plays_ask.mp h
      obtain ⟨front, a, back, hfront, hback, rfl⟩ := ih answer hrest
      exact ⟨⟨c, answer⟩ :: front, a, back, .ask hfront, hback, rfl⟩
  · rintro ⟨front, a, back, hfront, hback, rfl⟩
    exact hfront.bind hback

/-- What only turns one result into another makes no calls. -/
theorem plays_bind_done {g : α → β} {b : β} :
    (d.bind fun a => done (g a)).Plays log b ↔ ∃ a, d.Plays log a ∧ b = g a := by
  rw [plays_bind]
  constructor
  · rintro ⟨front, a, back, hfront, hback, rfl⟩
    obtain ⟨rfl, rfl⟩ := plays_done.mp hback
    exact ⟨a, by simpa using hfront, rfl⟩
  · rintro ⟨a, hplays, rfl⟩
    exact ⟨log, a, [], hplays, .done _, (List.append_nil log).symm⟩

/-- Whatever answers the calls of a dialogue, its run is a play. -/
theorem exists_plays_run (answer : (c : Call) → σ → c.Answer × σ) (d : Dialogue α) (s : σ) :
    ∃ log, d.Plays log (d.run answer s).1 := by
  induction d generalizing s with
  | done a => exact ⟨[], .done a⟩
  | ask c next ih =>
    obtain ⟨log, hlog⟩ := ih (answer c s).1 (answer c s).2
    exact ⟨⟨c, (answer c s).1⟩ :: log, .ask hlog⟩

/-! ## One answer for each call -/

/-- The result of a dialogue with something that answers a call always in the same way. -/
def against (answer : (c : Call) → c.Answer) (d : Dialogue α) : α := (d.run (fun c s => (answer c, s)) ()).1

variable {answer : (c : Call) → c.Answer}

@[simp] theorem against_done : (done a).against answer = a := rfl

@[simp] theorem against_ask {c : Call} {next : c.Answer → Dialogue α} :
    (ask c next).against answer = (next (answer c)).against answer := rfl

/-- What such answers come to is the result of a play with them. -/
theorem exists_plays_against (answer : (c : Call) → c.Answer) (d : Dialogue α) :
    ∃ log, d.Plays log (d.against answer) ∧ ∀ e ∈ log, e.answer = answer e.call := by
  induction d with
  | done a => exact ⟨[], .done a, List.forall_mem_nil _⟩
  | ask c next ih =>
    obtain ⟨log, hplays, hanswers⟩ := ih (answer c)
    exact ⟨⟨c, answer c⟩ :: log, .ask hplays, List.forall_mem_cons.mpr ⟨rfl, hanswers⟩⟩

@[simp] theorem against_bind : (d.bind f).against answer = (f (d.against answer)).against answer := by
  induction d with
  | done a => rfl
  | ask c next ih => exact ih (answer c)

/-! ## Loads -/

section Loads

variable {ε : Type} {x : ExceptT ε Dialogue α} {g : α → ExceptT ε Dialogue β}

/-- What fails ends a play. -/
theorem plays_bind_run {result : Except ε β} : (x >>= g).run.Plays log result ↔
    (∃ error, x.run.Plays log (.error error) ∧ result = .error error) ∨
      ∃ front a back, x.run.Plays front (.ok a) ∧ (g a).run.Plays back result ∧ log = front ++ back := by
  have hbind : (x >>= g).run = x.run.bind fun r => (ExceptT.bindCont g r : Dialogue (Except ε β)) := rfl
  rw [hbind, plays_bind]
  constructor
  · rintro ⟨front, r, back, hfront, hback, rfl⟩
    cases r with
    | error error =>
      obtain ⟨rfl, rfl⟩ := plays_done.mp hback
      exact .inl ⟨error, by simpa using hfront, rfl⟩
    | ok a => exact .inr ⟨front, a, back, hfront, hback, rfl⟩
  · rintro (⟨error, hx, rfl⟩ | ⟨front, a, back, hfront, hback, rfl⟩)
    · exact ⟨log, .error error, [], hx, .done _, (List.append_nil log).symm⟩
    · exact ⟨front, .ok a, back, hfront, hback, rfl⟩

theorem plays_execute {s : Statement} {reply : Except QuerierError QueryResult} :
    (execute s).run.Plays log reply ↔ log = [⟨.execute s, reply⟩] := plays_call

theorem plays_compile {p : Payload} {reply : Except QuerierError CompiledQuery} :
    (compile p).run.Plays log reply ↔ log = [⟨.compile p, reply⟩] := plays_call

variable {db table : String} {result : Except QuerierError Table}

def loadCalls (db table : String) : List Call :=
  [.execute { db, sql := "show tags from " ++ table }, .execute { db, sql := "show metrics from " ++ table },
    .execute { db, sql := "show metric function" }]

/-- A load ends with its first failure, and succeeds without one. -/
theorem plays_loadTable (h : (loadTable db table).run.Plays log result) :
    log ≠ [] ∧ log.map Exchange.call <+: loadCalls db table ∧
      ((∃ e ∈ log, e.IsFailure) ↔ ∃ error, result = .error error) := by
  unfold loadTable at h
  -- one case for each statement that may fail, which is then the last
  rcases plays_bind_run.mp h with ⟨error, htags, rfl⟩ | ⟨_, tags, _, htags, hrest, rfl⟩
  · obtain rfl := plays_execute.mp htags
    simp [loadCalls, Exchange.IsFailure]
  obtain rfl := plays_execute.mp htags
  rcases plays_bind_run.mp hrest with ⟨error, hmetrics, rfl⟩ | ⟨_, metrics, _, hmetrics, hlast, rfl⟩
  · obtain rfl := plays_execute.mp hmetrics
    simp [loadCalls, Exchange.IsFailure]
  obtain rfl := plays_execute.mp hmetrics
  rcases plays_bind_run.mp hlast with ⟨error, hfunctions, rfl⟩ | ⟨_, functions, _, hfunctions, hdone, rfl⟩
  · obtain rfl := plays_execute.mp hfunctions
    simp [loadCalls, Exchange.IsFailure]
  obtain rfl := plays_execute.mp hfunctions
  obtain ⟨rfl, rfl⟩ := plays_done.mp hdone
  simp [loadCalls, Exchange.IsFailure]

end Loads

end Dialogue

/-! ## The catalog -/

namespace Catalog

open Dialogue

variable {c c' : Catalog} {db table : String} {log : List Exchange} {result : Except QuerierError Table}

/-- What looking a table up asks for, and what the catalog holds afterwards. -/
theorem plays_getOrLoad : (c.getOrLoad db table).Plays log (result, c') ↔
    match c.find? (db, table) with
    | some held => log = [] ∧ result = .ok held ∧ c' = c.touch (db, table)
    | none =>
      (loadTable db table).run.Plays log result ∧
        c' = match result with
          | .ok loaded => c.insert (db, table) loaded
          | .error _ => c := by
  unfold getOrLoad
  cases hfound : c.find? (db, table) with
  | some held =>
    simp only [Lru.find?_touch, hfound]
    refine plays_done.trans ?_
    simp
  | none =>
    simp only [hfound, Lru.touch_of_find?_eq_none hfound]
    refine plays_bind.trans ?_
    constructor
    · rintro ⟨front, r, back, hload, hback, rfl⟩
      cases r with
      | error error =>
        obtain ⟨rfl, hresult⟩ := plays_done.mp hback
        cases hresult
        exact ⟨by simpa using hload, rfl⟩
      | ok loaded =>
        obtain ⟨rfl, hresult⟩ := plays_done.mp hback
        cases hresult
        exact ⟨by simpa using hload, rfl⟩
    · rintro ⟨hload, rfl⟩
      refine ⟨log, result, [], hload, ?_, (List.append_nil log).symm⟩
      cases result <;> exact .done _

/-- Only what is not held is loaded, and what fails to load is not kept. -/
theorem calls_getOrLoad (h : (c.getOrLoad db table).Plays log (result, c')) :
    (log = [] ↔ ∃ held, c.find? (db, table) = some held) ∧ log.map Exchange.call <+: loadCalls db table ∧
      ((∃ e ∈ log, e.IsFailure) → c' = c) := by
  rw [plays_getOrLoad] at h
  cases hfound : c.find? (db, table) with
  | some held =>
    obtain ⟨rfl, -⟩ : log = [] ∧ _ := by simpa [hfound] using h
    simp
  | none =>
    rw [hfound] at h
    obtain ⟨hload, rfl⟩ := h
    obtain ⟨hcalls, horder, hfailure⟩ := plays_loadTable hload
    refine ⟨by simpa using hcalls, horder, fun hfailed => ?_⟩
    obtain ⟨error, rfl⟩ := hfailure.mp hfailed
    rfl

end Catalog
end PanelQuery
