import PanelQuery.Payload
import PanelQuery.Querier.Compiled
import PanelQuery.Querier.Metadata
import PanelQuery.Querier.Trace

/-!
# Dialogues with the querier

What this service asks of others, and what it does with the answers. A `Dialogue` either is done with a result or
makes a call and goes on according to the answer, so that the calls made are part of the value: `Dialogue.run` plays
it against anything that answers calls.
-/

namespace PanelQuery

/-- A statement for the querier. -/
structure Statement where
  db : String
  sql : String
  /-- The granularity of the data that the form asks for. -/
  dataPrecision : String := ""
  /-- The source of the data that the query of a variable asks for. -/
  datasource : String := ""
  deriving DecidableEq, Repr

/-- What is asked of another service. -/
inductive Call where
  | execute (statement : Statement)
  | compile (payload : Payload)
  | trace (request : TraceRequest)
  deriving Repr

abbrev Call.Result : Call → Type
  | execute _ => QueryResult
  | compile _ => CompiledQuery
  | trace _ => FlowTrace

/-- The answer to a call, which may fail. -/
abbrev Call.Answer (c : Call) : Type := Except QuerierError c.Result

/-- A computation that makes calls. -/
inductive Dialogue (α : Type) where
  /-- The result. -/
  | done (a : α)
  /-- A call, and what follows on its answer. -/
  | ask (call : Call) (next : call.Answer → Dialogue α)

namespace Dialogue

def bind : Dialogue α → (α → Dialogue β) → Dialogue β
  | done a, f => f a
  | ask call next, f => ask call fun answer => bind (next answer) f

instance : Monad Dialogue where
  pure := done
  bind := bind

theorem bind_done : ∀ d : Dialogue α, d.bind done = d
  | done _ => rfl
  | ask call next => congrArg (ask call) (funext fun answer => bind_done (next answer))

theorem bind_bind (f : α → Dialogue β) (g : β → Dialogue γ) : ∀ d : Dialogue α,
    (d.bind f).bind g = d.bind fun a => (f a).bind g
  | done _ => rfl
  | ask call next => congrArg (ask call) (funext fun answer => bind_bind f g (next answer))

instance : LawfulMonad Dialogue :=
  LawfulMonad.mk' Dialogue bind_done (fun _ _ => rfl) (fun d f g => bind_bind f g d)

def call (c : Call) : Dialogue c.Answer := ask c done

/-- Plays a dialogue against something that answers calls and has a state of its own. -/
def run (answer : (c : Call) → σ → c.Answer × σ) : Dialogue α → σ → α × σ
  | done a, s => (a, s)
  | ask c next, s =>
    let (reply, s) := answer c s
    run answer (next reply) s

/-! ## Calls -/

def execute (statement : Statement) : ExceptT QuerierError Dialogue QueryResult := call (.execute statement)

def compile (payload : Payload) : ExceptT QuerierError Dialogue CompiledQuery := call (.compile payload)

def trace (request : TraceRequest) : ExceptT QuerierError Dialogue FlowTrace := call (.trace request)

def databases : ExceptT QuerierError Dialogue (List String) := do
  return (← execute { db := "", sql := "show databases" }).firstColumn

/-- The names of the tables of a database. -/
def tables (db : String) : ExceptT QuerierError Dialogue (List String) := do
  return (← execute { db, sql := "show tables" }).firstColumn

def tagValues (db table tag : String) : ExceptT QuerierError Dialogue (List TagValue) := do
  return (← execute { db, sql := "show tag " ++ tag ++ " values from " ++ table }).tagValues

/-- The tags, metrics and functions of a table. -/
def loadTable (db table : String) : ExceptT QuerierError Dialogue Table := do
  let tags ← execute { db, sql := "show tags from " ++ table }
  let metrics ← execute { db, sql := "show metrics from " ++ table }
  let functions ← execute { db, sql := "show metric function" }
  return Table.ofResults tags metrics functions

end Dialogue
end PanelQuery
