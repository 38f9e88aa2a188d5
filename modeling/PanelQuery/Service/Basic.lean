import PanelQuery.Flame
import PanelQuery.Frame.Shape
import PanelQuery.Editor.Sanitize
import PanelQuery.Querier.TimePlaceholder
import PanelQuery.Relationship
import PanelQuery.Service.Catalog
import PanelQuery.Service.Request
import PanelQuery.Text.Case
import PanelQuery.Variable.Interpolate

/-!
# The service

What the service does for each request, as an `Action`: a dialogue with the querier that may fail and that changes the
state of the service, which holds the tables in use and the statements compiled last. What an action has changed stays
changed when it fails later on.
-/

namespace PanelQuery

/-- The state of the service. -/
structure Service where
  catalog : Catalog
  /-- The statements compiled last, by request and query. -/
  statements : Lru String String

namespace Service

/-- A service that has not been used, with room for so many statements and tables. -/
def new (statementCapacity tableCapacity : Nat) : Service := ⟨.empty tableCapacity, .empty statementCapacity⟩

/-- The key of the statement of a query within a request. -/
def statementKey (requestId refId : String) : String := requestId ++ "_" ++ refId

end Service

/-- What the service does for a request. -/
abbrev Action := ExceptT ServiceError (StateT Service Dialogue)

namespace Action

/-- Plays an action in a state, up to its result and the state afterwards. -/
def perform (a : Action α) (s : Service) : Dialogue (Except ServiceError α × Service) := a.run.run s

/-- The result of a step that makes no calls. -/
def ofExcept : Except ServiceError α → Action α
  | .ok a => pure a
  | .error e => throw e

/-- Asks the querier; its failure is one of the action. -/
def ask (d : ExceptT QuerierError Dialogue α) : Action α := do
  match ← (liftM d.run : Action (Except QuerierError α)) with
  | .ok a => pure a
  | .error e => throw (.querier e)

/-! ## Tables and statements -/

/-- The table of that name, if both names are given and it can be loaded. -/
def table? (db table : String) : Action (Option Table) := do
  if db.isEmpty || table.isEmpty then return none
  let s ← get
  let (loaded, catalog) ← (liftM (s.catalog.getOrLoad db table) : Action _)
  set { s with catalog }
  return loaded.toOption

def formTable? (f : Form) : Action (Option Table) := table? f.db f.table

/-- Keeps the statement of a query, if its request has a name. -/
def keepStatement (requestId refId sql : String) : Action Unit := do
  if !requestId.isEmpty then
    modify fun s => { s with statements := s.statements.insert (Service.statementKey requestId refId) sql }

/-! ## Queries -/

/-- The range of a request; `now` and the hour before it where none is given. -/
def rangeOf (now : Int) (request : QueryRequest) : Action TimeRange :=
  match request.range with
  | some range => ofExcept range.resolve
  | none => pure ⟨now - 3600, now⟩

/-- Validates a form and compiles it to a payload. -/
def prepare (now : Int) (f : Form) (request : QueryRequest) : Action (Payload × TimeRange) := do
  if let some fault := f.fault? then throw (.invalid fault)
  let range ← rangeOf now request
  let table ← formTable? f
  return (f.compile { toVarContext := request.vars, range := some range, table }, range)

def queryPayload (now : Int) (request : QueryRequest) : Action Payload := do
  let f ← ofExcept (formOf request.queryText)
  return (← prepare now f request).1

def flame (id : String) (range : TimeRange) : Action Frame := do
  let trace ← ask (Dialogue.trace (.of id range))
  let names ← Flame.namedTags.mapM fun tag => do
    return (tag, Flame.codeNames (← ask (Dialogue.tagValues Flame.db Flame.table tag)))
  let details ←
    match ← table? Flame.db Flame.table with
    | some table => if trace.spans.isEmpty then pure [] else ask (Flame.spanDetails table trace.spans)
    | none => pure []
  return Flame.frame trace.services (trace.spans.map (Flame.nameCodes names)) details

/-- The frames of a trace, none if the form names no span. -/
def flameFrames (f : Form) (range : TimeRange) : Action (List Frame) := do
  match Flame.tracingId? f with
  | none => return []
  | some id => return [← flame id range]

/-- Compiles and executes the query of a form. -/
def executeForm (now : Int) (f : Form) (request : QueryRequest) : Action (List Frame) := do
  let (payload, range) ← prepare now f request
  let compiled ← ask (Dialogue.compile payload)
  keepStatement request.requestId request.refId compiled.sql
  let statement : Statement :=
    { db := f.db, sql := substituteTime compiled.sql range, dataPrecision := f.sources }
  let result ← ask (Dialogue.execute statement)
  match shapeFrames result compiled f with
  | .ok frames => return frames
  | .error e => throw (.querier e)

/-- The frames of a query. -/
def runQuery (now : Int) (request : QueryRequest) : Action (List Frame) := do
  let f ← ofExcept (formOf request.queryText)
  if f.appType = .appTracingFlame then flameFrames f (← rangeOf now request) else executeForm now f request

/-- The statement that was compiled for a query. -/
def keptStatement (requestId refId : String) : Action String := do
  let s ← get
  let key := Service.statementKey requestId refId
  set { s with statements := s.statements.touch key }
  match s.statements.find? key with
  | some sql => return sql
  | none => throw (.notFound ("no sql cached for " ++ requestId ++ "/" ++ refId))

def relationship (request : RelationshipRequest) : Action Relationship := do
  let f ← ofExcept (formOf request.queryText)
  return Relationship.of f.groupBy (request.returnTags.filterMap tagName?)

/-! ## The editor -/

/-- What the editor offers. -/
structure EditorOptions where
  databases : List String
  tables : List String
  clauses : Clause → FieldOptions
  functions : List FunctionOption
  subFunctions : List String

/-- What the editor offers for a form, and for one of its rows. -/
def editorOptions (request : OptionsRequest) : Action EditorOptions := do
  let f ← ofExcept (formOf request.queryText)
  let databases := f.appType.databases (← ask Dialogue.databases)
  let tables ← if f.db.isEmpty then pure [] else f.appType.tables <$> ask (Dialogue.tables f.db)
  let options := ((← formTable? f).map TableOptions.of).getD ⟨[], [], [], []⟩
  let functions :=
    match request.clause, request.index with
    | some clause, some index => (((f.rows clause)[index]?).map (functionOptions options clause)).getD []
    | _, _ => []
  return { databases, tables, clauses := clauseOptions options f, functions, subFunctions := options.subFunctions }

/-- A form after an edit, in line with its table if that is known. -/
def editForm (request : EditRequest) : Action Form := do
  let f ← ofExcept (formOf request.queryText)
  let edited := f.apply request.edit
  match ← formTable? edited with
  | some table => return edited.sanitize (TableOptions.of table)
  | none => return edited

/-! ## Values -/

/-- A value to choose and its text. -/
structure ValueOption where
  text : String
  value : Json
  deriving Repr

/-- The options of a variable; none if there is nothing to ask. -/
def variableOptions (request : VariableRequest) : Action (List ValueOption) := do
  if request.database.isEmpty || request.sql.isEmpty then return []
  let sql := request.vars.interpolate request.sql
  let result ← ask (Dialogue.execute { db := request.database, sql, datasource := request.datasource })
  let disabled := if request.useDisabled then [⟨"Disabled", .text disabledSentinel⟩] else []
  let any := if request.useAny then [⟨"Any", .text anySentinel⟩] else []
  return disabled ++ any ++ result.tagValues.map fun value => ⟨value.displayName, value.value⟩

/-- Whether a text may stand for a tag or table in a statement. -/
def isIdentifier (text : String) : Bool :=
  !text.isEmpty && text.toList.all fun c => c.isAlphanum || c == '_' || c == '.'

/-- Whether the values of a tag are shown besides their names. -/
def showsValues (tag : String) : Bool := tag == "server_port"

/-- A value of a tag as it is offered, if it fits what is searched for, in lower case. -/
def searchedValue? (tag needle : String) (value : TagValue) : Option ValueOption :=
  let shown := value.value.shown
  let fits := needle.isEmpty || Text.contains (Text.lower value.displayName) needle ||
    (showsValues tag && Text.contains (Text.lower shown) needle)
  if fits then
    some ⟨if showsValues tag then value.displayName ++ "(" ++ shown ++ ")" else value.displayName, value.value⟩
  else none

/-- The values of a tag that fit a search; none if there is nothing to ask. -/
def searchTag (tag : String) (request : TagSearch) : Action (List ValueOption) := do
  if request.db.isEmpty || request.table.isEmpty then return []
  if !(isIdentifier tag && isIdentifier request.table) then
    throw (.badRequest ("invalid tag `" ++ tag ++ "` or table `" ++ request.table ++ "`"))
  let values ← ask (Dialogue.tagValues request.db request.table tag)
  return values.filterMap (searchedValue? tag (Text.lower request.search))

/-- The number of databases that are visible. -/
def health : Action Nat := do
  return (← ask Dialogue.databases).length

end Action
end PanelQuery
