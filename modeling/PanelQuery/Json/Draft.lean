import PanelQuery.Json.Lexer

/-!
# Drafts

What a JSON text begins with, read as far as it goes: a draft is a value in which parts may have no value of their own
and containers may break off (`Draft.ofText`). A reader that looks at some parts only finds their first fault in a
draft, in the order of the text. The lexemes are folded over a stack of open containers, so the reading needs no bound
of its own.

`Draft.strict?` is the value of a draft without any fault, and `Json.parse?` reads a whole text as one value. At most
127 containers may be open at once. An object keeps the last of several fields of one name (`Json.normal`).
-/

namespace PanelQuery

/-- How the reading of an object ends. -/
inductive Ending where
  /-- With its bracket. -/
  | closed
  /-- Before its bracket. -/
  | cut
  /-- Before its bracket, at a value that is no name. -/
  | stray
  deriving DecidableEq, Repr

/-- A value that may have faults. -/
inductive Draft where
  /-- A value that is no container. -/
  | value (v : Json)
  /-- A text with half a surrogate pair, or a numeral too large for a number. -/
  | vague
  /-- Nothing that is a value. -/
  | missing
  | array (items : List Draft) (isClosed : Bool)
  /-- Fields in the order of the text; a name may be a text with half a surrogate pair. -/
  | object (fields : List (Option String × Draft)) (ending : Ending)
  deriving Inhabited, Repr

namespace Draft

/-! ## Reading -/

/-- A container that has been opened and not yet closed, its contents last first. -/
inductive Frame where
  | array (items : List Draft)
  /-- An object between fields. -/
  | object (fields : List (Option String × Draft))
  /-- An object within the field of that name. -/
  | field (fields : List (Option String × Draft)) (name : Option String)

/-- What may come next in the innermost container. -/
inductive Await where
  /-- A value. -/
  | value
  /-- A value, or the end of the array just opened. -/
  | firstItem
  /-- The name of a field. -/
  | name
  /-- The name of the first field, or the end of the object just opened. -/
  | firstName
  /-- The colon after a name. -/
  | colon
  /-- A comma, or the end of the container. -/
  | separator
  deriving DecidableEq, Repr

/-- The state of a reader. -/
inductive Reader where
  /-- Within a value: the open containers, innermost first, and what may come next. -/
  | within (frames : List Frame) (await : Await)
  /-- After a draft; whether nothing follows it. -/
  | after (draft : Draft) (isAlone : Bool)

namespace Reader

/-- A value has ended inside these containers. -/
def complete (d : Draft) : List Frame → Reader
  | [] => .after d true
  | .array items :: frames => .within (.array (d :: items) :: frames) .separator
  | .field fields name :: frames => .within (.object ((name, d) :: fields) :: frames) .separator
  | .object fields :: frames => .within (.object fields :: frames) .separator

/-- A container that breaks off after this last part of it. -/
def around (last : Draft) : Frame → Draft
  | .array items => .array (last :: items).reverse false
  | .object fields => .object fields.reverse .cut
  | .field fields name => .object ((name, last) :: fields).reverse .cut

/-- What has been read, if nothing more is. -/
def cut (ending : Ending) : List Frame → Await → Draft
  | .array items :: frames, .separator => frames.foldl around (.array items.reverse false)
  | .object fields :: frames, _ => frames.foldl around (.object fields.reverse ending)
  | frames, _ => frames.foldl around .missing

/-- Whether a value that is no text starts with a lexeme. -/
def isStray : Json.Token → Bool
  | .openArray | .openObject | .atom _ => true
  | _ => false

/-- The next lexeme, where a value may start. -/
def begin (frames : List Frame) (await : Await) : Json.Token → Reader
  | .openArray => .within (.array [] :: frames) .firstItem
  | .openObject => .within (.object [] :: frames) .firstName
  | .text s => complete (.value (.text s)) frames
  | .atom v => complete (.value v) frames
  | .loneText | .hugeNumber => complete .vague frames
  | _ => .after (cut .cut frames await) false

/-- The next lexeme inside containers. -/
def advance (frames : List Frame) (await : Await) (token : Json.Token) : Reader :=
  match await, token, frames with
  | .value, token, frames => begin frames .value token
  | .firstItem, .closeArray, .array items :: frames => complete (.array items.reverse true) frames
  | .firstItem, token, frames => begin frames .value token
  | .firstName, .closeObject, .object fields :: frames => complete (.object fields.reverse .closed) frames
  | .firstName, .text name, .object fields :: frames => .within (.field fields (some name) :: frames) .colon
  | .firstName, .loneText, .object fields :: frames => .within (.field fields none :: frames) .colon
  | .firstName, token, frames => .after (cut (if isStray token then .stray else .cut) frames .firstName) false
  | .name, .text name, .object fields :: frames => .within (.field fields (some name) :: frames) .colon
  | .name, .loneText, .object fields :: frames => .within (.field fields none :: frames) .colon
  | .colon, .colon, frames => .within frames .value
  | .separator, .comma, .array items :: frames => .within (.array items :: frames) .value
  | .separator, .comma, .object fields :: frames => .within (.object fields :: frames) .name
  | .separator, .closeArray, .array items :: frames => complete (.array items.reverse true) frames
  | .separator, .closeObject, .object fields :: frames => complete (.object fields.reverse .closed) frames
  | await, _, frames => .after (cut .cut frames await) false

/-- The next lexeme. -/
def step (r : Reader) (token : Json.Token) : Reader :=
  match r with
  | .within frames await => advance frames await token
  | .after d _ => .after d false

/-- The draft, once the text has ended, and whether nothing follows it. -/
def finish : Reader → Draft × Bool
  | .within frames await => (cut .cut frames await, false)
  | .after d isAlone => (d, isAlone)

end Reader

/-- What a text begins with, and whether that is all of it. -/
def ofText (text : String) : Draft × Bool := ((Json.tokens text).foldl Reader.step (.within [] .value)).finish

/-! ## Values -/

mutual
/-- The value of a draft without faults, in which at most `room` containers may be open at once. Fields are kept as
they are written. -/
def strict? (room : Nat) : Draft → Option Json
  | .value v => some v
  | .vague | .missing => none
  | .array items isClosed => if room = 0 || !isClosed then none else (strictItems? (room - 1) items).map .array
  | .object fields ending =>
    if room = 0 || ending != .closed then none else (strictFields? (room - 1) fields).map .object

def strictItems? (room : Nat) : List Draft → Option (List Json)
  | [] => some []
  | item :: rest => do
    let v ← strict? room item
    return v :: (← strictItems? room rest)

/-- The values of fields without faults. -/
def strictFields? (room : Nat) : List (Option String × Draft) → Option Fields
  | [] => some []
  | (none, _) :: _ => none
  | (some name, field) :: rest => do
    let v ← strict? room field
    return (name, v) :: (← strictFields? room rest)
end

mutual
/-- The value of a draft, in which null stands for all that has no value. -/
def lenient : Draft → Json
  | .value v => v
  | .vague | .missing => .null
  | .array items _ => .array (lenientItems items)
  | .object fields _ => .object (lenientFields fields)

def lenientItems : List Draft → List Json
  | [] => []
  | item :: rest => lenient item :: lenientItems rest

/-- The values of the fields that have a name. -/
def lenientFields : List (Option String × Draft) → Fields
  | [] => []
  | (none, _) :: rest => lenientFields rest
  | (some name, field) :: rest => (name, lenient field) :: lenientFields rest
end

mutual
/-- Whether a value that nobody looks at can be passed over: it has to be complete. -/
def isComplete : Draft → Bool
  | .value _ | .vague => true
  | .missing => false
  | .array items isClosed => areComplete items && isClosed
  | .object fields ending => areFieldsComplete fields && ending == .closed

/-- Whether all items can be passed over. -/
def areComplete : List Draft → Bool
  | [] => true
  | item :: rest => isComplete item && areComplete rest

/-- Whether all fields can be passed over. -/
def areFieldsComplete : List (Option String × Draft) → Bool
  | [] => true
  | (_, field) :: rest => isComplete field && areFieldsComplete rest
end

end Draft

namespace Json

/-- How many containers may be open at once. -/
def maxOpen : Nat := 127

/-- The value that a text stands for. -/
def parse? (text : String) : Option Json :=
  match Draft.ofText text with
  | (draft, true) => (draft.strict? maxOpen).map normal
  | (_, false) => none

end Json
end PanelQuery
