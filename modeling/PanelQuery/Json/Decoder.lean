import PanelQuery.Json.Draft

/-!
# Decoders

A decoder gives the domain value of a JSON value (`Decoder.decode`) and finds the first fault of a draft, in the order
of the text (`Decoder.fault?`); `Decoder.read` puts the two together for a text. A text is malformed where it stops
being JSON, and misshapen where it goes on as JSON of another shape than the decoder looks for. Of two faults the one
that comes first in the text counts; a fault of the whole, such as a field that is missing, comes at its end.

A record is read from an object, or from an array of the values of its fields in their order. Fields of an object that
the record does not have are passed over, and nothing but their end is asked of them; no field of the record may occur
twice.
-/

namespace PanelQuery

/-- Why a text is not what a decoder looks for. -/
inductive Json.Fault where
  /-- The text is no JSON. -/
  | malformed
  /-- The text is JSON of another shape. -/
  | misshapen
  deriving DecidableEq, Repr

/-- A reader of values. -/
structure Decoder (α : Type) where
  /-- The value that a JSON value stands for. -/
  decode : Json → Option α
  /-- The first fault of a draft in which at most `room` containers may be open at once. -/
  fault? : (room : Nat) → Draft → Option Json.Fault

namespace Decoder

def read (d : Decoder α) (text : String) : Except Json.Fault α :=
  let (draft, isAlone) := Draft.ofText text
  match d.fault? Json.maxOpen draft with
  | some fault => .error fault
  | none =>
    if !isAlone then .error .malformed else (d.decode draft.lenient).elim (.error .misshapen) .ok

/-! ## Values without parts -/

/-- A value that is judged once all of it has been read. -/
def whole (decode : Json → Option α) : Decoder α where
  decode
  fault? room draft :=
    match draft.strict? room with
    | none => some .malformed
    | some value => if (decode value).isSome then none else some .misshapen

/-- A value that is no container, so that a container is found fault with where it opens. -/
def plain (decode : Json → Option α) : Decoder α where
  decode
  fault? _
    | .value value => if (decode value).isSome then none else some .misshapen
    | .vague | .missing => some .malformed
    | .array _ _ | .object _ _ => some .misshapen

def any : Decoder Json := whole fun value => some value.normal

def text : Decoder String := plain Json.text?

def bool : Decoder Bool := plain Json.bool?

/-- An integer of 64 bits with a sign. -/
def int64 : Decoder Int := plain Json.int64?

/-- An integer of eight bits with a sign. -/
def int8 : Decoder Int8 := plain Json.int8?

def natural : Decoder Nat := plain Json.natural?

def double : Decoder Double := plain Json.double?

/-- Null, or a value. -/
def nullable (d : Decoder α) : Decoder (Option α) where
  decode := Json.nullable d.decode
  fault? room
    | .value .null => none
    | draft => d.fault? room draft

/-! ## Enumerations -/

/-- The fault of an object that stands for a name, whose only field has that name and is null. -/
def nameFault? (isName : String → Bool) : List (Option String × Draft) → Ending → Option Json.Fault
  | [], ending => if ending = .stray then some .misshapen else some .malformed
  | (none, _) :: _, _ => some .malformed
  | (some name, value) :: rest, ending =>
    if !isName name then some .misshapen
    else
      match value with
      | .value .null => if rest.isEmpty && ending == .closed then none else some .malformed
      | .vague | .missing => some .malformed
      | _ => some .misshapen

/-- A value of an enumeration by its name. What can stand for no name at all makes a text malformed. -/
def choice (ofName? : String → Option α) : Decoder α where
  decode value := value.name?.bind ofName?
  fault? room
    | .value (.text name) => if (ofName? name).isSome then none else some .misshapen
    | .object fields ending =>
      if room = 0 then some .malformed else nameFault? (fun name => (ofName? name).isSome) fields ending
    | _ => some .malformed

/-- A value of an enumeration in a part that is judged once all of it has been read. There the only field of an object
that stands for a name may be empty too. -/
def looseChoice (ofName? : String → Option α) : Decoder α :=
  whole fun value =>
    match value with
    | .object [(name, .object [])] => ofName? name
    | value => value.name?.bind ofName?

/-! ## Lists and dictionaries -/

def list (d : Decoder α) : Decoder (List α) where
  decode := Json.listOf d.decode
  fault? room
    | .array items isClosed =>
      if room = 0 then some .malformed
      else (items.findSome? (d.fault? (room - 1))).or (if isClosed then none else some .malformed)
    | .vague | .missing => some .malformed
    | .value _ | .object _ _ => some .misshapen

/-- The fault of one entry of a dictionary. -/
def entryFault? (d : Decoder α) (room : Nat) (entry : Option String × Draft) : Option Json.Fault :=
  if entry.1.isNone then some .malformed else d.fault? room entry.2

/-- Values by name, in the order of the names. -/
def dict (d : Decoder α) : Decoder (List (String × α)) where
  decode
    | .object fields => (Fields.sorted fields).mapM fun (name, value) => (d.decode value).map fun a => (name, a)
    | _ => none
  fault? room
    | .object entries ending =>
      if room = 0 then some .malformed
      else (entries.findSome? (d.entryFault? (room - 1))).or (if ending = .closed then none else some .malformed)
    | .vague | .missing => some .malformed
    | .value _ | .array _ _ => some .misshapen

end Decoder

/-! ## Records -/

/-- A field of a record. -/
structure Slot where
  name : String
  fault? : (room : Nat) → Draft → Option Json.Fault
  /-- Whether an object may lack the field. -/
  mayLack : Bool
  /-- Whether an array may end before the field. -/
  mayEnd : Bool

/-- A reader of the fields of a record. -/
structure RecordDecoder (α : Type) where
  /-- The fields in order. -/
  slots : List Slot
  /-- The record with these fields, each of which may occur once. -/
  decode : Fields → Option α

namespace RecordDecoder

instance : Applicative RecordDecoder where
  pure a := ⟨[], fun _ => some a⟩
  map f d := ⟨d.slots, fun fields => (d.decode fields).map f⟩
  seq f d := ⟨f.slots ++ (d ()).slots, fun fields => f.decode fields <*> (d ()).decode fields⟩

/-- A field that has to be there. -/
def need (name : String) (d : Decoder α) : RecordDecoder α where
  slots := [⟨name, d.fault?, false, false⟩]
  decode fields := do d.decode (← ← Fields.only? name fields)

/-- A field, or the default where it is missing. -/
def given (name : String) (default : α) (d : Decoder α) : RecordDecoder α where
  slots := [⟨name, d.fault?, true, true⟩]
  decode fields := do (← Fields.only? name fields).elim (some default) d.decode

/-- A field that is unset where it is missing or null. -/
def maybe (name : String) (d : Decoder α) : RecordDecoder (Option α) := given name none d.nullable

/-- A field that is unset where an object lacks it or it is null; an array has to reach it. -/
def keyed (name : String) (d : Decoder α) : RecordDecoder (Option α) where
  slots := [⟨name, d.nullable.fault?, true, false⟩]
  decode := (maybe name d).decode

/-- The record with these values of its fields, in their order. -/
def decodeItems (d : RecordDecoder α) (items : List Json) : Option α :=
  if items.length ≤ d.slots.length && (d.slots.drop items.length).all Slot.mayEnd then
    d.decode ((d.slots.map Slot.name).zip items)
  else none

def decodeValue (d : RecordDecoder α) : Json → Option α
  | .object fields => d.decode fields
  | .array items => d.decodeItems items
  | _ => none

/-- The first fault of the fields of an object, of which those in `seen` have occurred. -/
def objectFault? (slots : List Slot) (room : Nat) (ending : Ending) (seen : List String) :
    List (Option String × Draft) → Option Json.Fault
  | [] =>
    if ending != .closed then some .malformed
    else if slots.all fun slot => slot.mayLack || seen.contains slot.name then none
    else some .misshapen
  | (none, _) :: _ => some .malformed
  | (some name, value) :: rest =>
    match slots.find? fun slot => slot.name == name with
    | none => if value.isComplete then objectFault? slots room ending seen rest else some .malformed
    | some slot =>
      if seen.contains name then some .misshapen
      else (slot.fault? room value).or (objectFault? slots room ending (name :: seen) rest)

/-- The first fault of the items of an array. -/
def arrayFault? (room : Nat) (isClosed : Bool) : List Slot → List Draft → Option Json.Fault
  | slots, [] =>
    if !isClosed then some .malformed else if slots.all Slot.mayEnd then none else some .misshapen
  | [], _ :: _ => some .malformed
  | slot :: slots, item :: items => (slot.fault? room item).or (arrayFault? room isClosed slots items)

end RecordDecoder

namespace Decoder

def record (d : RecordDecoder α) : Decoder α where
  decode := d.decodeValue
  fault? room
    | .object fields ending =>
      if room = 0 then some .malformed else RecordDecoder.objectFault? d.slots (room - 1) ending [] fields
    | .array items isClosed =>
      if room = 0 then some .malformed else RecordDecoder.arrayFault? (room - 1) isClosed d.slots items
    | .vague | .missing => some .malformed
    | .value _ => some .misshapen

/-! ## Records of several kinds -/

/-- The record of a JSON value whose kind is its field of that name, or its first item. -/
def decodeTagged (tag : String) (ofKind? : String → Option (RecordDecoder α)) : Json → Option α
  | .object fields => do
    let kind ← (← ← Fields.only? tag fields).text?
    (← ofKind? kind).decode (Fields.erase tag fields)
  | .array (.text kind :: items) => (ofKind? kind).bind fun d => d.decodeItems items
  | _ => none

/-- The fault of the name of a kind. -/
def kindFault? (isKind : String → Bool) : Draft → Option Json.Fault
  | .value (.text kind) => if isKind kind then none else some .misshapen
  | .vague | .missing => some .malformed
  | _ => some .misshapen

/-- The first fault of the fields of a record, apart from their shape; `seen` tells whether its kind has occurred. -/
def taggedFault? (tag : String) (isKind : String → Bool) (room : Nat) (ending : Ending) (seen : Bool) :
    List (Option String × Draft) → Option Json.Fault
  | [] => if ending != .closed then some .malformed else if seen then none else some .misshapen
  | (none, _) :: _ => some .malformed
  | (some name, value) :: rest =>
    if name = tag then
      if seen then some .misshapen
      else (kindFault? isKind value).or (taggedFault? tag isKind room ending true rest)
    else if (value.strict? room).isSome then taggedFault? tag isKind room ending seen rest
    else some .malformed

/-- A record of one of several kinds. Its fields are judged once all of it has been read, but its kind at once. -/
def tagged (tag : String) (ofKind? : String → Option (RecordDecoder α)) : Decoder α where
  decode := decodeTagged tag ofKind?
  fault? room draft :=
    let isKind (kind : String) : Bool := (ofKind? kind).isSome
    let judged := if (decodeTagged tag ofKind? draft.lenient).isSome then none else some .misshapen
    match draft with
    | .object fields ending =>
      if room = 0 then some .malformed else (taggedFault? tag isKind (room - 1) ending false fields).or judged
    | .array (kind :: items) isClosed =>
      if room = 0 then some .malformed
      else
        ((kindFault? isKind kind).or
          (if isClosed && (items.all fun item => (item.strict? (room - 1)).isSome) then none
            else some .malformed)).or judged
    | .array [] isClosed => if room = 0 || !isClosed then some .malformed else some .misshapen
    | .vague | .missing => some .malformed
    | .value _ => some .misshapen

end Decoder
end PanelQuery
