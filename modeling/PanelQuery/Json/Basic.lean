import PanelQuery.Number.Decimal

/-!
# JSON values

A JSON value, with whole numbers kept apart from doubles, and objects as lists of fields. `Json.record` puts fields
in the order of their names, one field a name, and `Json.normal` does so in all objects of a value; looking a field up
does not depend on that order.
-/

namespace PanelQuery

/-- A JSON number: whole as written, or a double. -/
inductive Number where
  /-- A number written without point and exponent. -/
  | whole (n : Int)
  /-- Any other finite number. -/
  | double (x : Double)
  deriving DecidableEq, Repr, Inhabited

namespace Number

/-- The text of a number inside data. -/
def text : Number → String
  | whole n => toString n
  | double x => Decimal.toText Decimal.exchange x

def toDouble : Number → Double
  | whole n => Double.ofInt n
  | double x => x

/-- The number as an integer of 64 bits with a sign, if it is one. -/
def int64? : Number → Option Int
  | whole n => if Decimal.fitsInt64 n then some n else none
  | double _ => none

/-- The number as a natural number, if it is one. -/
def natural? : Number → Option Nat
  | whole n => if 0 ≤ n then some n.toNat else none
  | double _ => none

end Number

/-- A JSON value. -/
inductive Json where
  | null
  | bool (b : Bool)
  | number (n : Number)
  | text (s : String)
  | array (items : List Json)
  | object (fields : List (String × Json))
  deriving Inhabited, Repr

abbrev Fields := List (String × Json)

namespace Fields

/-- Puts a field in its place by name; a field of that name gives way. -/
def put (name : String) (value : Json) : Fields → Fields
  | [] => [(name, value)]
  | (other, held) :: rest =>
    if name < other then (name, value) :: (other, held) :: rest
    else if name = other then (name, value) :: rest
    else (other, held) :: put name value rest

/-- The value of the first field of that name. -/
def get? (name : String) : Fields → Option Json
  | [] => none
  | (other, held) :: rest => if other = name then some held else get? name rest

/-- The value of the only field of that name, if there is one; nothing where there are several. -/
def only? (name : String) (fields : Fields) : Option (Option Json) :=
  match fields.filter fun field => field.1 == name with
  | [] => some none
  | [(_, value)] => some (some value)
  | _ => none

def erase (name : String) (fields : Fields) : Fields := fields.filter fun field => field.1 != name

/-- Fields by name, of which the last one of each name counts. -/
def sorted (fields : Fields) : Fields := fields.foldl (fun held field => put field.1 field.2 held) []

end Fields

namespace Json

/-- The object with these fields, by name. -/
def record (fields : Fields) : Json := object (Fields.sorted fields)

mutual
/-- The value with all its objects in the order of their names, of which the last one of each name counts. -/
def normal : Json → Json
  | array items => array (normalItems items)
  | object fields => record (normalFields fields)
  | value => value

/-- The items, each of them normal. -/
def normalItems : List Json → List Json
  | [] => []
  | item :: rest => normal item :: normalItems rest

/-- The fields, the value of each of them normal. -/
def normalFields : List (String × Json) → List (String × Json)
  | [] => []
  | (name, value) :: rest => (name, normal value) :: normalFields rest
end

def int (n : Int) : Json := number (.whole n)

/-- A double; what is not finite has no JSON number and becomes null. -/
def double (x : Double) : Json := if x.isFinite then number (.double x) else null

def texts (ss : List String) : Json := array (ss.map text)

/-- The value, or null. -/
def optional (encode : α → Json) : Option α → Json
  | none => null
  | some a => encode a

def text? : Json → Option String
  | text s => some s
  | _ => none

/-- The truth value, if the value is one. -/
def bool? : Json → Option Bool
  | bool b => some b
  | _ => none

def number? : Json → Option Number
  | number n => some n
  | _ => none

/-- The items, if the value is an array. -/
def items? : Json → Option (List Json)
  | array items => some items
  | _ => none

/-- The fields, if the value is an object. -/
def fields? : Json → Option Fields
  | object fields => some fields
  | _ => none

/-- The field of that name, if the value is an object that has it. -/
def field? (name : String) : Json → Option Json
  | object fields => Fields.get? name fields
  | _ => none

def isNull : Json → Bool
  | null => true
  | _ => false

def int64? (value : Json) : Option Int := value.number?.bind Number.int64?

def natural? (value : Json) : Option Nat := value.number?.bind Number.natural?

/-- An integer of eight bits with a sign. -/
def int8? (value : Json) : Option Int8 :=
  value.int64?.bind fun n => if -128 ≤ n ∧ n ≤ 127 then some (Int8.ofInt n) else none

def double? (value : Json) : Option Double := value.number?.map Number.toDouble

/-- Null, or a value. -/
def nullable (decode : Json → Option α) : Json → Option (Option α)
  | null => some none
  | value => (decode value).map some

/-- A list, every item of which decodes. -/
def listOf (decode : Json → Option α) : Json → Option (List α)
  | array items => items.mapM decode
  | _ => none

/-- The name of an enumeration value: a text, or an object whose only field has that name and is null. -/
def name? : Json → Option String
  | text s => some s
  | object [(name, null)] => some name
  | _ => none

end Json
end PanelQuery
