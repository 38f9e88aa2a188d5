import PanelQuery.Json.Basic
import PanelQuery.Text.Hex

/-!
# Compact JSON text

`Json.compress` writes a value without blanks. Inside text only the quote, the backslash and the control characters
below the blank are escaped; all other characters stand for themselves.
-/

namespace PanelQuery.Json

/-- A character inside quotes. -/
def escapeChar (c : Char) : List Char :=
  match c with
  | '"' => ['\\', '"']
  | '\\' => ['\\', '\\']
  | '\n' => ['\\', 'n']
  | '\r' => ['\\', 'r']
  | '\t' => ['\\', 't']
  | '\x08' => ['\\', 'b']
  | '\x0c' => ['\\', 'f']
  | c =>
    if c.toNat < 32 then
      ['\\', 'u', '0', '0', Text.lowerHexDigit (c.toNat / 16), Text.lowerHexDigit (c.toNat % 16)]
    else [c]

/-- A text in quotes. -/
def quote (s : String) : String := "\"" ++ String.ofList (s.toList.flatMap escapeChar) ++ "\""

mutual
/-- The compact text of a value. -/
def compress : Json → String
  | null => "null"
  | bool b => if b then "true" else "false"
  | number n => n.text
  | text s => quote s
  | array items => "[" ++ compressItems items ++ "]"
  | object fields => "\x7b" ++ compressFields fields ++ "\x7d"

/-- The items of an array with commas between them. -/
def compressItems : List Json → String
  | [] => ""
  | [item] => compress item
  | item :: rest => compress item ++ "," ++ compressItems rest

/-- The fields of an object with commas between them. -/
def compressFields : List (String × Json) → String
  | [] => ""
  | [(name, value)] => quote name ++ ":" ++ compress value
  | (name, value) :: rest => quote name ++ ":" ++ compress value ++ "," ++ compressFields rest
end

/-- A text as it is, any other value as compact JSON. -/
def shown : Json → String
  | text s => s
  | value => compress value

end PanelQuery.Json
