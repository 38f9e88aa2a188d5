import PanelQuery.Json.Numeral
import PanelQuery.Text.Hex

/-!
# Lexemes of JSON text

A text is cut into lexemes one character at a time: `Lexer.step` takes the state between two characters and the next
character, so that reading a whole text is a fold. A word ends with its last letter and a numeral before the first
character that it does not go on with, whatever follows. Where no lexeme goes on, the lexemes end in `broken`
(`tokens`).

A text may hold halves of surrogate pairs, and a numeral may be too large for a number: both are lexemes, since what
they stand for matters only to a reader that looks at them.
-/

namespace PanelQuery.Json

/-- A lexeme. -/
inductive Token where
  | openArray
  | closeArray
  | openObject
  | closeObject
  | comma
  | colon
  | text (s : String)
  | atom (value : Json)
  /-- A text with half a surrogate pair. -/
  | loneText
  /-- A numeral too large for a number. -/
  | hugeNumber
  /-- What is no lexeme; nothing follows it. -/
  | broken
  deriving Inhabited, Repr

/-! ## Text -/

/-- The characters read since the opening quote. -/
structure Quote where
  /-- The characters, last one first. -/
  read : List Char
  /-- The first half of a surrogate pair that has just been read. -/
  high : Option Nat
  /-- Whether all other halves of surrogate pairs have met their second half. -/
  isPaired : Bool
  deriving Repr

namespace Quote

/-- Nothing read so far. -/
def empty : Quote := ⟨[], none, true⟩

def push (q : Quote) (c : Char) : Quote := ⟨c :: q.read, none, q.isPaired && q.high.isNone⟩

/-- One more unit of 16 bits: a character, or half of a surrogate pair. -/
def pushUnit (q : Quote) (code : Nat) : Quote :=
  if 0xD800 ≤ code ∧ code < 0xDC00 then { q with high := some code, isPaired := q.isPaired && q.high.isNone }
  else if 0xDC00 ≤ code ∧ code < 0xE000 then
    match q.high with
    | some high => ⟨Char.ofNat (0x10000 + (high - 0xD800) * 0x400 + (code - 0xDC00)) :: q.read, none, q.isPaired⟩
    | none => { q with isPaired := false }
  else q.push (Char.ofNat code)

/-- The lexeme that ends here. -/
def token (q : Quote) : Token :=
  if q.isPaired && q.high.isNone then .text (String.ofList q.read.reverse) else .loneText

end Quote

/-- The character that a one-letter escape stands for. -/
def shortEscape? : Char → Option Char
  | '"' => some '"'
  | '\\' => some '\\'
  | '/' => some '/'
  | 'b' => some '\x08'
  | 'f' => some '\x0c'
  | 'n' => some '\n'
  | 'r' => some '\r'
  | 't' => some '\t'
  | _ => none

/-! ## Structure -/

/-- A character that is a lexeme by itself. -/
def mark? : Char → Option Token
  | '[' => some .openArray
  | ']' => some .closeArray
  | '\x7b' => some .openObject
  | '\x7d' => some .closeObject
  | ',' => some .comma
  | ':' => some .colon
  | _ => none

/-- The word that a letter starts: its other letters and its value. -/
def word? : Char → Option (List Char × Json)
  | 'n' => some ("ull".toList, .null)
  | 't' => some ("rue".toList, .bool true)
  | 'f' => some ("alse".toList, .bool false)
  | _ => none

/-- The blanks that may stand between lexemes. -/
def isGap (c : Char) : Bool := c == ' ' || c == '\t' || c == '\n' || c == '\r'

/-- The lexeme of a numeral of the right form. -/
def numeralToken (cs : List Char) : Token :=
  match Numeral.read? cs with
  | some n => .atom (.number n)
  | none => .hugeNumber

/-- Where the lexer stands between two characters. -/
inductive Mode where
  /-- Between lexemes. -/
  | between
  /-- In a word, the rest of which has to follow. -/
  | word (rest : List Char) (value : Json)
  /-- In a numeral, whose characters are held last first. -/
  | numeral (read : List Char) (place : Numeral.Place)
  /-- Between quotes. -/
  | quoted (q : Quote)
  /-- After a backslash. -/
  | escape (q : Quote)
  /-- In a four-digit escape, with `left + 1` digits to come. -/
  | unicode (q : Quote) (code left : Nat)
  /-- Past what is no lexeme. -/
  | broken

/-- The state of a lexer: the lexemes read, last first, and the mode. -/
structure Lexer where
  tokens : List Token
  mode : Mode

namespace Lexer

/-- Nothing read so far. -/
def empty : Lexer := ⟨[], .between⟩

def fail (s : Lexer) : Lexer := ⟨.broken :: s.tokens, .broken⟩

/-- The next character, when no lexeme is being read. -/
def start (tokens : List Token) (c : Char) : Lexer :=
  if isGap c then ⟨tokens, .between⟩
  else if c == '"' then ⟨tokens, .quoted .empty⟩
  else
    match mark? c, word? c, Numeral.Place.first? c with
    | some token, _, _ => ⟨token :: tokens, .between⟩
    | none, some (rest, value), _ => ⟨tokens, .word rest value⟩
    | none, none, some place => ⟨tokens, .numeral [c] place⟩
    | none, none, none => fail ⟨tokens, .between⟩

/-- The lexemes with that of a numeral that ends here. -/
def endNumeral? (tokens : List Token) (read : List Char) (place : Numeral.Place) : Option (List Token) :=
  if place.isEnd then some (numeralToken read.reverse :: tokens) else none

/-- The next character. -/
def step (s : Lexer) (c : Char) : Lexer :=
  match s.mode with
  | .between => start s.tokens c
  | .word [] _ => s.fail
  | .word [last] value => if c == last then ⟨.atom value :: s.tokens, .between⟩ else s.fail
  | .word (next :: rest) value => if c == next then { s with mode := .word rest value } else s.fail
  | .numeral read place =>
    match place.next? c with
    | some place => { s with mode := .numeral (c :: read) place }
    | none =>
      match endNumeral? s.tokens read place with
      | some tokens => start tokens c
      | none => s.fail
  | .quoted q =>
    if c == '"' then ⟨q.token :: s.tokens, .between⟩
    else if c == '\\' then { s with mode := .escape q }
    else if c.toNat < 32 then s.fail
    else { s with mode := .quoted (q.push c) }
  | .escape q =>
    if c == 'u' then { s with mode := .unicode q 0 3 }
    else
      match shortEscape? c with
      | some escaped => { s with mode := .quoted (q.push escaped) }
      | none => s.fail
  | .unicode q code left =>
    match Text.hexDigit? c, left with
    | none, _ => s.fail
    | some digit, 0 => { s with mode := .quoted (q.pushUnit (code * 16 + digit)) }
    | some digit, left + 1 => { s with mode := .unicode q (code * 16 + digit) left }
  | .broken => s

/-- The lexemes in order, once the text has ended. -/
def finish (s : Lexer) : List Token :=
  match s.mode with
  | .between | .broken => s.tokens.reverse
  | .numeral read place => ((endNumeral? s.tokens read place).getD s.fail.tokens).reverse
  | _ => s.fail.tokens.reverse

end Lexer

def tokens (text : String) : List Token := (text.toList.foldl Lexer.step .empty).finish

end PanelQuery.Json
