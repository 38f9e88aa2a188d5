import PanelQuery.Text.Blank

/-!
# Headers

The characters of which the names and the values of headers consist. Blanks at the ends of a value are not part of it.
-/

namespace PanelQuery.Http

/-- The characters of which the names in a header consist. -/
def isTokenChar (c : Char) : Bool := c.isAlphanum || "!#$%&'*+-.^_\x60|~".toList.contains c

/-- The characters that may stand between quotes in a header. -/
def isQuotable (c : Char) : Bool := c.toNat != 127 && (32 ≤ c.toNat)

/-- Whether a text can be sent as the value of a header. -/
def isHeaderText (text : String) : Bool := text.toList.all fun c => c == '\t' || isQuotable c

/-- Whether the value of a header is plain: a reader of its text takes no other characters. -/
def isPlainText (text : String) : Bool := text.toList.all fun c => c == '\t' || (32 ≤ c.toNat && c.toNat < 127)

/-- The value of a header that is sent as a text. -/
def headerValue (text : String) : String :=
  String.ofList (Text.trimBy (fun c => c == ' ' || c == '\t') text.toList)

end PanelQuery.Http
