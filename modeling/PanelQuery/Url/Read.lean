import PanelQuery.Text.Blank
import PanelQuery.Url.Host

/-!
# Reading URLs

`Url.read` brings an absolute URL into its normal form: blanks and controls around it are cut, scheme and domain are
put in lower case, the port of the scheme is left out, dot segments are resolved, and characters that have no place
in a component are percent-encoded. Schemes of the web have an authority however many slashes follow them, and a
backslash counts as a slash there.
-/

namespace PanelQuery.Url

/-! ## Schemes -/

/-- The kinds of schemes. -/
inductive SchemeKind where
  /-- With an authority and, perhaps, a port of its own. -/
  | web (port : Option Nat)
  /-- For files, whose host may be missing. -/
  | file
  | other
  deriving DecidableEq, Repr

namespace SchemeKind

def of (scheme : String) : SchemeKind :=
  match scheme with
  | "http" | "ws" => web (some 80)
  | "https" | "wss" => web (some 443)
  | "ftp" => web (some 21)
  | "file" => file
  | _ => other

/-- Whether the rules of the web apply. -/
def isSpecial (k : SchemeKind) : Bool := k != other

/-- Whether a character separates segments. -/
def isSlash (k : SchemeKind) (c : Char) : Bool := c == '/' || (k.isSpecial && c == '\\')

def endsAuthority (k : SchemeKind) (c : Char) : Bool := k.isSlash c || c == '?' || c == '#'

def port? : SchemeKind → Option Nat
  | web port => port
  | _ => none

end SchemeKind

/-- The scheme in lower case, and what follows its colon. -/
def splitScheme? (cs : List Char) : Option (String × List Char) :=
  let (scheme, rest) := cs.span fun c => c.isAlphanum || c == '+' || c == '-' || c == '.'
  match scheme, rest with
  | first :: _, ':' :: rest => if first.isAlpha then some ((String.ofList scheme).toLower, rest) else none
  | _, _ => none

/-! ## Encoded characters -/

/-- What is encoded in a fragment. -/
def fragmentSet (c : Char) : Bool := controlSet c || " \"<>\x60".toList.contains c

/-- What is encoded in a path. -/
def pathSet (c : Char) : Bool := fragmentSet c || c == '#' || c == '?' || c == '\x7b' || c == '\x7d'

/-- What is encoded in a user or password. -/
def userSet (c : Char) : Bool := pathSet c || "/:;=@[\\]^|".toList.contains c

/-- What is encoded in a query. -/
def querySet (k : SchemeKind) (c : Char) : Bool :=
  controlSet c || " \"#<>".toList.contains c || (k.isSpecial && c == '\'')

/-! ## Authorities -/

/-- The credentials in front of the last at sign of an authority, and what follows that sign. Where there is nothing
in front of it, the authority has to go on. -/
def splitCredentials (k : SchemeKind) (cs : List Char) : Except Fault (List Char × List Char) :=
  let authority := cs.takeWhile fun c => !k.endsAuthority c
  let host := authority.reverse.takeWhile (· != '@')
  if host.length = authority.length then .ok ([], cs)
  else
    let credentials := authority.take (authority.length - host.length - 1)
    let rest := cs.drop (authority.length - host.length)
    if credentials.isEmpty && rest.head?.any k.endsAuthority then .error .emptyHost else .ok (credentials, rest)

/-- The host at the front of a text, which ends with the authority or at a colon outside brackets, and what follows
it. -/
def splitHost (k : SchemeKind) (bracketed : Bool) : List Char → List Char × List Char
  | [] => ([], [])
  | c :: cs =>
    if (c == ':' && !bracketed) || k.endsAuthority c then ([], c :: cs)
    else
      let (host, rest) := splitHost k (if c == '[' then true else if c == ']' then false else bracketed) cs
      (c :: host, rest)

/-- Whether a character ends the digits of a port. -/
def endsPort (c : Char) : Bool := c == '/' || c == '\\' || c == '?' || c == '#'

/-- The port after a host, unless it is that of the scheme, and what follows it. -/
def readPort (k : SchemeKind) : List Char → Except Fault (Option Nat × List Char)
  | ':' :: cs =>
    let (digits, rest) := Decimal.spanDigits cs
    let port := Decimal.digitsValue digits
    if 65535 < port || rest.head?.any (!endsPort ·) then .error .invalidPort
    else .ok (if digits.isEmpty || some port = k.port? then none else some port, rest)
  | cs => .ok (none, cs)

def readHost (k : SchemeKind) (cs : List Char) : Except Fault Host :=
  if k.isSpecial then (if cs.isEmpty then .error .emptyHost else Host.readDomain cs) else Host.readPlain cs

/-- The authority at the front of a text, and what follows it. A host may be empty only where it stands alone. -/
def readAuthority (k : SchemeKind) (cs : List Char) : Except Fault (Authority × List Char) := do
  let (credentials, cs) ← splitCredentials k cs
  let (user, password) := credentials.span (· != ':')
  let password := password.drop 1
  let (hostText, rest) := splitHost k false cs
  let host ← readHost k hostText
  if hostText.isEmpty && (rest.head? == some ':' || !user.isEmpty || !password.isEmpty) then throw .emptyHost
  let (port, rest) ← readPort k rest
  return ({ user := encode userSet user, password := encode userSet password, host, port }, rest)

/-- No authority but an empty host. -/
def Authority.empty : Authority := { user := "", password := "", host := .name "", port := none }

/-- Whether a text is the letter of a drive. -/
def isDrive : List Char → Bool
  | [letter, mark] => letter.isAlpha && (mark == ':' || mark == '|')
  | _ => false

/-- The authority of a file, which is a host or nothing, and what follows it. The letter of a drive is no host. -/
def readFileAuthority (cs : List Char) : Except Fault (Authority × List Char) := do
  let (host, rest) := cs.span fun c => !endsPort c
  if host.isEmpty then return (.empty, rest)
  if isDrive host then return (.empty, cs)
  match ← Host.readDomain host with
  | .name "localhost" => return (.empty, rest)
  | host => return ({ Authority.empty with host }, rest)

/-! ## Paths -/

/-- Whether a segment stands for the place it is in. -/
def isDot (segment : String) : Bool := segment.toLower == "." || segment.toLower == "%2e"

/-- Whether a segment stands for the place above. -/
def isDoubleDot (segment : String) : Bool :=
  ["..", ".%2e", "%2e.", "%2e%2e"].contains segment.toLower

/-- The segments, last first, with one more; a dot segment at the end of the path leaves an empty one. -/
def pushSegment (segments : List String) (isLast : Bool) (segment : String) : List String :=
  if isDoubleDot segment then (if isLast then "" :: segments.drop 1 else segments.drop 1)
  else if isDot segment then (if isLast then "" :: segments else segments)
  else segment :: segments

/-- The segments that pieces of a path resolve to, after those read before, last first. -/
def resolve (segments : List String) : List String → List String
  | [] => segments.reverse
  | [last] => (pushSegment segments true last).reverse
  | segment :: rest => resolve (pushSegment segments false segment) rest

/-- The pieces between slashes. -/
def pathPieces (k : SchemeKind) (cs : List Char) : List (List Char) :=
  Text.pieces '/' (cs.map fun c => if k.isSlash c then '/' else c)

/-- The path of a text that follows a slash. -/
def readSegments (k : SchemeKind) (cs : List Char) : Path :=
  .segments (resolve [] ((pathPieces k cs).map (encode pathSet)))

/-- The path after an authority, which is not empty for the schemes of the web. -/
def readPath (k : SchemeKind) : List Char → Path
  | [] => if k.isSpecial then .segments [""] else .segments []
  | c :: cs => readSegments k (if k.isSlash c then cs else c :: cs)

/-! ## URLs -/

/-- The authority of a text that follows the scheme, if it has one, and what follows that. -/
def splitAuthority (k : SchemeKind) (cs : List Char) : Except Fault (Option Authority × List Char) := do
  match k, cs with
  | .web _, cs => let (authority, rest) ← readAuthority k (cs.dropWhile k.isSlash); return (some authority, rest)
  | .file, a :: b :: rest =>
    if k.isSlash a && k.isSlash b then let (authority, rest) ← readFileAuthority rest; return (some authority, rest)
    else return (some .empty, a :: b :: rest)
  | .file, cs => return (some .empty, cs)
  | .other, '/' :: '/' :: rest => let (authority, rest) ← readAuthority k rest; return (some authority, rest)
  | .other, cs => return (none, cs)

/-- The path of a text without query and fragment. Without an authority it has segments only after a slash. -/
def readPathAfter (k : SchemeKind) : Option Authority → List Char → Path
  | some _, cs => readPath k cs
  | none, '/' :: cs => readSegments k cs
  | none, cs => .plain (encode controlSet cs)

/-- The characters that are cut at both ends. -/
def isOuterBlank (c : Char) : Bool := c.toNat ≤ 32

/-- The characters that are passed over. -/
def isSkipped (c : Char) : Bool := c == '\t' || c == '\n' || c == '\r'

/-- What precedes a mark, and what follows it, if it occurs. -/
def cutMark (mark : Char) (cs : List Char) : List Char × Option (List Char) :=
  match cs.span (· != mark) with
  | (before, _ :: after) => (before, some after)
  | (before, []) => (before, none)

/-- The URL that a text stands for. -/
def read (raw : String) : Except Fault Url :=
  let cs := (Text.trimBy isOuterBlank raw.toList).filter fun c => !isSkipped c
  match splitScheme? cs with
  | none => .error .relative
  | some (scheme, rest) => do
    let kind := SchemeKind.of scheme
    let (authority, rest) ← splitAuthority kind rest
    let (rest, fragment) := cutMark '#' rest
    let (path, query) := cutMark '?' rest
    return {
      scheme, authority
      path := readPathAfter kind authority path
      query := query.map (encode (querySet kind))
      fragment := fragment.map (encode fragmentSet) }

end PanelQuery.Url
