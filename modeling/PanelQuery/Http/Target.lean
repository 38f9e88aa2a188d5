import PanelQuery.Text.Search

/-!
# Request targets

What a request asks for: a path, still percent-encoded, and a query string (`Target.read?`). A target is a path, a
star, an authority, or an address with scheme and authority; a fragment is cut off.
-/

namespace PanelQuery.Http

/-- What a request asks for. -/
structure Target where
  path : String
  query : String
  deriving DecidableEq, Repr

/-! ## Characters -/

/-- Whether the code of a character is within bounds. -/
def codeWithin (low high : Nat) (c : Char) : Bool := low ≤ c.toNat && c.toNat ≤ high

def isPathChar (c : Char) : Bool :=
  c == '!' || codeWithin 0x24 0x3B c || c == '=' || codeWithin 0x40 0x5F c || codeWithin 0x61 0x7E c ||
    c == '"' || 0x80 ≤ c.toNat

def isQueryChar (c : Char) : Bool :=
  c == '!' || codeWithin 0x24 0x3B c || c == '=' || codeWithin 0x3F 0x7E c || 0x80 ≤ c.toNat

/-- The characters of an authority that have no meaning of their own. -/
def isAuthorityChar (c : Char) : Bool := c.isAlphanum || "!$&'()*+,-.;=_~".toList.contains c

def isSchemeChar (c : Char) : Bool := c.isAlphanum || c == '+' || c == '-' || c == '.' || c == '~'

/-! ## Parts -/

/-- What a reader of an authority has met. A closing bracket and an at sign end a part in which colons and percent
signs have another meaning, so that those before it no longer count. -/
structure AuthorityState where
  colons : Nat
  hasPercent : Bool
  isOpened : Bool
  isClosed : Bool
  /-- Whether the last character is an at sign. -/
  isAfterUser : Bool

namespace AuthorityState

def start : AuthorityState := ⟨0, false, false, false, false⟩

/-- The most colons that count at once: those of an address of eight groups and of a port. -/
def maxColons : Nat := 8

/-- The next character. -/
def step (s : AuthorityState) (c : Char) : Option AuthorityState :=
  let next := { s with isAfterUser := false }
  if c == ':' then (if maxColons ≤ s.colons then none else some { next with colons := s.colons + 1 })
  else if c == '[' then (if s.hasPercent || s.isOpened then none else some { next with isOpened := true })
  else if c == ']' then
    if !s.isOpened || s.isClosed then none
    else some { next with isClosed := true, colons := 0, hasPercent := false }
  else if c == '@' then some { next with isAfterUser := true, colons := 0, hasPercent := false }
  else if c == '%' then some { next with hasPercent := true }
  else if isAuthorityChar c then some next
  else none

/-- Whether an authority may end here. -/
def isEnd (s : AuthorityState) : Bool :=
  s.isOpened == s.isClosed && s.colons ≤ 1 && !s.isAfterUser && !s.hasPercent

end AuthorityState

/-- Whether a text has the form of an authority. -/
def isAuthority (cs : List Char) : Bool := (cs.foldlM AuthorityState.step .start).any AuthorityState.isEnd

/-- The target with the path and query string of a text. -/
def originTarget? (cs : List Char) : Option Target :=
  let visible := cs.takeWhile (· != '#')
  let path := visible.takeWhile (· != '?')
  let query := (visible.dropWhile (· != '?')).drop 1
  if path.all isPathChar && query.all isQueryChar then some ⟨String.ofList path, String.ofList query⟩ else none

/-- The scheme of an address, and what follows it, if the text has one. -/
def splitScheme? (cs : List Char) : Option (List Char × List Char) :=
  let (scheme, rest) := cs.span isSchemeChar
  ("://".toList.isPrefixOf? rest).map fun rest => (scheme, rest)

def maxSchemeSize : Nat := 64

def maxTargetSize : Nat := 65534

/-- The target that a text stands for. -/
def Target.read? (text : String) : Option Target :=
  if maxTargetSize < text.utf8ByteSize then none
  else
    match text.toList with
    | [] => none
    | ['*'] => some ⟨"*", ""⟩
    | '/' :: cs => originTarget? ('/' :: cs)
    | cs =>
      match splitScheme? cs with
      | none => if isAuthority cs then some ⟨"", ""⟩ else none
      | some (scheme, rest) =>
        let (authority, rest) := rest.span fun c => c != '/' && c != '?' && c != '#'
        if maxSchemeSize < scheme.length || authority.isEmpty || !isAuthority authority then none
        else (originTarget? rest).map fun target =>
          if target.path.isEmpty then { target with path := "/" } else target

/-- The segments of the path, still percent-encoded; the first one precedes the first slash. -/
def Target.segments (t : Target) : List String := (Text.pieces '/' t.path.toList).map String.ofList

end PanelQuery.Http
