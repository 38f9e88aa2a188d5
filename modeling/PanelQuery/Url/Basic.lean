import PanelQuery.Net.Ip

/-!
# URLs

A URL in its normal form: scheme, authority, path, query and fragment, the last four percent-encoded where they have
to be. `Url.text` writes it, and `Url.under?` gives the URL of something under the path of another one.
-/

namespace PanelQuery

namespace Url

/-- Why a text is no URL. -/
inductive Fault where
  | relative
  | emptyHost
  | invalidPort
  | invalidIpv4
  | invalidIpv6
  | invalidDomain
  | invalidHost
  /-- The URL has nothing under it. -/
  | noBase
  deriving DecidableEq, Repr

def Fault.message : Fault → String
  | relative => "relative URL without a base"
  | emptyHost => "empty host"
  | invalidPort => "invalid port number"
  | invalidIpv4 => "invalid IPv4 address"
  | invalidIpv6 => "invalid IPv6 address"
  | invalidDomain => "invalid international domain name"
  | invalidHost => "invalid domain character"
  | noBase => "relative URL with a cannot-be-a-base base"

/-- A host. -/
inductive Host where
  | name (text : String)
  | ipv4 (address : Net.Ipv4)
  | ipv6 (address : Net.Ipv6)
  deriving DecidableEq, Repr

def Host.text : Host → String
  | name text => text
  | ipv4 address => address.text
  | ipv6 address => "[" ++ address.text ++ "]"

/-- Who is addressed; the user and password are empty where they are not given. -/
structure Authority where
  user : String
  password : String
  host : Host
  port : Option Nat
  deriving DecidableEq, Repr

def Authority.text (a : Authority) : String :=
  let password := if a.password.isEmpty then "" else ":" ++ a.password
  let credentials := a.user ++ password
  let port := (a.port.map fun port => ":" ++ toString port).getD ""
  (if credentials.isEmpty then "" else credentials ++ "@") ++ a.host.text ++ port

/-- What follows the authority. -/
inductive Path where
  /-- Segments, each of which follows a slash. -/
  | segments (list : List String)
  /-- Text without structure. -/
  | plain (text : String)
  deriving DecidableEq, Repr

def Path.text : Path → String
  | segments list => String.join (list.map fun segment => "/" ++ segment)
  | plain text => text

end Url

/-- A URL. -/
structure Url where
  /-- In lower case. -/
  scheme : String
  authority : Option Url.Authority
  path : Url.Path
  query : Option String
  fragment : Option String
  deriving DecidableEq, Repr

namespace Url

def text (u : Url) : String :=
  let marked (mark : String) (part : Option String) : String := (part.map (mark ++ ·)).getD ""
  u.scheme ++ ":" ++ marked "//" (u.authority.map Authority.text) ++ u.path.text ++ marked "?" u.query ++
    marked "#" u.fragment

/-- The segments of a path without an empty last one. -/
def stem (segments : List String) : List String :=
  if segments.getLast? = some "" then segments.dropLast else segments

/-- The URL of something under the path of this one. -/
def under? (u : Url) (segments : List String) : Except Fault Url :=
  match u.path with
  | .plain _ => .error .noBase
  | .segments list => .ok { u with path := .segments (stem list ++ segments), query := none, fragment := none }

end Url
end PanelQuery
