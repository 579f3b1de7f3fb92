import RouteFeed.Number.Integer
import RouteFeed.Text.Ascii
import RouteFeed.Url.Host

/-! URLs: a text is split into its components, and each of them is brought into its normal form:
scheme and host in lower case, no port that the scheme implies, no dot segments, and escapes for
what cannot stand by itself. -/
namespace RouteFeed

structure Url where
  scheme : List Char
  userInfo : List Char
  host : List Char
  port : Option Int
  path : List Char
  query : Option (List Char)
  fragment : Option (List Char)
  deriving DecidableEq

namespace Url

/-- The most characters of a URL or of one of its components. -/
def sizeLimit : Nat := 65536

def bad (message : String) : Failure := ⟨.badUrl, message⟩

/-- The first ASCII character that cannot be printed, with its place. -/
def control? (cs : List Char) : Option (Char × Nat) :=
  let isControl (c : Char) : Bool := c.toNat < 0x20 || c.toNat == 0x7f
  (cs.find? isControl).map fun c => (c, cs.findIdx isControl)

/-- The components of a text, before they are normalised. -/
structure Parts where
  scheme : List Char
  authority : List Char
  path : List Char
  query : Option (List Char)
  fragment : Option (List Char)

def isSchemeChar (c : Char) : Bool := c.isAlphanum || c == '+' || c == '.' || c == '-'

/-- The scheme in front of a colon, and the rest. A colon with nothing in front is an empty
scheme. -/
def splitScheme (cs : List Char) : List Char × List Char :=
  let scheme := cs.takeWhile isSchemeChar
  match cs.dropWhile isSchemeChar with
  | ':' :: rest =>
    match scheme with
    | [] => ([], rest)
    | c :: _ => if c.isAlpha then (scheme, rest) else ([], cs)
  | _ => ([], cs)

def cut (mark : Char) (cs : List Char) : List Char × Option (List Char) :=
  match cs.dropWhile (· != mark) with
  | [] => (cs, none)
  | _ :: rest => (cs.takeWhile (· != mark), some rest)

def Parts.of (cs : List Char) : Parts :=
  let (scheme, rest) := splitScheme cs
  let (rest, fragment) := cut '#' rest
  let (rest, query) := cut '?' rest
  let (authority, path) := match rest with
    | '/' :: '/' :: rest => (rest.takeWhile (· != '/'), rest.dropWhile (· != '/'))
    | _ => ([], rest)
  { scheme, authority, path, query, fragment }

def splitUser (authority : List Char) : List Char × List Char :=
  let host := (authority.reverse.takeWhile (· != '@')).reverse
  match authority.reverse.dropWhile (· != '@') with
  | [] => ([], authority)
  | _ :: user => (user.reverse, host)

def splitPort (cs : List Char) : List Char × List Char :=
  let bracketed := match cs with
    | '[' :: rest => rest.contains ']'
    | _ => false
  let (host, rest) :=
    if bracketed then
      let after := (cs.reverse.takeWhile (· != ']')).reverse
      (cs.take (cs.length - after.length), after)
    else (cs.takeWhile (· != ':'), cs.dropWhile (· != ':'))
  match rest with
  | ':' :: port => (host, port)
  | port => (host, port)

def impliedPort? (scheme : List Char) : Option Int :=
  match String.ofList scheme with
  | "ftp" => some 21
  | "http" => some 80
  | "https" => some 443
  | "ws" => some 80
  | "wss" => some 443
  | _ => none

def normalPort (scheme port : List Char) : Except Failure (Option Int) :=
  if port.isEmpty then .ok none
  else
    match Number.readInteger port with
    | .error _ => .error (bad s!"Invalid port: {Text.quoted (String.ofList port)}")
    | .ok n => .ok (if impliedPort? scheme == some n then none else some n)

def checkPath (hasScheme hasAuthority : Bool) (path : List Char) : Except Failure Unit :=
  if hasAuthority && !path.isEmpty && path.head? != some '/' then
    .error (bad "For absolute URLs, path must be empty or begin with '/'")
  else if !hasScheme && !hasAuthority && path.take 2 == ['/', '/'] then
    .error (bad "Relative URLs cannot have a path starting with '//'")
  else if !hasScheme && !hasAuthority && path.head? == some ':' then
    .error (bad "Relative URLs cannot have a path starting with ':'")
  else .ok ()

/-- Resolve the dot segments: one dot is dropped, two dots take the segment before with them. -/
def resolveDots (read : List (List Char)) : List (List Char) → List (List Char)
  | [] => read.reverse
  | s :: rest =>
    if s == ['.'] then resolveDots read rest
    else if s == ['.', '.'] then
      match read with
      | [] | [[]] => resolveDots read rest
      | _ :: read => resolveDots read rest
    else resolveDots (s :: read) rest

def normalPath (path : List Char) : List Char :=
  let segments := Text.splitAll '/' path
  if segments.contains ['.'] || segments.contains ['.', '.'] then
    List.intercalate ['/'] (resolveDots [] segments)
  else path

def ofParts (p : Parts) : Except Failure Url := do
  let (user, rest) := splitUser p.authority
  let (host, port) := splitPort rest
  let scheme := Text.lower p.scheme
  let userInfo := quote userSafe user
  let host ← encodeHost host
  let port ← normalPort p.scheme port
  let hasScheme := !scheme.isEmpty
  let hasAuthority := !userInfo.isEmpty || !host.isEmpty || port.isSome
  checkPath hasScheme hasAuthority p.path
  let path := if hasScheme || hasAuthority then normalPath p.path else p.path
  return {
    scheme, userInfo, host, port
    path := quote pathSafe path
    query := p.query.map (quote querySafe)
    fragment := p.fragment.map (quote fragmentSafe) }

def parse (cs : List Char) : Except Failure Url :=
  if sizeLimit < cs.length then .error (bad "URL too long")
  else
    match control? cs with
    | some (c, i) =>
      let shown := Text.quoted c.toString
      .error (bad s!"Invalid non-printable ASCII character in URL, {shown} at position {i}.")
    | none => ofParts (Parts.of cs)

def server (u : Url) : List Char :=
  let host := if u.host.contains ':' then '[' :: u.host ++ [']'] else u.host
  let port := match u.port with
    | some n => ':' :: (Text.decimal n).toList
    | none => []
  host ++ port

def authority (u : Url) : List Char :=
  (if u.userInfo.isEmpty then [] else u.userInfo ++ ['@']) ++ u.server

def text (u : Url) : List Char :=
  let scheme := if u.scheme.isEmpty then [] else u.scheme ++ [':']
  let authority := if u.authority.isEmpty then [] else '/' :: '/' :: u.authority
  let query := match u.query with
    | some q => '?' :: q
    | none => []
  let fragment := match u.fragment with
    | some f => '#' :: f
    | none => []
  scheme ++ authority ++ u.path ++ query ++ fragment

def isAbsolute (u : Url) : Bool := !u.scheme.isEmpty && !u.host.isEmpty

def checkHost (u : Url) : Except Failure Unit :=
  if u.host.take Label.formMark.length == Label.formMark then checkAsciiName u.host else .ok ()

/-- Check that host and port are in ASCII, as a request has to name them. -/
def checkServer (u : Url) : Except Failure Unit := Text.checkAscii u.server

/-- A URL that names no server becomes a path from the root. -/
def rooted (u : Url) : Except Failure Url :=
  if u.isAbsolute then .ok u
  else
    let path := u.path.dropWhile (· == '/')
    ofParts { scheme := [], authority := [], path := '/' :: path, query := none, fragment := none }

def checkComponent (name : String) (text : List Char) : Except Failure Unit :=
  if sizeLimit < text.length then .error (bad s!"URL component '{name}' too long")
  else
    match control? text with
    | some (c, i) =>
      .error (bad (s!"Invalid non-printable ASCII character in URL {name} component, " ++
        s!"{Text.quoted c.toString} at position {i}."))
    | none => .ok ()

/-- A URL some of whose components have been replaced, in normal form. -/
def renew (u : Url) : Except Failure Url := do
  checkComponent "scheme" u.scheme
  checkComponent "authority" u.authority
  checkComponent "path" u.path
  u.query.forM (checkComponent "query")
  u.fragment.forM (checkComponent "fragment")
  ofParts {
    scheme := u.scheme, authority := u.authority, path := u.path, query := u.query
    fragment := u.fragment }

def withForm (u : Url) (fields : List (String × String)) : Except Failure Url :=
  renew { u with query := some (formText fields) }

def hasFragment (u : Url) : Bool := u.fragment.any (!·.isEmpty)

/-- Check an address to which a server refers the client, whose request went to `u`. An address
without a host belongs to the same server, and one without a fragment takes that of the request. -/
def checkLocation (u : Url) (address : List Char) : Except Failure Unit := do
  let target ← (parse address).mapError fun f =>
    ⟨.transport .protocol, s!"Invalid URL in location header: {f.message}."⟩
  let target ←
    if target.scheme.isEmpty then
      let server := if target.host.isEmpty then u else target
      pure { target with
        scheme := u.scheme, userInfo := server.userInfo, host := server.host, port := server.port }
    else do
      target.checkHost
      if target.host.isEmpty then renew { target with host := u.host } else pure target
  if u.hasFragment && !target.hasFragment then
    discard (renew { target with fragment := u.fragment.map unquote, path := ['/'] })
  target.checkHost
  target.checkServer

end Url
end RouteFeed
