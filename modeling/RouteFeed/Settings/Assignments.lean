import RouteFeed.Named
import RouteFeed.Text.Blank

/-! Files of assignments.

A line assigns a value to a name: `NAME=value`, where `export` may stand before the name. A bare
value ends with its line, or at a `#` behind a blank. A value in quotes may span lines and hold
escapes. A name may stand alone. What does not have this form is passed over up to the end of its
line. A value can refer to other names. -/
namespace RouteFeed.Settings

open Text (isBlank)

/-- A name with its value; a name that stands alone has none. -/
structure Assignment where
  name : String
  value : Option String
  deriving DecidableEq

/-- Reading gives a value and what follows it, or stops in front of what cannot be read. -/
abbrev Reading (α : Type) := Except (List Char) (α × List Char)

/-- Every line end becomes a line feed. -/
def unifyLineEnds : List Char → List Char
  | '\r' :: '\n' :: cs => '\n' :: unifyLineEnds cs
  | '\r' :: cs => '\n' :: unifyLineEnds cs
  | c :: cs => c :: unifyLineEnds cs
  | [] => []

def isMargin (c : Char) : Bool := isBlank c && c != '\n'

def skipMargin (cs : List Char) : List Char := cs.dropWhile isMargin

def skipLine (cs : List Char) : List Char := (cs.dropWhile (· != '\n')).drop 1

def isNameChar (c : Char) : Bool := !isBlank c && c != '=' && c != '#'

def exportWord : List Char := ['e', 'x', 'p', 'o', 'r', 't']

/-- Pass over the word before a name, if a blank of the line follows it. -/
def skipExport (cs : List Char) : List Char :=
  let rest := cs.drop exportWord.length
  if cs.take exportWord.length == exportWord && rest.head?.any isMargin then skipMargin rest
  else cs

def readName (cs : List Char) : Reading (List Char) :=
  match cs with
  | '\'' :: body =>
    let name := body.takeWhile (· != '\'')
    match body.dropWhile (· != '\'') with
    | _ :: rest => if name.isEmpty then .error cs else .ok (name, rest)
    | [] => .error cs
  | _ =>
    let name := cs.takeWhile isNameChar
    if name.isEmpty then .error cs else .ok (name, cs.dropWhile isNameChar)

/-- Split at the quote that ends a value. A backslash takes the next character of its line with
it; one at the end of a line leaves the value without an end. -/
def splitQuoted? (quote : Char) : List Char → Option (List Char × List Char)
  | [] => none
  | c :: cs =>
    if c == quote then some ([], cs)
    else if c == '\\' then
      match cs with
      | [] => none
      | d :: cs =>
        if d == '\n' then none
        else (splitQuoted? quote cs).map fun (v, rest) => (c :: d :: v, rest)
    else (splitQuoted? quote cs).map fun (v, rest) => (c :: v, rest)

/-- Replace what a backslash introduces, where that is an escape. -/
def unescape (meaning : Char → Option Char) : List Char → List Char
  | '\\' :: c :: cs =>
    match meaning c with
    | some d => d :: unescape meaning cs
    | none => '\\' :: c :: unescape meaning cs
  | c :: cs => c :: unescape meaning cs
  | [] => []

def singleEscape : Char → Option Char
  | '\\' => some '\\'
  | '\'' => some '\''
  | _ => none

def doubleEscape : Char → Option Char
  | '\\' => some '\\'
  | '\'' => some '\''
  | '"' => some '"'
  | 'a' => some '\x07'
  | 'b' => some '\x08'
  | 'f' => some '\x0c'
  | 'n' => some '\n'
  | 'r' => some '\r'
  | 't' => some '\t'
  | 'v' => some '\x0b'
  | _ => none

def beforeComment : (afterBlank : Bool) → List Char → List Char
  | _, [] => []
  | afterBlank, c :: cs =>
    if c == '#' && afterBlank then [] else c :: beforeComment (isBlank c) cs

/-- A bare value, without the blanks at its end. It may stand behind a blank itself. -/
def bareValue (afterBlank : Bool) (line : List Char) : List Char :=
  ((beforeComment afterBlank line).reverse.dropWhile isBlank).reverse

def readQuoted (quote : Char) (meaning : Char → Option Char) (body : List Char) :
    Reading (List Char) :=
  match splitQuoted? quote body with
  | some (v, rest) => .ok (unescape meaning v, rest)
  | none => .error body

/-- What stands behind an equals sign: a value in quotes, or a bare one. -/
def readValue (cs : List Char) : Reading (List Char) :=
  match skipMargin cs with
  | '\'' :: body => readQuoted '\'' singleEscape body
  | '"' :: body => readQuoted '"' doubleEscape body
  | value =>
    .ok (bareValue (cs.head?.any isMargin) (value.takeWhile (· != '\n')),
      value.dropWhile (· != '\n'))

/-- What follows the line, of which only blanks and a comment may be left. -/
def readLineEnd (cs : List Char) : Except (List Char) (List Char) :=
  match skipMargin cs with
  | [] => .ok []
  | '\n' :: rest => .ok rest
  | '#' :: rest => .ok (skipLine rest)
  | _ => .error cs

def readAssignment (cs : List Char) : Except (List Char) (Assignment × List Char) := do
  let (name, rest) ← readName (skipExport cs)
  let (value, rest) ← match skipMargin rest with
    | '=' :: rest => (readValue rest).map fun (v, rest) => (some (String.ofList v), rest)
    | rest => .ok (none, rest)
  let rest ← readLineEnd rest
  return (⟨String.ofList name, value⟩, rest)

/-- The assignments of a text, reading at most so many lines. -/
def assignmentsWithin : Nat → List Char → List Assignment
  | 0, _ => []
  | lines + 1, cs =>
    let cs := cs.dropWhile isBlank
    if cs.isEmpty then []
    else
      match readAssignment cs with
      | .ok (a, rest) => a :: assignmentsWithin lines rest
      | .error rest => assignmentsWithin lines (skipLine rest)

def assignments (text : List Char) : List Assignment :=
  let cs := unifyLineEnds text
  assignmentsWithin cs.length cs

structure Reference where
  name : String
  fallback : String := ""
  deriving DecidableEq

/-- A reference in braces, behind its dollar sign and opening brace, and what follows it. -/
def readReference? (cs : List Char) : Option (Reference × List Char) :=
  let name := cs.takeWhile fun c => c != '\x7d' && c != ':'
  match cs.drop name.length with
  | '\x7d' :: rest => some ({ name := String.ofList name }, rest)
  | ':' :: '-' :: rest =>
    let fallback := rest.takeWhile (· != '\x7d')
    match rest.drop fallback.length with
    | _ :: rest => some (⟨String.ofList name, String.ofList fallback⟩, rest)
    | [] => none
  | _ => none

/-- Replace the references of a text by their values, reading at most so many characters. -/
def expandWithin (resolve : Reference → String) : Nat → List Char → List Char
  | 0, cs => cs
  | _ + 1, [] => []
  | n + 1, '$' :: '\x7b' :: cs =>
    match readReference? cs with
    | some (r, rest) => (resolve r).toList ++ expandWithin resolve n rest
    | none => '$' :: expandWithin resolve n ('\x7b' :: cs)
  | n + 1, c :: cs => c :: expandWithin resolve n cs

/-- Replace the references of a text by their values. -/
def expand (resolve : Reference → String) (text : String) : String :=
  let cs := text.toList
  String.ofList (expandWithin resolve cs.length cs)

/-- The value of a reference: what the file has assigned before, or else the environment. -/
def resolveIn (environment : Named String) (assigned : Named (Option String)) (r : Reference) :
    String :=
  match Named.get? assigned r.name with
  | some value => value.getD ""
  | none => (Named.get? environment r.name).getD r.fallback

def assignedNames (environment : Named String) (text : String) : Named (Option String) :=
  (assignments text.toList).foldl
    (fun assigned a =>
      Named.put assigned a.name (a.value.map (expand (resolveIn environment assigned)))) []

end RouteFeed.Settings
