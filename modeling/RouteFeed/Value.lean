import RouteFeed.Named
import RouteFeed.Number.Binary64
import RouteFeed.Text.Points

/-! Values of feed messages, of scripts and of log fields: what a message holds is not known before
it is read, so its fields stay values until an operation needs more of them. -/
namespace RouteFeed

open Number (Binary64)

/-- A value. The fields of an object keep their order. -/
inductive Value where
  | null
  | bool (b : Bool)
  | int (n : Int)
  | real (x : Binary64)
  | text (s : Points)
  | list (items : List Value)
  /-- A row that is fixed once it is made, and shown in parentheses. -/
  | row (items : List Value)
  | object (fields : List (Points × Value))
  deriving Inhabited

abbrev Fields := List (Points × Value)

namespace Value

def shape : Value → String
  | null => "NoneType"
  | bool _ => "bool"
  | int _ => "int"
  | real _ => "float"
  | text _ => "str"
  | list _ => "list"
  | row _ => "tuple"
  | object _ => "dict"

/-- Whether a value counts as present where only presence is asked: not empty, zero or false. -/
def isPresent : Value → Bool
  | null => false
  | bool b => b
  | int n => n != 0
  | real x => !x.isZero
  | text s => !s.isEmpty
  | list items | row items => !items.isEmpty
  | object fields => !fields.isEmpty

def texts (items : List Points) : Value := .list (items.map .text)

def string? : Value → Option String
  | text s => s.string?
  | _ => none

@[simp] theorem string?_text (s : String) : string? (.text s) = some s := Points.string?_ofString s

theorem string?_eq_some_iff {v : Value} {s : String} : v.string? = some s ↔ v = .text s := by
  cases v <;> simp [string?, Points.string?_eq_some_iff]

def ofText? : Option Points → Value
  | some s => .text s
  | none => .null

end Value
end RouteFeed
