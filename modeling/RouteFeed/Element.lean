import RouteFeed.Value.Access

/-! Routing elements: the entries of a valid record. Apart from its type, an element keeps each
field as the message gave it. -/
namespace RouteFeed

inductive ElementType where
  | rib
  | announcement
  | withdrawal
  | peerState
  deriving DecidableEq, Inhabited

namespace ElementType

def letter : ElementType → String
  | rib => "R"
  | announcement => "A"
  | withdrawal => "W"
  | peerState => "S"

def all : List ElementType := [rib, announcement, withdrawal, peerState]

def ofValue (v : Value) : Except Failure ElementType :=
  v.choose (all.map fun t => (t.letter, t)) "ElementType"

end ElementType

structure Element where
  type : ElementType
  time : Value := .int 0
  peerAddress : Value := .text []
  peerAsn : Value := .int 0
  network : Value := .null
  nextHop : Value := .null
  asPath : Value := .null
  communities : Value := .list []
  oldState : Value := .null
  newState : Value := .null
  origin : Value := .null
  deriving Inhabited

namespace Element

/-- The last word of the AS path; nothing without a path. -/
def originAsn (e : Element) : Except Failure Value :=
  if !e.asPath.isPresent then .ok .null
  else
    match e.asPath with
    | .text s =>
      match s.words.getLast? with
      | some word => .ok (.text word)
      | none => .error ⟨.noPosition, "list index out of range"⟩
    | v => .error (.lacksOperation v "split")

end Element
end RouteFeed
