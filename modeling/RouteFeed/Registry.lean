import RouteFeed.Value.Access

/-! The registry of data interfaces and of the options that each of them accepts.

Interfaces are numbered from one in the order in which they are registered, and their names
differ. The default is the last one registered as the default, or else the first. -/
namespace RouteFeed

/-- The number of a data interface. Any integer can be asked for. -/
abbrev BackendId := Int

structure OptionInfo where
  name : String
  description : String
  deriving DecidableEq

/-- An option for a data interface that owns it. -/
structure OptionHandle where
  backend : BackendId
  name : String
  deriving DecidableEq

/-- A registered data interface. Its factory gives a new closed source, or fails. -/
structure Backend (σ : Type) where
  id : BackendId
  name : String
  description : String
  options : List OptionInfo
  factory : Except Failure σ

namespace Backend

variable {σ : Type}

def owns (b : Backend σ) (option : String) : Bool :=
  b.options.any fun o => o.name == option

end Backend

/-- What is registered, in order, and which interface is the default. -/
structure Registry (σ : Type) where
  backends : List (Backend σ) := []
  preferred : Option BackendId := none

namespace Registry

variable {σ : Type}

def isTaken (r : Registry σ) (name : String) : Bool :=
  r.backends.any fun b => b.name == name

def nextId (r : Registry σ) : BackendId := Int.ofNat (r.backends.length + 1)

def register (r : Registry σ) (name description : String) (factory : Except Failure σ)
    (options : List OptionInfo := []) (asDefault : Bool := false) :
    Except Failure (BackendId × Registry σ) :=
  if r.isTaken name then .error (.badValue s!"Backend '{name}' is already registered")
  else
    let id := r.nextId
    .ok (id, {
      backends := r.backends ++ [{ id, name, description, options, factory }]
      preferred := if asDefault || r.preferred.isNone then some id else r.preferred })

/-- The registry after an interface has been registered; nothing changes if its name is taken. -/
def add (r : Registry σ) (name description : String) (factory : Except Failure σ)
    (options : List OptionInfo := []) (asDefault : Bool := false) : Registry σ :=
  match r.register name description factory options asDefault with
  | .ok (_, r) => r
  | .error _ => r

def defaultBackend (r : Registry σ) : Except Failure BackendId :=
  match r.preferred with
  | some id => .ok id
  | none => .error (.backendNotFound "<default>")

def isDefault (r : Registry σ) (id : BackendId) : Bool := r.preferred == some id

def find? (r : Registry σ) (id : BackendId) : Option (Backend σ) :=
  r.backends.find? fun b => b.id == id

/-- The message shows the number, if it can be shown. -/
def unknownNumber (id : BackendId) : Failure :=
  if Value.isShort id then .backendNotFound (Text.decimal id) else .tooLongToShow

def info (r : Registry σ) (id : BackendId) : Except Failure (Backend σ) :=
  match r.find? id with
  | some b => .ok b
  | none => .error (unknownNumber id)

def resolveBackend (r : Registry σ) (name : String) : Except Failure BackendId :=
  match r.backends.find? fun b => b.name == name with
  | some b => .ok b.id
  | none => .error (.backendNotFound name)

def listOptions (r : Registry σ) (id : BackendId) : Except Failure (List OptionInfo) :=
  (r.info id).map Backend.options

def resolveOption (r : Registry σ) (id : BackendId) (name : String) :
    Except Failure OptionHandle := do
  let b ← r.info id
  if b.owns name then return ⟨id, name⟩ else throw (.optionNotFound b.name name)

end Registry
end RouteFeed
