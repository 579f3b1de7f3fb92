import RouteFeed.Live.Source
import RouteFeed.Settings.Assignments
import RouteFeed.Settings.Numeral
import RouteFeed.Settings.Problem
import RouteFeed.Text.LowerCase

/-! Reading the settings.

A field is given directly, by a variable of the environment, or by a file of assignments; the first
of these that gives it counts. The case of names does not matter. Of names that differ in case
only the last one counts; of those given directly, the one in capitals, or else the first. A field
that is given nowhere has its default. All refusals are reported, in the order of the fields. -/
namespace RouteFeed.Settings

open Number (Binary64)

/-- Where settings come from. -/
structure Origins where
  given : Named Value := []
  environment : Named String := []
  file : Option String := none

/-- The last value under a name, whatever its case. -/
def lastNamed? {α : Type} (vs : Named α) (name : String) : Option α :=
  let lowered := Text.lower name.toList
  (vs.reverse.find? fun v => Text.lower v.1.toList == lowered).map Prod.snd

/-- The value under a name, or else under the first name that differs from it in case alone. -/
def firstNamed? {α : Type} (vs : Named α) (name : String) : Option α :=
  (Named.get? vs name).or (lastNamed? vs.reverse name)

def Origins.assigned (o : Origins) : Named (Option String) :=
  match o.file with
  | some text => assignedNames o.environment text
  | none => []

def Origins.value? (o : Origins) (f : Field) : Option Value :=
  match firstNamed? o.given f.name with
  | some v => some v
  | none =>
    match lastNamed? o.environment f.variableName with
    | some s => some (.text s)
    | none => (lastNamed? o.assigned f.variableName).join.map .text

def readString (s : Points) : Except Problem String := s.string?.elim (.error .brokenText) .ok

def readText : Value → Except Problem String
  | .text s => readString s
  | _ => .error .noText

def integerReach : Int := Int.pow 2 63

def readInteger : Value → Except Problem Int
  | .int n => .ok n
  | .bool b => .ok (if b then 1 else 0)
  | .real x =>
    match x.truncate with
    | none => .error .notFinite
    | some n =>
      if !x.isIntegral then .error .fraction
      else if n.natAbs < integerReach then .ok n
      else .error .integerSize
  | .text s => do
    match readWhole (← readString s).toList with
    | .ok n => return n
    | .error .malformed => throw .integerText
    | .error .tooLong => throw .integerSize
  | _ => .error .noInteger

def readAtLeast (minimum : Int) (v : Value) : Except Problem Int := do
  let n ← readInteger v
  if n < minimum then throw (.belowMinimum minimum) else return n

def readReal : Value → Except Problem Binary64
  | .real x => .ok x
  | .int n =>
    match Binary64.ofInt n with
    | .infinite _ => .error .noReal
    | x => .ok x
  | .bool b => .ok (.ofInt (if b then 1 else 0))
  | .text s => do
    match readRealSetting (← readString s).toList with
    | some x => return x
    | none => throw .realText
  | _ => .error .noReal

def readPositive (v : Value) : Except Problem Binary64 := do
  let x ← readReal v
  if x.gtInt 0 then return x else throw .notPositive

def capital (c : Char) : Char := if c == 'ı' then 'I' else c.toUpper

/-- A log level, in letters of either case. -/
def readLevel (v : Value) : Except Problem LogLevel := do
  let given ← readText v
  match LogLevel.ofCapitals? (given.map capital) with
  | some level => return level
  | none => throw (.levelName given)

def readLayout (v : Value) : Except Problem LogEntry.Layout := do
  match ← readText v with
  | "text" => return .text
  | "json" => return .json
  | _ => throw .layoutName

def readAddress (v : Value) : Except Problem String := do
  let given ← readText v
  if LiveSource.isWebAddress given then return given else throw .address

/-- Take a field. If its value is refused, that is noted, and the default stands in for it. -/
def take {α : Type} (o : Origins) (f : Field) (fallback : α) (read : Value → Except Problem α) :
    StateM (List Refusal) α := do
  match o.value? f with
  | none => return fallback
  | some given =>
    match read given with
    | .ok a => return a
    | .error problem =>
      modify (· ++ [⟨f, given, problem⟩])
      return fallback

def takeAll (o : Origins) : StateM (List Refusal) Settings := do
  let preset : Settings := {}
  let logLevel ← take o .logLevel preset.logLevel readLevel
  let logLayout ← take o .logFormat preset.logLayout readLayout
  let defaultBackend ← take o .defaultBackend preset.defaultBackend readText
  let elementBuffer ← take o .elementBufferSize preset.elementBuffer (readAtLeast 64)
  let maxProjects ← take o .maxProjects preset.maxProjects (readAtLeast 1)
  let maxCollectors ← take o .maxCollectors preset.maxCollectors (readAtLeast 1)
  let maxRecordTypes ← take o .maxRecordTypes preset.maxRecordTypes (readAtLeast 1)
  let maxWindows ← take o .maxWindows preset.maxWindows (readAtLeast 1)
  let maxOptions ← take o .maxOptions preset.maxOptions (readAtLeast 1)
  let endpoint ← take o .endpoint preset.endpoint readAddress
  let clientName ← take o .client preset.clientName readText
  let idleTimeout ← take o .idleTimeout preset.idleTimeout readPositive
  let httpTimeout ← take o .httpTimeout preset.httpTimeout readPositive
  return {
    logLevel, logLayout, defaultBackend, elementBuffer, maxProjects, maxCollectors,
    maxRecordTypes, maxWindows, maxOptions, endpoint, clientName, idleTimeout, httpTimeout }

def load (o : Origins) : Except (List Refusal) Settings :=
  let (settings, refusals) := (takeAll o).run []
  if refusals.isEmpty then .ok settings else .error refusals

end RouteFeed.Settings
