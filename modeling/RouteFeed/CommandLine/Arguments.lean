import RouteFeed.CommandLine.Window
import RouteFeed.Given

/-! The arguments of the command line.

Every option is one letter behind a dash. A value stands in the same argument, with or without an
equals sign, or in the next one, unless that looks like an option itself. Letters without a value
can be bundled. There are no arguments without an option; what is left over is refused. -/
namespace RouteFeed.CommandLine

inductive Switch where
  | interface
  | option
  | project
  | collector
  | type
  | window
  | period
  | blocking
  | records
  | bgpdump
  | elements
  | help
  deriving DecidableEq

namespace Switch

def ofLetter? : Char → Option Switch
  | 'd' => some interface
  | 'o' => some option
  | 'p' => some project
  | 'c' => some collector
  | 't' => some type
  | 'w' => some window
  | 'P' => some period
  | 'b' => some blocking
  | 'r' => some records
  | 'm' => some bgpdump
  | 'e' => some elements
  | 'h' => some help
  | '?' => some help
  | _ => none

def label : Switch → String
  | interface => "-d"
  | option => "-o"
  | project => "-p"
  | collector => "-c"
  | type => "-t"
  | window => "-w"
  | period => "-P"
  | blocking => "-b"
  | records => "-r"
  | bgpdump => "-m"
  | elements => "-e"
  | help => "-h/-?"

def takesValue : Switch → Bool
  | blocking | records | bgpdump | elements | help => false
  | _ => true

end Switch

structure Arguments where
  interface : Option (Given String) := none
  options : List (Given String) := []
  projects : List (Given String) := []
  collectors : List (Given String) := []
  types : List (Given String) := []
  windows : List (Given TimeWindow) := []
  period : Given Int := .value 0
  blocking : Bool := false
  records : Bool := false
  bgpdump : Bool := false
  elements : Bool := false
  help : Bool := false

inductive Token where
  | endMark
  | plain
  | switch (s : Switch) (attached : Option (List Char))
  /-- A text that looks like an option and is none. -/
  | unknown

/-- A dash and digits, with a point among them or not; a line end may follow. -/
def isNegativeNumber (cs : List Char) : Bool :=
  let isDigit (c : Char) : Bool := (Text.digitValue? c).isSome
  match cs with
  | '-' :: body =>
    let body := if body.getLast? == some '\n' then body.dropLast else body
    let rest := body.dropWhile isDigit
    match rest with
    | [] => !body.isEmpty
    | '.' :: fraction => !fraction.isEmpty && fraction.all isDigit
    | _ => false
  | _ => false

/-- What an argument is, apart from the end mark. -/
def classify (arg : List Char) : Token :=
  match arg with
  | '-' :: letter :: rest =>
    match Switch.ofLetter? letter with
    | some s =>
      match rest with
      | [] => .switch s none
      | '=' :: value => .switch s (some value)
      | _ => .switch s (some rest)
    | none => if isNegativeNumber arg || arg.contains ' ' then .plain else .unknown
  | _ => .plain

abbrev Piece := List Char × Token

/-- The arguments in order. Behind an end mark everything is plain. -/
def classifyAll : List (List Char) → List Piece
  | [] => []
  | arg :: args =>
    if arg == ['-', '-'] then (arg, .endMark) :: args.map fun a => (a, .plain)
    else (arg, classify arg) :: classifyAll args

def switchFault (s : Switch) (message : String) : Failure :=
  .usage s!"argument {s.label}: {message}"

/-- Something is attached to an option that takes no value. -/
def ignoredFault (s : Switch) (attached : List Char) : Failure :=
  switchFault s s!"ignored explicit argument {Text.quoted (String.ofList attached)}"

/-- Options in one argument: letters without a value, and what comes last. -/
structure Bundle where
  flags : List Switch := []
  /-- The last letter, if it takes a value, with the text attached to it. -/
  last : Option (Switch × Option (List Char)) := none

/-- Take an option and what is attached to it apart. A letter with a value takes the rest of the
argument. -/
def unbundle (s : Switch) : List Char → Except Failure Bundle
  | [] => if s.takesValue then .ok { last := some (s, some []) } else .error (ignoredFault s [])
  | c :: cs =>
    if s.takesValue then .ok { last := some (s, some (c :: cs)) }
    else
      match Switch.ofLetter? c with
      | none => .error (ignoredFault s (c :: cs))
      | some next =>
        if cs.isEmpty then
          if next.takesValue then .ok { flags := [s], last := some (next, none) }
          else .ok { flags := [s, next] }
        else (unbundle next cs).map fun b => { b with flags := s :: b.flags }

def Bundle.of (s : Switch) : Option (List Char) → Except Failure Bundle
  | some attached => unbundle s attached
  | none => .ok (if s.takesValue then { last := some (s, none) } else { flags := [s] })

/-- A value that is attached to its option. That an end mark is erased here holds for some patch
releases of the argument parser only; in the others it stands as it is given. -/
def attachedValue (value : List Char) : Given (List Char) :=
  if value == ['-', '-'] then .erased else .value value

def convert {α : Type} (f : String → Except Failure α) : Given (List Char) →
    Except Failure (Given α)
  | .erased => .ok .erased
  | .value cs => (f (String.ofList cs)).map .value

def integerOf (s : Switch) (text : String) : Except Failure Int :=
  match Number.readInteger text.toList with
  | .ok n => .ok n
  | .error _ => .error (switchFault s s!"invalid int value: {Text.quoted text}")

def windowOf (s : Switch) (text : String) : Except Failure TimeWindow :=
  (TimeWindow.parse text).mapError fun f => switchFault s f.message

def Arguments.note (a : Arguments) (s : Switch) (value : Given (List Char)) :
    Except Failure Arguments := do
  match s with
  | .interface => return { a with interface := some (← convert .ok value) }
  | .option => return { a with options := a.options ++ [← convert .ok value] }
  | .project => return { a with projects := a.projects ++ [← convert .ok value] }
  | .collector => return { a with collectors := a.collectors ++ [← convert .ok value] }
  | .type => return { a with types := a.types ++ [← convert .ok value] }
  | .window => return { a with windows := a.windows ++ [← convert (windowOf s) value] }
  | .period => return { a with period := ← convert (integerOf s) value }
  | _ => return a

def Arguments.set (a : Arguments) : Switch → Arguments
  | .blocking => { a with blocking := true }
  | .records => { a with records := true }
  | .bgpdump => { a with bgpdump := true }
  | .elements => { a with elements := true }
  | .help => { a with help := true }
  | _ => a

/-- Note the options of one argument. The flag tells whether the next argument was their value. -/
def Arguments.apply (a : Arguments) (s : Switch) (attached : Option (List Char))
    (following : Option Piece) : Except Failure (Arguments × Bool) := do
  let bundle ← Bundle.of s attached
  let a := bundle.flags.foldl Arguments.set a
  match bundle.last with
  | none => return (a, false)
  | some (s, some value) => return (← a.note s (attachedValue value), false)
  | some (s, none) =>
    match following with
    | some (value, .plain) => return (← a.note s (.value value), true)
    | _ => throw (switchFault s "expected one argument")

/-- Read the pieces in order; what belongs to no option is left over. -/
def readPieces (a : Arguments) (extras : List (List Char)) : List Piece →
    Except Failure (Arguments × List (List Char))
  | [] => .ok (a, extras)
  | (_, .switch s attached) :: rest =>
    match a.apply s attached rest.head? with
    | .error f => .error f
    | .ok (a, false) => readPieces a extras rest
    | .ok (a, true) =>
      match rest with
      | [] => .ok (a, extras)
      | _ :: rest => readPieces a extras rest
  | (text, _) :: rest => readPieces a (extras ++ [text]) rest

def Arguments.parse (argv : List String) : Except Failure Arguments := do
  let (a, extras) ← readPieces {} [] (classifyAll (argv.map String.toList))
  if extras.isEmpty then return a
  else
    let texts := String.intercalate " " (extras.map String.ofList)
    throw (.usage s!"unrecognized arguments: {texts}")

end RouteFeed.CommandLine
