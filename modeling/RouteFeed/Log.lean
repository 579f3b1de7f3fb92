import RouteFeed.Value

/-! Log entries: what a session, its source and the command line report while they run. Every
operation that reports returns its entries in order. -/
namespace RouteFeed

inductive LogLevel where
  | debug
  | info
  | warning
  | error
  | critical
  deriving DecidableEq

namespace LogLevel

def rank : LogLevel → Nat
  | debug => 10
  | info => 20
  | warning => 30
  | error => 40
  | critical => 50

def name : LogLevel → String
  | debug => "debug"
  | info => "info"
  | warning => "warning"
  | error => "error"
  | critical => "critical"

def all : List LogLevel := [debug, info, warning, error, critical]

def ofCapitals? (s : String) : Option LogLevel :=
  all.find? fun level => level.name.map Char.toUpper == s

end LogLevel

structure LogEntry where
  level : LogLevel
  event : String
  fields : List (String × Value) := []

abbrev Log := List LogEntry

namespace LogEntry

def debug (event : String) (fields : List (String × Value) := []) : LogEntry :=
  ⟨.debug, event, fields⟩
def info (event : String) (fields : List (String × Value) := []) : LogEntry :=
  ⟨.info, event, fields⟩
def warning (event : String) (fields : List (String × Value) := []) : LogEntry :=
  ⟨.warning, event, fields⟩
def error (event : String) (fields : List (String × Value) := []) : LogEntry :=
  ⟨.error, event, fields⟩

end LogEntry

def Log.from (level : LogLevel) (log : Log) : Log :=
  List.filter (fun entry => level.rank ≤ entry.level.rank) log

end RouteFeed
