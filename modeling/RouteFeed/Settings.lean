import RouteFeed.Log.Layout
import RouteFeed.Number.Binary64
import RouteFeed.Render

/-! The settings of the program, and the fields under which they are given. -/
namespace RouteFeed

open Number (Binary64)

structure Settings where
  logLevel : LogLevel := .warning
  logLayout : LogEntry.Layout := .text
  /-- The data interface of a command line that names none. -/
  defaultBackend : String := "broker"
  /-- The bytes for the line of an element, its end included. -/
  elementBuffer : Int := defaultElementBuffer
  maxProjects : Int := 10
  maxCollectors : Int := 100
  maxRecordTypes : Int := 10
  maxWindows : Int := 1024
  maxOptions : Int := 1024
  endpoint : String := "https://ris-live.ripe.net/v1/stream/"
  clientName : String := "bgpreader"
  /-- Seconds without data after which a live feed counts as exhausted. -/
  idleTimeout : Binary64 := .ofInt 10
  httpTimeout : Binary64 := .ofInt 30

namespace Settings

inductive Field where
  | logLevel
  | logFormat
  | defaultBackend
  | elementBufferSize
  | maxProjects
  | maxCollectors
  | maxRecordTypes
  | maxWindows
  | maxOptions
  | endpoint
  | client
  | idleTimeout
  | httpTimeout
  deriving DecidableEq

namespace Field

def name : Field → String
  | logLevel => "LOG_LEVEL"
  | logFormat => "LOG_FORMAT"
  | defaultBackend => "DEFAULT_BACKEND"
  | elementBufferSize => "ELEMENT_BUFFER_SIZE"
  | maxProjects => "MAX_PROJECTS"
  | maxCollectors => "MAX_COLLECTORS"
  | maxRecordTypes => "MAX_RECORD_TYPES"
  | maxWindows => "MAX_WINDOWS"
  | maxOptions => "MAX_OPTIONS"
  | endpoint => "RIS_LIVE_ENDPOINT"
  | client => "RIS_LIVE_CLIENT"
  | idleTimeout => "RIS_LIVE_IDLE_TIMEOUT"
  | httpTimeout => "HTTP_TIMEOUT"

def all : List Field := [
  logLevel, logFormat, defaultBackend, elementBufferSize, maxProjects, maxCollectors,
  maxRecordTypes, maxWindows, maxOptions, endpoint, client, idleTimeout, httpTimeout]

def variableName (f : Field) : String := "BGPREADER_" ++ f.name

end Field
end Settings
end RouteFeed
