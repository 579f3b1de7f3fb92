import RouteFeed.Archive.Interfaces
import RouteFeed.Archive.Source
import RouteFeed.Live.Source
import RouteFeed.Settings

/-! The data interfaces of the program: those of the archive library, and the live feed. -/
namespace RouteFeed

abbrev AnySource := ArchiveSource ⊕ LiveSource

/-- What the sources work with. -/
structure Surroundings where
  library : Archive.Library
  server : Live.Server
  /-- The time now, at each line of the feed that cannot be read. -/
  clock : Nat → Int

namespace Settings

def liveSource (s : Settings) (around : Surroundings) : LiveSource where
  endpoint := s.endpoint
  clientName := s.clientName
  idleTimeout := .real s.idleTimeout
  httpTimeout := .real s.httpTimeout
  server := around.server
  watch := { clock := around.clock }

def addArchives (s : Settings) (around : Surroundings) (r : Registry AnySource) :
    Registry AnySource :=
  Archive.interfaces.foldl
    (fun r i =>
      let source : ArchiveSource := { interface := i.name, library := around.library }
      r.add i.name i.description (.ok (.inl source)) i.options (i.name == s.defaultBackend)) r

def addLive (s : Settings) (around : Surroundings) (r : Registry AnySource) : Registry AnySource :=
  r.add Live.project "Stream BGP messages in real-time from RIPE RIS Live"
    (.ok (.inr (s.liveSource around))) Live.options (Live.project == s.defaultBackend)

def registry (s : Settings) (around : Surroundings) : Registry AnySource :=
  s.addLive around (s.addArchives around {})

end Settings
end RouteFeed
