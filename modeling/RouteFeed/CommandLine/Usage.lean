import RouteFeed.CommandLine.Arguments
import RouteFeed.Registry

/-! The help texts of the command line. -/
namespace RouteFeed.CommandLine

variable {σ : Type}

def column (name : String) : String :=
  name ++ String.ofList (List.replicate (15 - name.length) ' ')

def interfaceLines (registry : Registry σ) : String :=
  String.join <| registry.backends.map fun b =>
    "       " ++ column b.name ++ b.description ++
      (if registry.isDefault b.id then " (default)" else "") ++ "\n"

def usage (registry : Registry σ) : String :=
  "usage: bgpreader -w <start,end> [<options>]\n" ++
  "Available options are:\n" ++
  "   -d <interface> use the given data interface to find available data\n" ++
  "                  available data interfaces are:\n" ++
  interfaceLines registry ++
  "   -o <option-name,option-value>*\n" ++
  "                  set an option for the current data interface.\n" ++
  "                  use '-o ?' to get a list of available options for the current\n" ++
  "                  data interface. (data interface can be selected using -d)\n" ++
  "   -p <project>   process records from only the given project (routeviews, ris)*\n" ++
  "   -c <collector> process records from only the given collector*\n" ++
  "   -t <type>      process records with only the given type (ribs, updates)*\n" ++
  "   -w <start,end> process records only within the given time window*\n" ++
  "   -P <period>    process a rib files every <period> seconds (bgp time)\n" ++
  "   -b             make blocking requests for BGP records\n" ++
  "                  allows bgpstream to be used to process data in real-time\n" ++
  "\n" ++
  "   -r             print info for each BGP record (default)\n" ++
  "   -m             print info for each BGP valid record in bgpdump -m format\n" ++
  "   -e             print info for each element of a valid BGP record\n" ++
  "\n" ++
  "   -h             print this help menu\n" ++
  "* denotes an option that can be given multiple times\n"

def describeOptions (registry : Registry σ) (id : BackendId) : Except Failure String :=
  (registry.info id).map fun b =>
    let head := s!"Data interface options for '{b.name}':\n"
    let lines :=
      if b.options.isEmpty then "   [NONE]\n"
      else String.join <| b.options.map fun o => "   " ++ column o.name ++ o.description ++ "\n"
    head ++ lines ++ "\n"

end RouteFeed.CommandLine
