import RouteFeed.Registry

/-! The data interfaces of the archive library, with the options that each of them accepts. -/
namespace RouteFeed.Archive

structure Interface where
  name : String
  description : String
  options : List OptionInfo

def interfaces : List Interface := [
  { name := "broker"
    description := "Retrieve metadata information from the BGPStream Broker"
    options := [
      ⟨"url", "Broker URI (default: https://broker.bgpstream.caida.org/v2)"⟩,
      ⟨"param", "Additional Broker GET parameter"⟩,
      ⟨"cache-dir", "Enable local cache at provided directory"⟩] },
  { name := "singlefile"
    description := "Read a single mrt data file (a RIB and/or an update)"
    options := [
      ⟨"rib-file", "rib mrt file to read (default: unset)"⟩,
      ⟨"upd-file", "updates mrt file to read (default: unset)"⟩] },
  { name := "csvfile"
    description := "Retrieve metadata information from a csv file"
    options := [⟨"csv-file", "csv file listing the mrt data to read (default: unset)"⟩] },
  { name := "sqlite"
    description := "Retrieve metadata information from a sqlite database"
    options := [⟨"db-file", "sqlite database (default: unset)"⟩] },
  { name := "kafka"
    description := "Read updates in real-time from an Apache Kafka topic"
    options := [
      ⟨"brokers", "Comma-separated list of kafka brokers (host:port)"⟩,
      ⟨"topic", "Topic to consume"⟩,
      ⟨"group", "Consumer group id"⟩,
      ⟨"offset", "Offset to start from (earliest, latest)"⟩,
      ⟨"project", "Project name to assign to records"⟩,
      ⟨"collector", "Collector name to assign to records"⟩] }]

end RouteFeed.Archive
