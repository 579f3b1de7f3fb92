import RouteFeed.Archive.Source
import RouteFeed.CommandLine.Run
import RouteFeed.Live.Source
import RouteFeed.Log.Layout
import RouteFeed.Main
import RouteFeed.Proofs.CommandLine.Output
import RouteFeed.Proofs.Feed.Faults
import RouteFeed.Retrieval
import RouteFeed.Settings.Reading
import RouteFeed.Source.Scripted
import RouteFeed.Proofs.Interruption
import RouteFeed.Proofs.Session.Handover
import RouteFeed.Proofs.Retrieval.Turns
import RouteFeed.Proofs.Retrieval.Whole
import RouteFeed.Proofs.Session.Drawing
import RouteFeed.Proofs.Retrieval.Interrupted
import RouteFeed.Proofs.CommandLine.Signals
import RouteFeed.Proofs.Session.Rehearsal
import RouteFeed.Proofs.CommandLine.Refusals
import RouteFeed.Proofs.CommandLine.Faults
import RouteFeed.Proofs.Retrieval.Fields
import RouteFeed.Proofs.Feed.Printing
import RouteFeed.Proofs.CommandLine.Morphism
import RouteFeed.Proofs.Archive.Calls
import RouteFeed.Proofs.Session.Unfired
import RouteFeed.Proofs.CommandLine.Orders
import RouteFeed.Proofs.CommandLine.Making
import RouteFeed.Proofs.CommandLine.Standing
import RouteFeed.Proofs.Feed.Bulletin
import RouteFeed.Proofs.Feed.Stamps
import RouteFeed.Proofs.Feed.Framing
import RouteFeed.Proofs.Retrieval.Fitting
import RouteFeed.Proofs.Retrieval.Holding
import RouteFeed.Proofs.Session.Configuration
import RouteFeed.Proofs.Retrieval.Dues
import RouteFeed.Proofs.Retrieval.Buffers
import RouteFeed.Proofs.Retrieval.Splitting
import RouteFeed.Proofs.Archive.Opening
import RouteFeed.Proofs.Archive.Readings
import RouteFeed.Proofs.Retrieval.Tally
import RouteFeed.Proofs.Session.Starting
import RouteFeed.Proofs.Feed.Waiting
import RouteFeed.Proofs.Feed.Options
import RouteFeed.Proofs.Registrations
import RouteFeed.Proofs.Gathering
import RouteFeed.Proofs.Cursors
import RouteFeed.Proofs.Numerals
import RouteFeed.Proofs.CommandLine.Windows
import RouteFeed.Proofs.Digits
import RouteFeed.Proofs.Feed.Paths
