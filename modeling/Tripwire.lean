import Tripwire.Check.Session
import Tripwire.Main
import Tripwire.Rehearsal
import Tripwire.Proofs.Config.Forms
import Tripwire.Proofs.Config.Precedence
import Tripwire.Proofs.Wait.Course
import Tripwire.Proofs.Wait.Ticks
import Tripwire.Proofs.Check.Visit
import Tripwire.Proofs.Check.Reason
import Tripwire.Proofs.Check.History
import Tripwire.Proofs.Event.Reading
import Tripwire.Proofs.Event.Stamp
import Tripwire.Proofs.Listing.Page
import Tripwire.Proofs.Listing.Calls
import Tripwire.Proofs.Time.Calendar
import Tripwire.Proofs.Time.Printed
import Tripwire.Proofs.Check.Explained
import Tripwire.Proofs.Config.Contained
import Tripwire.Proofs.Config.Loading
import Tripwire.Proofs.CommandLine.Started
import Tripwire.Proofs.Event.Selecting
import Tripwire.Proofs.Listing.Served
import Tripwire.Proofs.CommandLine.Verdict
import Tripwire.Proofs.Decimal.Rounding
import Tripwire.Proofs.CommandLine.Script
import Tripwire.Proofs.Decimal.Sum
import Tripwire.Proofs.CommandLine.Added
import Tripwire.Proofs.CommandLine.Modes
import Tripwire.Proofs.Event.Meaning
import Tripwire.Proofs.Event.Window
import Tripwire.Proofs.Config.Kept
import Tripwire.Proofs.Config.Frame
import Tripwire.Proofs.Check.Queries
import Tripwire.Proofs.Wait.Polls
import Tripwire.Proofs.Config.Unshared
import Tripwire.Proofs.Config.Obstacle
import Tripwire.Proofs.Config.InForce
import Tripwire.Proofs.CommandLine.Repeated
import Tripwire.Proofs.Config.Grown
import Tripwire.Proofs.Config.Same
import Tripwire.Proofs.Config.Unordered
import Tripwire.Proofs.Decimal.Spelled
import Tripwire.Proofs.Decimal.Digits
import Tripwire.Proofs.Config.Interval
import Tripwire.Proofs.Value.Decoded
import Tripwire.Proofs.Event.Leaf
import Tripwire.Proofs.Event.Described
import Tripwire.Proofs.Time.Shaped
import Tripwire.Proofs.Event.Timestamp
import Tripwire.Proofs.Config.Proper
import Tripwire.Proofs.Config.Credential
import Tripwire.Proofs.Check.Report
import Tripwire.Proofs.Files.Root
import Tripwire.Proofs.Config.Ordered
