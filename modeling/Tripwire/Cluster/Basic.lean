import Tripwire.Act

/-!
# Clusters

Where a cluster is, how to sign in, and how to make requests to it; what goes to it, what comes back,
and the means by which it does.

Component `failfast.events.cluster`, section 4.6 of the specification; the lines that are named are that
component's. A cluster and its settings are the `ClusterConfig` and `Settings` of `failfast.config`, and
a connection holds both of them, as `ClusterSettings` does.
-/

namespace Tripwire

/-- A cluster whose events can be listed. Without a namespace the events of all of them are meant. -/
structure Cluster where
  name : String
  url : String
  token : Option String := none
  space : Option String := none
  verify : Bool := true
deriving DecidableEq, Repr

/-- How requests are made. A page size that is not positive leaves the size to the cluster. -/
structure Settings where
  requestTimeout : Int
  userAgent : String
  pageSize : Int
deriving DecidableEq, Repr

/-- A cluster together with the way to make requests to it. -/
structure Connection where
  cluster : Cluster
  settings : Settings
deriving DecidableEq, Repr

namespace Connection

/-- A text that is set and not empty. -/
def given (text : Option String) : Option String := text.filter (· != "")

/-- Where the events of a cluster are (`_events_url`, lines 70-74). -/
def eventsUrl (c : Connection) : String :=
  let base := (c.cluster.url.dropEndWhile '/').toString
  match given c.cluster.space with
  | some space => base ++ "/api/v1/namespaces/" ++ space ++ "/events"
  | none => base ++ "/api/v1/events"

/-- What each request says about its sender (lines 36-41). -/
def headers (c : Connection) : List (String × String) :=
  [("Accept", "application/json"), ("User-Agent", c.settings.userAgent)] ++
    ((given c.cluster.token).map fun token => ("Authorization", "Bearer " ++ token)).toList

end Connection

/-! ### Requests and responses -/

/-- A request. The parameters are not encoded. -/
structure Request where
  url : String
  headers : List (String × String)
  params : List (String × Value)

/-- A response: its status and the bytes of its body. -/
structure Response where
  status : Int
  body : List UInt8
deriving DecidableEq, Repr

def Response.succeeded (r : Response) : Bool := 200 ≤ r.status && r.status ≤ 299

/-- How a client is set up for the requests of one listing. -/
structure Client where
  timeout : Int
  verify : Bool
deriving DecidableEq, Repr

/-- The means to reach clusters in a world. No listing makes more requests than `reach` says. -/
structure Network (W : Type) where
  connect : Client → Act W Unit
  get : Request → Act W Response
  reach : W → Nat

end Tripwire
