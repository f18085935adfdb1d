import Tripwire.Cluster.Basic
import Tripwire.Event.Wire
import Tripwire.Json.Reader

/-!
# Listings

The events of a cluster come page by page. Each page may carry a token with which the next page is
asked for; the first page without one is the last. The events of a listing are those of its pages, in
order; when a page fails the listing fails.

Component `failfast.events.cluster`, section 4.6 of the specification; the lines that are named are that
component's.
-/

namespace Tripwire

variable {W : Type}

/-- Part of a listing, and the token that asks for the next part. -/
structure Page where
  events : List Event
  next : Value

def Response.document (r : Response) : Except Fault Value :=
  match Text.decodeAny? r.body with
  | none => .error (.badEncoding "")
  | some cs =>
    match Json.readDocument cs with
    | .ok v => .ok v
    | .error .malformed => .error .badJson
    | .error (.tooManyDigits digits) => .error (.tooManyDigitsToRead digits)

/-- The page in a response (lines 58-62). -/
def Page.ofResponse (r : Response) : Act W Page := do
  if !r.succeeded then Act.fail (.httpStatus r.status)
  let document ← Act.ofExcept r.document
  let items ← Act.ofExcept (document.lookup "items")
  let events ← Event.ofEntries (if items.isTruthy then items else .list [])
  let metadata ← Act.ofExcept (document.lookup "metadata")
  let next ← Act.ofExcept (metadata.orEmptyMap.lookup "continue")
  return { events, next }

namespace Connection

/-- The request for the page that a token stands for; the first page has no token (lines 51-57). -/
def request (c : Connection) (token : Value) : Request where
  url := c.eventsUrl
  headers := c.headers
  params :=
    (if 0 < c.settings.pageSize then [("limit", .int c.settings.pageSize)] else []) ++
      (if token.isTruthy then [("continue", token)] else [])

/-- The events of the pages from the one that a token stands for, with at most so many requests (lines
50-64). -/
def eventsFrom (c : Connection) (network : Network W) : Nat → Value → Act W (List Event)
  | 0, _ => Act.fail .endlessListing
  | limit + 1, token => do
    let response ← network.get (c.request token)
    let page ← Page.ofResponse response
    if page.next.isTruthy then
      let others ← c.eventsFrom network limit page.next
      return page.events ++ others
    return page.events

/-- The events of a cluster (`list_events`, lines 34-67). -/
def listEvents (c : Connection) (network : Network W) : Act W (List Event) := do
  network.connect { timeout := c.settings.requestTimeout, verify := c.cluster.verify }
  let limit ← Act.look network.reach
  let events ← c.eventsFrom network limit .null
  Act.note .debug
    ("Cluster " ++ c.cluster.name ++ " returned " ++ toString events.length ++ " events")
  return events

end Connection

end Tripwire
