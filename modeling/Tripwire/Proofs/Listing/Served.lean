import Tripwire.Check.Registry
import Tripwire.Proofs.Listing.Calls

/-!
# Clusters that answer

A cluster serves pages if each request of a listing gets a response of success whose entries all
describe events, and the first page without a token comes before the requests run out. The events of
such a listing are those of its pages, and a collection from several clusters puts them one after the
other.
-/

namespace Tripwire

variable {W : Type}

namespace Connection

/-- That the pages from the one on that a token stands for are given one by one, with at most so many
requests. -/
inductive Gives (c : Connection) (network : Network W) :
    Nat → Value → List Page → Stage W → Stage W → Prop where
  | last {limit : Nat} {token : Value} {r : Response} {entries : List Value} {page : Page}
      {s t : Stage W} (gave : (network.get (c.request token)).on s = (.ok r, t))
      (shows : r.Shows entries page.next) (describe : entries.map Event.read = page.events.map .ok)
      (isLast : page.next.isTruthy = false) :
      Gives c network (limit + 1) token [page] s ((Page.ofResponse r).on t).2
  | next {limit : Nat} {token : Value} {r : Response} {entries : List Value} {page : Page}
      {pages : List Page} {s t u : Stage W}
      (gave : (network.get (c.request token)).on s = (.ok r, t))
      (shows : r.Shows entries page.next) (describe : entries.map Event.read = page.events.map .ok)
      (more : page.next.isTruthy = true)
      (rest : Gives c network limit page.next pages ((Page.ofResponse r).on t).2 u) :
      Gives c network (limit + 1) token (page :: pages) s u

variable {c : Connection} {network : Network W} {limit : Nat} {token : Value} {pages : List Page}
  {s t : Stage W}

theorem on_ofResponse_of_shows {r : Response} {entries : List Value} {page : Page}
    (shows : r.Shows entries page.next) (describe : entries.map Event.read = page.events.map .ok)
    (s : Stage W) : (Page.ofResponse r).on s = (.ok page, ((Page.ofResponse r).on s).2) := by
  have hread : Page.read r = .ok page := Page.read_eq_ok.2 ⟨entries, shows, describe⟩
  have hon := (Page.reads_ofResponse r).on_eq s
  rw [hread] at hon
  exact hon

theorem Gives.on_eventsFrom (h : c.Gives network limit token pages s t) :
    (c.eventsFrom network limit token).on s = (.ok (pages.flatMap Page.events), t) := by
  induction h with
  | @last limit token r entries page s t gave shows describe isLast =>
    have hpage := on_ofResponse_of_shows shows describe t
    rw [eventsFrom, Act.on_bind_ok gave, Act.on_bind_ok hpage, isLast]
    simp
  | @next limit token r entries page pages s t u gave shows describe more rest ih =>
    have hpage := on_ofResponse_of_shows shows describe t
    rw [eventsFrom, Act.on_bind_ok gave, Act.on_bind_ok hpage, more, if_pos rfl,
      Act.on_bind_ok ih]
    rfl

/-- That a cluster gives pages when its events are listed. -/
inductive Serves (c : Connection) (network : Network W) (pages : List Page) (s : Stage W) :
    Stage W → Prop where
  | opened {s' t : Stage W} (connected : (network.connect c.client).on s = (.ok (), s'))
      (gives : c.Gives network (network.reach s'.world) .null pages s' t) :
      Serves c network pages s (c.closing (.ok (pages.flatMap Page.events)) t)

theorem Serves.on_listEvents (h : c.Serves network pages s t) :
    (c.listEvents network).on s = (.ok (pages.flatMap Page.events), t) := by
  obtain ⟨connected, gives⟩ := h
  have hlook (s : Stage W) : (Act.look network.reach).on s = (.ok (network.reach s.world), s) := by
    simp
  rw [listEvents]
  refine (Act.on_bind_ok connected).trans ((Act.on_bind_ok (hlook _)).trans ?_)
  exact Act.on_bind_ok gives.on_eventsFrom

end Connection

/-! ### Several clusters -/

/-- A cluster and the pages that it gives. -/
structure Answered where
  connection : Connection
  pages : List Page

namespace Answered

def events (a : Answered) : List Event := a.pages.flatMap Page.events

def Leads (network : Network W) (a : Answered) (s t : Stage W) : Prop :=
  a.connection.Serves network a.pages s t

variable {network : Network W} {answers : List Answered} {s t : Stage W}

def source (network : Network W) (a : Answered) : Source W := a.connection.listEvents network

theorem on_sources (h : Trail (Answered.Leads network) answers s t) :
    ((answers.map (source network)).mapM id : Act W (List (List Event))).on s =
      (.ok (answers.map events), t) := by
  induction h with
  | nil => rfl
  | @cons a rest s t u head tail ih =>
    have hfirst : (id (source network a)).on s = (.ok a.events, t) :=
      Connection.Serves.on_listEvents head
    rw [List.map_cons, List.mapM_cons, Act.on_bind_ok hfirst, Act.on_bind_ok ih]
    rfl

/-- The events are collected cluster by cluster, of each page by page. -/
theorem on_collect (h : Trail (Answered.Leads network) answers s t) :
    ∃ u, (collect (answers.map (source network))).on s = (.ok (answers.flatMap events), u) := by
  have hflatten : (answers.map events).flatten = answers.flatMap events := List.flatMap_def.symm
  rw [collect, Act.on_bind_ok (on_sources h), hflatten]
  exact ⟨_, rfl⟩

end Answered

end Tripwire
