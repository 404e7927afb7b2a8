import Statute.Backend.Session

/-!
# Log feeds

A window of a fragment's log that begins with the newest entries and grows at both of its ends,
page by page. Newer entries are asked for after the last entry of the window, older ones before its
first.
-/

namespace Statute

/-- A window of the log of a fragment. -/
structure LogFeed where
  fragment : FragmentId
  /-- The number of entries of a page. -/
  limit : Nat
  /-- The entries in ascending order. -/
  entries : List LogEntry
  /-- The window is known to begin with the first entry of the log. -/
  reachedStart : Bool
deriving DecidableEq

/-- The ways in which a feed asks for a page. -/
inductive FeedStep where
  /-- The newest entries in place of what the window holds. -/
  | initial
  /-- Entries after the last one. -/
  | newer
  /-- Entries before the first one. -/
  | older
deriving DecidableEq, Repr

namespace LogFeed

/-- The number of entries of a page when nothing else is wanted. -/
def defaultLimit : Nat := 20

/-- A feed that holds nothing. A page has at least one entry. -/
def empty (fragment : FragmentId) (limit : Nat) : LogFeed :=
  ⟨fragment, max limit 1, [], false⟩

/-- The feed holds nothing. -/
def isEmpty (feed : LogFeed) : Bool :=
  feed.entries.isEmpty

/-- The page that a step asks for. An empty feed begins anew instead of looking for newer entries,
and has nothing to look for older ones from. -/
def pageQuery? (feed : LogFeed) : FeedStep → Option PageQuery
  | .initial => some ⟨none, some feed.limit, .descending⟩
  | .newer =>
    match feed.entries.getLast? with
    | some last => some ⟨some last.id, some feed.limit, .ascending⟩
    | none => some ⟨none, some feed.limit, .descending⟩
  | .older => feed.entries.head?.map fun first => ⟨some first.id, some feed.limit, .descending⟩

/-- The window is what a first page holds, which has the newest entry first. -/
def begin (feed : LogFeed) (page : List LogEntry) : List LogEntry × LogFeed :=
  (page.reverse, { feed with entries := page.reverse, reachedStart := false })

/-- Takes the page that was answered to a step, and tells which entries were added. Entries that
the window already reaches over are left out. -/
def accept (feed : LogFeed) (step : FeedStep) (page : List LogEntry) : List LogEntry × LogFeed :=
  match step with
  | .initial => feed.begin page
  | .newer =>
    match feed.entries.getLast? with
    | none => feed.begin page
    | some last =>
      let added := page.filter fun entry => last.id < entry.id
      (added, { feed with entries := feed.entries ++ added })
  | .older =>
    match feed.entries.head? with
    | none => ([], feed)
    | some first =>
      let added := (page.filter fun entry => entry.id < first.id).reverse
      if added.isEmpty then ([], { feed with reachedStart := true })
      else (added, { feed with entries := added ++ feed.entries })

/-- Asks for a page and takes it. A failure leaves the feed as it is. -/
def perform (feed : LogFeed) (step : FeedStep) :
    Session (Except BackendError (List LogEntry) × LogFeed) := do
  match feed.pageQuery? step with
  | none => return (.ok [], feed)
  | some page =>
    match ← Session.outcomeOf (.logPage feed.fragment page) with
    | .error error => return (.error error, feed)
    | .ok entries =>
      let (added, feed) := feed.accept step entries
      return (.ok added, feed)

end LogFeed

end Statute
