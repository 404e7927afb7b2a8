import Statute.Backend.Request

/-!
# Pages of a log

What a backend that holds a whole log answers to a request for a page. The log is held with the
oldest entry first.
-/

namespace Statute

/-- The entries of a log that a page holds: the first ones after the cursor with the oldest of them
first, or the last ones before it with the newest of them first. -/
def pageOf (log : List LogEntry) (page : PageQuery) : List LogEntry :=
  let found := match page.order with
    | .ascending => log.filter fun entry => page.cursor.all (· < entry.id)
    | .descending => (log.filter fun entry => page.cursor.all (entry.id < ·)).reverse
  match page.limit with
  | some limit => found.take limit
  | none => found

end Statute
