import SpeciesBrowser.Cache.PageCache

/-!
# Waiting for every page

A caller that waits for each page before it asks for the next one: a window that
the cache does not hold is answered by the server at once.
-/

namespace SpeciesBrowser.Cache

namespace PageCache

/-- Fetch a window and wait for it. -/
def serve {m : Type → Type} [Monad m] [MonadLiftT Logged m] (cache : PageCache)
    (server : Query → m Outcome) (query : Query) : m (Outcome × PageCache) := do
  let (ticket, cache) ← cache.fetch query
  match ticket with
  | .held entities => return (.loaded entities, cache)
  | .waiting number =>
      let outcome ← server query
      let (_, cache) := cache.resolve number outcome
      let (redeemed, cache) := cache.redeem ticket
      return (redeemed.getD .pending, cache)

/-- The calls made while the cache grew from `before` to `after`. -/
def newCalls (before after : PageCache) : List Query :=
  (after.calls.drop before.calls.length).map (·.query)

end PageCache

end SpeciesBrowser.Cache
