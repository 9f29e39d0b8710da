import SpeciesBrowser.Cache.PageCache

/-!
# Asking a page cache step by step

A desk hands out numbered tickets of a page cache and keeps those that have not
been used up. Fetching, the server's answers, redeeming and giving back may come
in any order.
-/

namespace SpeciesBrowser.Cache

structure Desk where
  cache : PageCache
  tickets : List (Option Ticket) := []
deriving DecidableEq, Repr

inductive DeskAction where
  | fetch (query : Query)
  | resolve (call : Nat) (outcome : Outcome)
  | redeem (ticket : Nat)
  | discard (ticket : Nat)
deriving DecidableEq, Repr

inductive DeskAnswer where
  | issued (ticket : Nat)
  | resolved (done : Bool)
  | redeemed (outcome : Option Outcome)
  | discarded
  | noTicket
deriving DecidableEq, Repr

namespace Desk

def ofCapacity (capacity : Nat) : Desk := { cache := .ofCapacity capacity }

def ticket? (desk : Desk) (number : Nat) : Option Ticket := (desk.tickets[number]?).join

def use (desk : Desk) (number : Nat) : Desk :=
  { desk with tickets := desk.tickets.set number none }

def step (desk : Desk) : DeskAction → Logged (DeskAnswer × Desk)
  | .fetch query => do
      let (ticket, cache) ← desk.cache.fetch query
      return (.issued desk.tickets.length, { cache, tickets := desk.tickets ++ [some ticket] })
  | .resolve call outcome =>
      let (done, cache) := desk.cache.resolve call outcome
      return (.resolved done, { desk with cache })
  | .redeem number =>
      match desk.ticket? number with
      | none => return (.noTicket, desk)
      | some ticket =>
          let (outcome, cache) := desk.cache.redeem ticket
          let desk := { desk with cache }
          return (.redeemed outcome, if outcome.isSome then desk.use number else desk)
  | .discard number =>
      match desk.ticket? number with
      | none => return (.noTicket, desk)
      | some ticket =>
          return (.discarded, { desk with cache := desk.cache.discard ticket }.use number)

/-- The desk after a sequence of actions. -/
def run (desk : Desk) (actions : List DeskAction) : Desk :=
  actions.foldl (fun desk action => (desk.step action).value.2) desk

end Desk

end SpeciesBrowser.Cache
