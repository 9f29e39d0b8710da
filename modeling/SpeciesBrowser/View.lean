import SpeciesBrowser.Notice

/-!
# Views of one page

What is shown for a page: that it is loading, the message of a failure, or its
rows. A row carries the labels in the two configured languages. A listing never
says how long it is; a page that came back full may have a successor.
-/

namespace SpeciesBrowser

structure Row where
  id : Int64
  primary : Option String
  secondary : Option String
deriving DecidableEq, Repr

structure PageView where
  rows : List Row
  hasPrev : Bool
  hasNext : Bool
deriving DecidableEq, Repr

inductive View where
  | loading
  | failed (message : String)
  | ready (page : PageView)
deriving DecidableEq, Repr

def ListConfig.row (config : ListConfig) (entity : Entity) : Row :=
  { id := entity.id
    primary := entity.labelIn? config.primary
    secondary := entity.labelIn? config.secondary }

def ListConfig.isFullPage (config : ListConfig) (count : Nat) : Bool :=
  count = config.pageSize.toNat

namespace View

def ofOutcome (page : Page) (config : ListConfig) : Outcome → View
  | .pending => .loading
  | .failed message => .failed message
  | .loaded entities =>
      let rows := entities.map config.row
      .ready
        { rows
          hasPrev := !page.isFirst
          hasNext := config.isFullPage rows.length }

theorem ofOutcome_eq_loading_iff (page : Page) (config : ListConfig) (outcome : Outcome) :
    ofOutcome page config outcome = .loading ↔ outcome = .pending := by
  cases outcome <;> simp [ofOutcome]

theorem ofOutcome_eq_failed_iff (page : Page) (config : ListConfig) (outcome : Outcome)
    (message : String) :
    ofOutcome page config outcome = .failed message ↔ outcome = .failed message := by
  cases outcome <;> simp [ofOutcome]

/-- The rows on show; a view that is not ready shows none. -/
def rows : View → List Row
  | .ready page => page.rows
  | _ => []

end View

/-- Ask a source for a page and turn its answer into a view. -/
def computeView {m : Type → Type} [Monad m] [MonadLiftT Logged m] (fetch : Query → m Outcome)
    (config : ListConfig) (page : Page) : m View := do
  let query := config.query page
  Logged.note (.computingView query)
  let outcome ← fetch query
  return View.ofOutcome page config outcome

end SpeciesBrowser
