import SpeciesBrowser.View

/-!
# Pages as plain text

One line per row with its id and both labels between tabs, and one last line that
says under which number the next page can be asked for, or that there is none.
Labels are written as they are.
-/

namespace SpeciesBrowser

namespace Row

def line (row : Row) : String :=
  s!"#{row.id}\t" ++ row.primary.getD "" ++ "\t" ++ row.secondary.getD "" ++ "\n"

end Row

namespace PageView

def hint (page : Page) (hasNext : Bool) : String :=
  if hasNext then
    s!"-- page {page.number}; more with --page {page.next.number}\n"
  else
    s!"-- page {page.number}; end of listing\n"

def text (view : PageView) (page : Page) : String :=
  String.join (view.rows.map Row.line) ++ hint page view.hasNext

end PageView

inductive PrintError where
  | noData
  | failed (message : String)
deriving DecidableEq, Repr

namespace PrintError

def message : PrintError → String
  | .noData => "source returned no data"
  | .failed message => message

end PrintError

namespace View

/-- The text of a view; only a page that is ready has one. -/
def print (page : Page) : View → Except PrintError String
  | .ready view => .ok (view.text page)
  | .failed message => .error (.failed message)
  | .loading => .error .noData

end View

/-- Ask a source for a page and print it. -/
def printPage {m : Type → Type} [Monad m] [MonadLiftT Logged m] (fetch : Query → m Outcome)
    (config : ListConfig) (page : Page) : m (Except PrintError String) := do
  return (← computeView fetch config page).print page

end SpeciesBrowser
