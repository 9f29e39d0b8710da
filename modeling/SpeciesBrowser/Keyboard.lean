import SpeciesBrowser.Browser

/-!
# Terminal events

Keys stand for commands. Only a press of a key counts; what else a terminal
reports changes nothing.
-/

namespace SpeciesBrowser

inductive KeyCode where
  | char (symbol : Char)
  | left
  | right
  | up
  | down
  | pageUp
  | pageDown
  | escape
  | other (name : String)
deriving DecidableEq, Repr

namespace KeyCode

def named : String → KeyCode
  | "Left" => .left
  | "Right" => .right
  | "Up" => .up
  | "Down" => .down
  | "PageUp" => .pageUp
  | "PageDown" => .pageDown
  | "Esc" => .escape
  | name => .other name

end KeyCode

inductive KeyAction where
  | press
  | hold
  | release
deriving DecidableEq, Repr

structure KeyEvent where
  code : KeyCode
  control : Bool := false
  action : KeyAction := .press
deriving DecidableEq, Repr

inductive TerminalEvent where
  | key (event : KeyEvent)
  | paste (text : String)
  | focusGained
  | focusLost
  | mouse
  | resized
deriving DecidableEq, Repr

inductive Command where
  | quit
  | previous
  | next
  | move (rows : Int)
  | retry
deriving DecidableEq, Repr

namespace KeyEvent

/-- The command of a pressed key. Control matters for `c` alone. -/
def command? (event : KeyEvent) : Option Command :=
  match event.code with
  | .char 'c' => if event.control then some .quit else none
  | .char 'q' | .escape => some .quit
  | .left | .char 'h' | .pageUp => some .previous
  | .right | .char 'l' | .pageDown => some .next
  | .up | .char 'k' => some (.move (-1))
  | .down | .char 'j' => some (.move 1)
  | .char 'r' => some .retry
  | _ => none

end KeyEvent

namespace TerminalEvent

def command? : TerminalEvent → Option Command
  | .key event => if event.action = .press then event.command? else none
  | _ => none

end TerminalEvent

namespace Browser

/-- What a command asks for; quitting leaves the browser as it is. -/
def obey (browser : Browser) : Command → Logged (Option Request × Browser)
  | .quit => return (none, browser)
  | .previous => browser.goPrev
  | .next => browser.goNext
  | .move rows => return (none, browser.moveSelection rows)
  | .retry => do
      let (request, browser) ← browser.retry
      return (some request, browser)

end Browser

end SpeciesBrowser
