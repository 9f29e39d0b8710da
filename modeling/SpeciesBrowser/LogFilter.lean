import SpeciesBrowser.Notice
import SpeciesBrowser.Text.Alphanumeric
import SpeciesBrowser.Text.Blank
import SpeciesBrowser.Text.Numeral

/-!
# Log filters

A log filter is a list of directives between commas. A directive is a level, or a target,
or both with an equals sign between them; behind the target it may name a span and fields
of it in brackets. A directive that cannot be read is reported and left out.

A directive is read without the blanks around it, but the places found in it are counted
in the text with the blanks, in bytes.
-/

namespace SpeciesBrowser

open Text

inductive DirectiveError where
  | malformed
  | level
deriving DecidableEq, Repr

namespace DirectiveError

def message : DirectiveError → String
  | .malformed => "invalid filter directive"
  | .level =>
      "error parsing level filter: expected one of \"off\", \"error\", \"warn\", \"info\", " ++
        "\"debug\", \"trace\", or a number 0-5"

end DirectiveError

/-- What is kept, gravest level first; without a level nothing is. -/
structure LogDirective where
  target : String := ""
  /-- Whether only notices of some span are meant. -/
  narrowed : Bool := false
  level : Option Level := some .trace
deriving DecidableEq, Repr

/-! ## Levels -/

def levelNames : List (String × Option Level) :=
  [("off", none), ("error", some .error), ("warn", some .warn), ("info", some .info),
   ("debug", some .debug), ("trace", some .trace)]

/-- A level is a number or a name; the case of its letters does not matter. -/
def readLevel? (text : List Char) : Option (Option Level) :=
  match readWord text with
  | .ok number => levelNames[number.toNat]?.map (·.2)
  | .error _ =>
      (levelNames.find? fun (name, _) => name.toList = text.map Char.toLower).map (·.2)

/-! ## Places in bytes -/

def dropBytes : Nat → List Char → List Char
  | 0, text => text
  | _, [] => []
  | count + 1, symbol :: rest => dropBytes (count + 1 - symbol.utf8Size) rest

def takeBytes : Nat → List Char → List Char
  | 0, _ => []
  | _, [] => []
  | count + 1, symbol :: rest => symbol :: takeBytes (count + 1 - symbol.utf8Size) rest

/-! ## Directives -/

inductive DirectivePart where
  | beginning
  | name
  | span
  | field (isEmpty : Bool)
  | fields
  | behindSpan
deriving DecidableEq, Repr

/-- How a directive is made up: where its target ends and where its level begins. -/
structure DirectiveShape where
  target : Option Nat := none
  narrowed : Bool := false
  level : Option Nat := none
deriving DecidableEq, Repr

def opensDirective (symbol : Char) : Bool :=
  symbol = '-' || symbol = ':' || symbol = '_' || isAlphanumeric symbol

/-- Read on from a place inside a directive. A level is not looked at here. -/
def DirectivePart.read (part : DirectivePart) (shape : DirectiveShape) (place : Nat) :
    List Char → Except DirectiveError DirectiveShape
  | [] =>
      match part with
      | .name | .behindSpan => .ok shape
      | _ => .error .malformed
  | symbol :: rest =>
      let next := place + symbol.utf8Size
      match part, symbol with
      | .beginning, '[' => DirectivePart.span.read { shape with narrowed := true } next rest
      | .beginning, symbol =>
          if opensDirective symbol then DirectivePart.name.read shape next rest
          else .error .malformed
      | .name, '=' => .ok { shape with target := some place, level := some next }
      | .name, '[' =>
          DirectivePart.span.read { shape with target := some place, narrowed := true } next rest
      | .name, _ => DirectivePart.name.read shape next rest
      | .span, ']' => DirectivePart.behindSpan.read shape next rest
      | .span, '\x7b' => (DirectivePart.field true).read shape next rest
      | .span, _ => DirectivePart.span.read shape next rest
      | .field true, '\x7d' | .field true, ',' => .error .malformed
      | .field false, '\x7d' => DirectivePart.fields.read shape next rest
      | .field false, ',' => (DirectivePart.field true).read shape next rest
      | .field _, _ => (DirectivePart.field false).read shape next rest
      | .fields, ']' => DirectivePart.behindSpan.read shape next rest
      | .fields, _ => .error .malformed
      | .behindSpan, '=' => .ok { shape with level := some next }
      | .behindSpan, _ => .error .malformed

namespace LogDirective

/-- The directive of a shape. What has neither brackets nor a level is a level if it can be
read as one, and otherwise a target. -/
def ofShape (text : List Char) (shape : DirectiveShape) : Except DirectiveError LogDirective :=
  let target := String.ofList (takeBytes (shape.target.getD 0) text)
  match shape.level.map fun place => dropBytes place text with
  | some [] => .ok { target, narrowed := shape.narrowed }
  | some level =>
      match readLevel? level with
      | some level => .ok { target, narrowed := shape.narrowed, level }
      | none => .error .level
  | none =>
      if shape.narrowed then .ok { target, narrowed := true }
      else match readLevel? text with
        | some level => .ok { level }
        | none => .ok { target := String.ofList text }

def read (text : List Char) : Except DirectiveError LogDirective := do
  ofShape text (← DirectivePart.beginning.read {} 0 (trim text))

end LogDirective

/-! ## Filters -/

structure LogFilter where
  directives : List LogDirective := []
  ignored : List (String × DirectiveError) := []
deriving DecidableEq, Repr

namespace LogFilter

/-- Put a directive in front; an empty one is passed over. -/
def cons (text : String) (filter : LogFilter) : LogFilter :=
  if text = "" then filter
  else match LogDirective.read text.toList with
    | .ok directive => { filter with directives := directive :: filter.directives }
    | .error error => { filter with ignored := (text, error) :: filter.ignored }

def read (text : String) : LogFilter := (text.splitOn ",").foldr cons {}

/-- The lines that report what was left out. -/
def report (filter : LogFilter) : String :=
  String.join (filter.ignored.map fun (text, error) =>
    "ignoring `" ++ text ++ "`: " ++ error.message ++ "\n")

/-- The directive for notices of a target: of those that fit the longest, and of these the
last one. -/
def directiveFor? (filter : LogFilter) (target : String) : Option LogDirective :=
  let fitting := filter.directives.filter fun directive =>
    !directive.narrowed && directive.target.toList.isPrefixOf target.toList
  fitting.foldl (fun best directive =>
    match best with
    | some other =>
        if other.target.length ≤ directive.target.length then some directive else some other
    | none => some directive) none

/-- The level down to which notices of a target are kept. A filter that says nothing keeps
errors. -/
def limit (filter : LogFilter) (target : String) : Option Level :=
  if filter.directives.isEmpty then some .error
  else (filter.directiveFor? target).bind (·.level)

end LogFilter

end SpeciesBrowser
