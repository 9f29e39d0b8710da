import SpeciesBrowser.Text.Quoted

/-!
# Writing documents

Values and their shortest text: no blanks, members in the order given, and escapes
only where a string could not hold the character itself.
-/

namespace SpeciesBrowser.Json

inductive Value where
  | null
  | bool (value : Bool)
  | integer (value : Int)
  | text (value : String)
  | list (values : List Value)
  | object (members : List (String × Value))

def escapeChar (symbol : Char) : List Char :=
  if symbol = '"' then ['\\', '"']
  else if symbol = '\\' then ['\\', '\\']
  else if symbol = '\n' then ['\\', 'n']
  else if symbol = '\r' then ['\\', 'r']
  else if symbol = '\t' then ['\\', 't']
  else if symbol = '\x08' then ['\\', 'b']
  else if symbol = '\x0c' then ['\\', 'f']
  else if symbol < ' ' then
    ['\\', 'u', '0', '0'] ++ (if symbol.toNat < 16 then ['0'] else []) ++
      Text.hexDigits symbol.toNat
  else [symbol]

def writeText (text : String) : List Char :=
  '"' :: (text.toList.flatMap escapeChar ++ ['"'])

def separated : List (List Char) → List Char
  | [] => []
  | [part] => part
  | part :: parts => part ++ ',' :: separated parts

mutual

def writeValue : Value → List Char
  | .null => ['n', 'u', 'l', 'l']
  | .bool true => ['t', 'r', 'u', 'e']
  | .bool false => ['f', 'a', 'l', 's', 'e']
  | .integer value => (toString value).toList
  | .text value => writeText value
  | .list values => '[' :: (separated (writeValues values) ++ [']'])
  | .object members => '\x7b' :: (separated (writeMembers members) ++ ['\x7d'])

def writeValues : List Value → List (List Char)
  | [] => []
  | value :: rest => writeValue value :: writeValues rest

def writeMembers : List (String × Value) → List (List Char)
  | [] => []
  | (name, value) :: rest => (writeText name ++ ':' :: writeValue value) :: writeMembers rest

end

end SpeciesBrowser.Json
