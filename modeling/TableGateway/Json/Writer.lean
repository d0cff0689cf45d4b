import TableGateway.Json
import TableGateway.Decimal.Layout

/-!
# Writing JSON

`Json.write` is the compact text of a value: no blanks, entries in order, and in a string only the
quote, the backslash and the control characters below `0x20` are escaped.
-/

namespace TableGateway.Json

/-- A character inside a string. -/
def charText (c : Char) : List Char :=
  if c = '"' then ['\\', '"']
  else if c = '\\' then ['\\', '\\']
  else if c = '\x08' then ['\\', 'b']
  else if c = '\x0c' then ['\\', 'f']
  else if c = '\n' then ['\\', 'n']
  else if c = '\r' then ['\\', 'r']
  else if c = '\t' then ['\\', 't']
  else if c.toNat < 0x20 then '\\' :: 'u' :: Numeral.hexPadded 4 c.toNat
  else [c]

/-- A string with its quotes. -/
def strText (s : String) : List Char :=
  '"' :: (s.toList.flatMap charText ++ ['"'])

/-- A number that is not whole; one that is not finite has no numeral. -/
def realText (x : Binary64) : List Char :=
  if x.isFinite then Decimal.Layout.json.write x else ['n', 'u', 'l', 'l']

/-- Texts with a comma between them. -/
def joined : List (List Char) → List Char
  | [] => []
  | [t] => t
  | t :: rest => t ++ ',' :: joined rest

mutual

/-- The compact text of a value. -/
def text : Json → List Char
  | null => ['n', 'u', 'l', 'l']
  | bool true => ['t', 'r', 'u', 'e']
  | bool false => ['f', 'a', 'l', 's', 'e']
  | int n => (Numeral.ofInt n).toList
  | real x => realText x
  | str s => strText s
  | arr items => '[' :: (joined (itemTexts items) ++ [']'])
  | obj entries => '\x7b' :: (joined (entryTexts entries) ++ ['\x7d'])

/-- The texts of the items of an array. -/
def itemTexts : List Json → List (List Char)
  | [] => []
  | v :: rest => text v :: itemTexts rest

/-- The texts of the entries of an object. -/
def entryTexts : List (String × Json) → List (List Char)
  | [] => []
  | (k, v) :: rest => (strText k ++ ':' :: text v) :: entryTexts rest

end

/-- The compact text of a value. -/
def write (v : Json) : String :=
  String.ofList v.text

end TableGateway.Json
