/-!
JSON documents and their printed form. Every element and member stands on a line of its own, two
spaces deeper than the brackets around it; an empty list or object is a pair of brackets. In a
string the quote, the backslash and the control characters below the space are escaped, all else is
itself.
-/

set_option autoImplicit false
set_option relaxedAutoImplicit false

namespace ReleaseSupport

/-- A JSON document without numbers, truth values and nulls. -/
inductive Json where
  | text (s : String)
  | list (items : List Json)
  | object (members : List (String × Json))
  deriving Repr

namespace Json

/-- The form of a character inside a string. -/
def stringChar (c : Char) : List Char :=
  if c = '"' then ['\\', '"']
  else if c = '\\' then ['\\', '\\']
  else if c = '\x08' then ['\\', 'b']
  else if c = '\x0c' then ['\\', 'f']
  else if c = '\n' then ['\\', 'n']
  else if c = '\r' then ['\\', 'r']
  else if c = '\t' then ['\\', 't']
  else if c.toNat < 0x20 then
    ['\\', 'u', '0', '0', Nat.digitChar (c.toNat / 16), Nat.digitChar (c.toNat % 16)]
  else [c]

def stringChars (s : String) : List Char := '"' :: s.toList.flatMap stringChar ++ ['"']

def newline (depth : Nat) : List Char := '\n' :: List.replicate (2 * depth) ' '

mutual

def chars (depth : Nat) : Json → List Char
  | .text s => stringChars s
  | .list [] => ['[', ']']
  | .list (item :: items) =>
    '[' :: newline (depth + 1) ++ chars (depth + 1) item ++ moreItems (depth + 1) items ++
      newline depth ++ [']']
  | .object [] => ['\x7b', '\x7d']
  | .object ((key, value) :: members) =>
    '\x7b' :: newline (depth + 1) ++ stringChars key ++ ':' :: ' ' :: chars (depth + 1) value ++
      moreMembers (depth + 1) members ++ newline depth ++ ['\x7d']

/-- The elements of a list after the first. -/
def moreItems (depth : Nat) : List Json → List Char
  | [] => []
  | item :: items => ',' :: newline depth ++ chars depth item ++ moreItems depth items

/-- The members of an object after the first. -/
def moreMembers (depth : Nat) : List (String × Json) → List Char
  | [] => []
  | (key, value) :: members =>
    ',' :: newline depth ++ stringChars key ++ ':' :: ' ' :: chars depth value ++
      moreMembers depth members

end

def render (document : Json) : String := String.ofList (chars 0 document)

end Json

end ReleaseSupport
