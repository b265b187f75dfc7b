import Mathlib.Data.List.Forall2
import ReleaseSupport.Json

/-!
The grammar of JSON. A value is a row of tokens: marks, strings and words, a number being one of the
words. A text spells tokens one after the other, with any white space around them, and denotes the
value whose tokens it spells.
-/

set_option autoImplicit false
set_option relaxedAutoImplicit false

namespace ReleaseSupport.Json

/-- What a word means. A number is its literal. -/
inductive Word where
  | null
  | truth (value : Bool)
  | number (literal : String)
  deriving DecidableEq, Repr

/-- The values of JSON. The members of an object stand in their order, whatever their keys. -/
inductive Value where
  | word (w : Word)
  | text (s : String)
  | list (items : List Value)
  | object (members : List (String × Value))

/-- The characters that stand between values. -/
inductive Mark where
  | openList
  | closeList
  | openObject
  | closeObject
  | comma
  | colon
  deriving DecidableEq, Repr

inductive Token where
  | mark (m : Mark)
  | text (s : String)
  | word (w : Word)
  deriving DecidableEq, Repr

namespace Mark

def char : Mark → Char
  | .openList => '['
  | .closeList => ']'
  | .openObject => '\x7b'
  | .closeObject => '\x7d'
  | .comma => ','
  | .colon => ':'

def of? (c : Char) : Option Mark :=
  [openList, closeList, openObject, closeObject, comma, colon].find? fun m => m.char = c

theorem of?_char (m : Mark) : of? m.char = some m := by cases m <;> decide

theorem char_of_of? {c : Char} {m : Mark} (h : of? c = some m) : m.char = c := by
  simpa using List.find?_some h

end Mark

def isSpace (c : Char) : Bool := c = ' ' || c = '\t' || c = '\n' || c = '\r'

/-- Whether a character can belong to a word. -/
def isWordChar (c : Char) : Bool := !isSpace c && (Mark.of? c).isNone && c != '"'

/-- The text after one digit or more, if it begins with one. -/
def afterDigits? (text : List Char) : Option (List Char) :=
  if text.head?.any Char.isDigit then some (text.dropWhile Char.isDigit) else none

/-- The text after an integer without sign: zero, or digits of which the first is not zero. -/
def afterInteger? : List Char → Option (List Char)
  | '0' :: rest => some rest
  | rest => afterDigits? rest

/-- The text after a fraction, if it begins with one. -/
def afterFraction? : List Char → Option (List Char)
  | '.' :: rest => afterDigits? rest
  | rest => some rest

/-- The text after an exponent, if it begins with one. -/
def afterExponent? : List Char → Option (List Char)
  | [] => some []
  | c :: rest =>
    if c = 'e' ∨ c = 'E' then
      if rest.head? = some '+' ∨ rest.head? = some '-' then afterDigits? rest.tail
      else afterDigits? rest
    else some (c :: rest)

/-- Whether a text is a number: a minus sign or none, an integer, a fraction or none, an exponent or
none. -/
def isNumber (text : List Char) : Bool :=
  let unsigned := if text.head? = some '-' then text.tail else text
  (do afterExponent? (← afterFraction? (← afterInteger? unsigned))) = some []

def Word.of? (text : List Char) : Option Word :=
  if text = ['n', 'u', 'l', 'l'] then some .null
  else if text = ['t', 'r', 'u', 'e'] then some (.truth true)
  else if text = ['f', 'a', 'l', 's', 'e'] then some (.truth false)
  else if isNumber text then some (.number (String.ofList text))
  else none

/-- The escapes of a single character. -/
def shortEscapes : List (Char × Char) := [
  ('"', '"'), ('\\', '\\'), ('/', '/'), ('b', '\x08'), ('f', '\x0c'), ('n', '\n'), ('r', '\r'),
  ('t', '\t')]

def hexDigit? (c : Char) : Option Nat :=
  if c.isDigit then some (c.toNat - '0'.toNat)
  else if 'a' ≤ c ∧ c ≤ 'f' then some (c.toNat - 'a'.toNat + 10)
  else if 'A' ≤ c ∧ c ≤ 'F' then some (c.toNat - 'A'.toNat + 10)
  else none

/-- The value of hexadecimal digits. -/
def hexadecimal? (digits : List Char) : Option Nat :=
  digits.foldlM (fun n c => (hexDigit? c).map (16 * n + ·)) 0

/-- The character that is given by its code point in four hexadecimal digits, or by a pair of
surrogates, each in four digits, the second one after a backslash and a letter. -/
def codePoint? : List Char → Option Char
  | [a, b, c, d] => do
    let n ← hexadecimal? [a, b, c, d]
    if n.isValidChar then some (Char.ofNat n) else none
  | [a, b, c, d, backslash, u, e, f, g, h] => do
    let high ← hexadecimal? [a, b, c, d]
    let low ← hexadecimal? [e, f, g, h]
    if (backslash = '\\' ∧ u = 'u') ∧ (0xD800 ≤ high ∧ high < 0xDC00) ∧ 0xDC00 ≤ low ∧ low < 0xE000
    then some (Char.ofNat (0x10000 + (high - 0xD800) * 0x400 + (low - 0xDC00)))
    else none
  | _ => none

/-- The character that an escape stands for, given what follows its backslash. -/
def unescape? : List Char → Option Char
  | [] => none
  | [c] => shortEscapes.lookup c
  | u :: digits => if u = 'u' then codePoint? digits else none

/-- Whether a character can stand for itself inside a string. -/
def isPlain (c : Char) : Bool := 0x20 ≤ c.toNat && c != '"' && c != '\\'

/-- The ways to write a character inside a string. -/
inductive Form : List Char → Char → Prop
  | plain {c : Char} (h : isPlain c = true) : Form [c] c
  | escape {raw : List Char} {c : Char} (h : unescape? raw = some c) : Form ('\\' :: raw) c

/-- Whether a text, taken between quotes, is a form of a string: its characters in a row, each
written in one of the ways it can be. -/
def Quotes (body : List Char) (content : List Char) : Prop :=
  ∃ forms, List.Forall₂ Form forms content ∧ body = forms.flatten

/-- How a text spells tokens: white space may stand before each of them and at the end, and a word
is as long as it can be. -/
inductive Spells : List Char → List Token → Prop
  | done : Spells [] []
  | space {c : Char} {text : List Char} {tokens : List Token} (h : isSpace c = true)
    (later : Spells text tokens) : Spells (c :: text) tokens
  | mark (m : Mark) {text : List Char} {tokens : List Token} (later : Spells text tokens) :
    Spells (m.char :: text) (.mark m :: tokens)
  | text {body content text : List Char} {tokens : List Token} (h : Quotes body content)
    (later : Spells text tokens) :
    Spells ('"' :: body ++ '"' :: text) (.text (String.ofList content) :: tokens)
  | word {chars : List Char} {w : Word} {text : List Char} {tokens : List Token}
    (inside : ∀ c ∈ chars, isWordChar c = true) (named : Word.of? chars = some w)
    (ends : ∀ c, text.head? = some c → isWordChar c = false) (later : Spells text tokens) :
    Spells (chars ++ text) (.word w :: tokens)

mutual

/-- The tokens of a value. -/
def Value.tokens : Value → List Token
  | .word w => [.word w]
  | .text s => [.text s]
  | .list [] => [.mark .openList, .mark .closeList]
  | .list (item :: items) =>
    .mark .openList :: item.tokens ++ moreItemTokens items ++ [.mark .closeList]
  | .object [] => [.mark .openObject, .mark .closeObject]
  | .object ((key, value) :: members) =>
    .mark .openObject :: .text key :: .mark .colon :: value.tokens ++ moreMemberTokens members ++
      [.mark .closeObject]

/-- The tokens of the elements of a list after the first. -/
def moreItemTokens : List Value → List Token
  | [] => []
  | item :: items => .mark .comma :: item.tokens ++ moreItemTokens items

/-- The tokens of the members of an object after the first. -/
def moreMemberTokens : List (String × Value) → List Token
  | [] => []
  | (key, value) :: members =>
    .mark .comma :: .text key :: .mark .colon :: value.tokens ++ moreMemberTokens members

end

/-- Whether a text is a JSON document, and which value it has. -/
def Denotes (text : String) (value : Value) : Prop := Spells text.toList value.tokens

end ReleaseSupport.Json
