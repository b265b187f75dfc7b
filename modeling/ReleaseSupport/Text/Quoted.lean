import ReleaseSupport.Text.ExtendingMark
import ReleaseSupport.Text.Printable

/-!
Quoting a text for a diagnostic. A double quote stands at each end, quotes and backslashes inside
are escaped, and every character that would not show on its own is written by its code point.
-/

set_option autoImplicit false
set_option relaxedAutoImplicit false

namespace ReleaseSupport.Text

/-- A backslash, `u`, and the code point in lower-case hexadecimal between braces. -/
def codePointEscape (c : Char) : List Char :=
  '\\' :: 'u' :: '\x7b' :: Nat.toDigits 16 c.toNat ++ ['\x7d']

def quotedChar (c : Char) : List Char :=
  if c = '\x00' then ['\\', '0']
  else if c = '\t' then ['\\', 't']
  else if c = '\r' then ['\\', 'r']
  else if c = '\n' then ['\\', 'n']
  else if c = '\\' then ['\\', '\\']
  else if c = '"' then ['\\', '"']
  else if isExtendingMark c then codePointEscape c
  else if isPrintable c then [c]
  else codePointEscape c

/-- A text between double quotes, readable in one line whatever it holds. -/
def quoted (text : String) : String :=
  String.ofList ('"' :: text.toList.flatMap quotedChar ++ ['"'])

end ReleaseSupport.Text
