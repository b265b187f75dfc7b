/-!
The container image that a release description names in a code span. A span opens with a backtick
and `docker pull`; the first opening counts that is closed by a backtick on its own line, and the
image reaches to the last backtick of that line.
-/

set_option autoImplicit false
set_option relaxedAutoImplicit false

namespace ReleaseSupport.Image

def backtick : Char := '\x60'

def opening : List Char := backtick :: "docker pull ".toList

/-- The part of a text before the last occurrence of a character, if it has one. -/
def beforeLast? (x : Char) : List Char → Option (List Char)
  | [] => none
  | c :: text =>
    match beforeLast? x text with
    | some before => some (c :: before)
    | none => if c = x then some [] else none

/-- The image of a span whose opening stands right before a text. -/
def closed? (text : List Char) : Option (List Char) :=
  beforeLast? backtick (text.takeWhile (· ≠ '\n'))

def here? (text : List Char) : Option (List Char) :=
  if opening.isPrefixOf text then closed? (text.drop opening.length) else none

/-- The image of the first span in a text that is closed on its line. -/
def find? : List Char → Option (List Char)
  | [] => none
  | c :: text => (here? (c :: text)).or (find? text)

inductive Error where
  | noSnippet
  deriving DecidableEq, Repr

def Error.message : Error → String
  | .noSnippet => "No \x60docker pull <image>\x60 snippet found in release description"

def ofDescription (description : String) : Except Error String :=
  match find? description.toList with
  | some image => .ok (String.ofList image)
  | none => .error .noSnippet

end ReleaseSupport.Image
