/-!
Reading and writing UTF-8. The reader accepts any bytes: where a sequence breaks off, one
replacement character stands for the bytes that could still have begun a character, and reading goes
on with the byte that broke it. A byte below 128 always stands for itself and never completes or
joins a sequence, so reading may be cut at any such byte.
-/

set_option autoImplicit false
set_option relaxedAutoImplicit false

namespace ReleaseSupport.Text.Utf8

/-- The character that stands for bytes that are no UTF-8. -/
def replacement : Char := Char.ofNat 0xFFFD

def encode (text : String) : List UInt8 := text.toList.flatMap String.utf8EncodeChar

/-- What the reader has seen of the character that it is reading. -/
inductive State where
  | start
  /-- Inside a character: the bits so far, the bytes still missing after the next one, and the
  range that the next byte has to lie in. -/
  | inside (bits : Nat) (missing : Nat) (low high : UInt8)
  deriving DecidableEq, Repr

/-- The state after a byte that begins a character of several bytes; the range of the second byte
leaves out overlong forms, surrogates and code points past the last. -/
def lead? (b : UInt8) : Option State :=
  let n := b.toNat
  if n < 0xC2 then none
  else if n < 0xE0 then some (.inside (n - 0xC0) 0 0x80 0xBF)
  else if n = 0xE0 then some (.inside 0 1 0xA0 0xBF)
  else if n = 0xED then some (.inside 0xD 1 0x80 0x9F)
  else if n < 0xF0 then some (.inside (n - 0xE0) 1 0x80 0xBF)
  else if n = 0xF0 then some (.inside 0 2 0x90 0xBF)
  else if n < 0xF4 then some (.inside (n - 0xF0) 2 0x80 0xBF)
  else if n = 0xF4 then some (.inside 4 2 0x80 0x8F)
  else none

def State.finish : State → List Char
  | .start => []
  | .inside .. => [replacement]

/-- Reads a byte from 128 on between two characters. -/
def begin (b : UInt8) : List Char × State :=
  match lead? b with
  | some state => ([], state)
  | none => ([replacement], .start)

/-- Reads one byte: the characters that it completes, and the state after it. -/
def State.step (b : UInt8) (state : State) : List Char × State :=
  if b < 0x80 then (state.finish ++ [Char.ofNat b.toNat], .start)
  else match state with
    | .start => begin b
    | .inside bits missing low high =>
      if low ≤ b ∧ b ≤ high then
        let bits := bits * 64 + (b.toNat - 0x80)
        match missing with
        | 0 => ([Char.ofNat bits], .start)
        | more + 1 => ([], .inside bits more 0x80 0xBF)
      else (replacement :: (begin b).1, (begin b).2)

def decodeFrom : State → List UInt8 → List Char
  | state, [] => state.finish
  | state, b :: bytes =>
    let (chars, next) := state.step b
    chars ++ decodeFrom next bytes

/-- The text that some bytes hold, with broken sequences replaced. -/
def decode (bytes : List UInt8) : String := String.ofList (decodeFrom .start bytes)

/-- A byte below 128 ends what came before it and stands for itself. -/
theorem decodeFrom_cons_of_lt {b : UInt8} (h : b < 0x80) (state : State) (bytes : List UInt8) :
    decodeFrom state (b :: bytes) =
      state.finish ++ Char.ofNat b.toNat :: decodeFrom .start bytes := by
  simp [decodeFrom, State.step, h]

end ReleaseSupport.Text.Utf8
