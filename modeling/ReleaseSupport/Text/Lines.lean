/-!
Lines of a text. A line ends at a newline; a carriage return right before that newline belongs to
the ending, and a last piece without a newline is a line unless it is empty. Lines that are written
are each ended by a newline.
-/

set_option autoImplicit false
set_option relaxedAutoImplicit false

namespace ReleaseSupport.Text

def dropReturn (line : List Char) : List Char :=
  if line.getLast? = some '\r' then line.dropLast else line

/-- The lines among the pieces between newlines: every piece but the last was ended by one. -/
def closedLines : List (List Char) → List (List Char)
  | [] => []
  | [last] => if last.isEmpty then [] else [last]
  | piece :: next :: rest => dropReturn piece :: closedLines (next :: rest)

def lines (text : List Char) : List (List Char) := closedLines (text.splitOn '\n')

/-- The text of some lines, each ended by a newline. -/
def unlines (lines : List String) : String := String.join (lines.map (· ++ "\n"))

theorem unlines_nil : unlines [] = "" := rfl

theorem unlines_cons (x : String) (xs : List String) :
    unlines (x :: xs) = x ++ "\n" ++ unlines xs := by
  rw [unlines, List.map_cons, String.join_cons]
  rfl

theorem unlines_append (xs ys : List String) : unlines (xs ++ ys) = unlines xs ++ unlines ys := by
  rw [unlines, List.map_append, String.join_append]
  rfl

theorem lines_nil : lines [] = [] := by simp [lines, closedLines]

private theorem closedLines_cons {piece : List Char} {pieces : List (List Char)}
    (h : pieces ≠ []) : closedLines (piece :: pieces) = dropReturn piece :: closedLines pieces := by
  cases pieces with
  | nil => exact absurd rfl h
  | cons next rest => rfl

/-- A closed line comes first, and the lines of the text after it follow. -/
theorem lines_append_newline {line : List Char} (text : List Char) (h : '\n' ∉ line) :
    lines (line ++ '\n' :: text) = dropReturn line :: lines text := by
  rw [lines, List.splitOn_append_cons_self_of_not_mem h,
    closedLines_cons (List.splitOn_ne_nil _ _), lines]

theorem length_lines_le_one {text : List Char} (h : '\n' ∉ text) : (lines text).length ≤ 1 := by
  rw [lines, List.splitOn_eq_singleton h, closedLines]
  split <;> simp

end ReleaseSupport.Text
