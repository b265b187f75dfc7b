import ReleaseSupport.Image
import ReleaseSupport.Proofs.Text.Pieces

/-!
Images of descriptions. A description names an image if one of its lines has an opening with a
backtick after it. The first such opening counts, and the image reaches to the last backtick of its
line, which may be that of a later code span.
-/

set_option autoImplicit false
set_option relaxedAutoImplicit false

namespace ReleaseSupport.Image

open ReleaseSupport.Text

variable {text image before : List Char}

/-- Whether an opening follows the first part of a text and a backtick on its line closes it. -/
def ClosedAfter (before text : List Char) : Prop :=
  ∃ inside after, '\n' ∉ inside ∧ text = before ++ opening ++ inside ++ backtick :: after

/-- Whether a line has an opening with a backtick after it. -/
def HasSpan (line : List Char) : Prop :=
  ∃ before inside after, line = before ++ opening ++ inside ++ backtick :: after

/-- The span of a text that names its image. It ends at the last backtick of its line, and no
opening before it is closed on its own line. -/
structure FirstSpan (text : List Char) where
  before : List Char
  image : List Char
  after : List Char
  text_eq : text = before ++ opening ++ image ++ backtick :: after
  oneLine : '\n' ∉ image
  lastOfLine : backtick ∉ after.takeWhile (· ≠ '\n')
  first : ∀ shorter, ClosedAfter shorter text → before.length ≤ shorter.length

theorem beforeLast?_cases (x : Char) (text : List Char) :
    (beforeLast? x text = none ∧ x ∉ text) ∨
      ∃ before after, beforeLast? x text = some before ∧ text = before ++ x :: after ∧
        x ∉ after := by
  induction text with
  | nil => exact Or.inl ⟨rfl, List.not_mem_nil⟩
  | cons c text ih =>
    rcases ih with ⟨missing, absent⟩ | ⟨before, after, found, rfl, last⟩
    · by_cases same : c = x
      · refine Or.inr ⟨[], text, ?_, by rw [same, List.nil_append], absent⟩
        simp [beforeLast?, missing, same]
      · refine Or.inl ⟨?_, ?_⟩
        · simp [beforeLast?, missing, same]
        · simp [absent, Ne.symm same]
    · exact Or.inr ⟨c :: before, after, by simp [beforeLast?, found], rfl, last⟩

theorem beforeLast?_eq_none_iff {x : Char} : beforeLast? x text = none ↔ x ∉ text := by
  rcases beforeLast?_cases x text with ⟨missing, absent⟩ | ⟨before, after, found, rfl, -⟩
  · simp [missing, absent]
  · simp [found]

theorem beforeLast?_append {x : Char} (before : List Char) {after : List Char} (h : x ∉ after) :
    beforeLast? x (before ++ x :: after) = some before := by
  induction before with
  | nil => simp [beforeLast?, beforeLast?_eq_none_iff.2 h]
  | cons c before ih => rw [List.cons_append, beforeLast?, ih]

theorem beforeLast?_eq_some_iff {x : Char} :
    beforeLast? x text = some before ↔ ∃ after, text = before ++ x :: after ∧ x ∉ after := by
  constructor
  · intro found
    rcases beforeLast?_cases x text with ⟨missing, -⟩ | ⟨first, after, found', rfl, last⟩
    · rw [missing] at found
      cases found
    · obtain rfl := Option.some.inj (found'.symm.trans found)
      exact ⟨after, rfl, last⟩
  · rintro ⟨after, rfl, last⟩
    exact beforeLast?_append before last

theorem takeWhile_append_backtick (inside : '\n' ∉ image) (after : List Char) :
    (image ++ backtick :: after).takeWhile (· ≠ '\n') =
      image ++ backtick :: after.takeWhile (· ≠ '\n') := by
  have kept : ∀ c ∈ image, decide (c ≠ '\n') = true := by
    intro c member
    exact decide_eq_true (ne_of_mem_of_not_mem member inside)
  rw [List.takeWhile_append_of_pos kept, List.takeWhile_cons_of_pos (by decide)]

/-- A backtick on the first line of a text stands in the text itself. -/
theorem split_of_takeWhile_eq {after : List Char}
    (line : text.takeWhile (· ≠ '\n') = image ++ backtick :: after) :
    '\n' ∉ image ∧ text = image ++ backtick :: (after ++ text.dropWhile (· ≠ '\n')) := by
  constructor
  · intro member
    apply not_mem_takeWhile_ne '\n' text
    rw [line]
    exact List.mem_append_left _ member
  · rw [← List.cons_append, ← List.append_assoc, ← line, List.takeWhile_append_dropWhile]

/-- What follows an opening closes it with the last backtick of its line. -/
theorem closed?_eq_some_iff :
    closed? text = some image ↔
      ∃ after, text = image ++ backtick :: after ∧ '\n' ∉ image ∧
        backtick ∉ after.takeWhile (· ≠ '\n') := by
  rw [closed?, beforeLast?_eq_some_iff]
  constructor
  · rintro ⟨after, line, last⟩
    obtain ⟨inside, whole⟩ := split_of_takeWhile_eq line
    -- The line ends where `after` does, so what the lines behind it hold does not count.
    have rest : (after ++ text.dropWhile (· ≠ '\n')).takeWhile (· ≠ '\n') = after := by
      rw [whole, takeWhile_append_backtick inside] at line
      exact (List.cons.inj (List.append_cancel_left line)).2
    exact ⟨_, whole, inside, by rwa [rest]⟩
  · rintro ⟨after, rfl, inside, last⟩
    exact ⟨after.takeWhile (· ≠ '\n'), takeWhile_append_backtick inside after, last⟩

theorem closed?_eq_none_iff :
    closed? text = none ↔
      ¬ ∃ inside after, '\n' ∉ inside ∧ text = inside ++ backtick :: after := by
  rw [closed?, beforeLast?_eq_none_iff]
  refine not_congr ⟨?_, ?_⟩
  · intro member
    obtain ⟨inside, after, line, -⟩ := List.eq_append_cons_of_mem member
    obtain ⟨oneLine, whole⟩ := split_of_takeWhile_eq line
    exact ⟨inside, _, oneLine, whole⟩
  · rintro ⟨inside, after, oneLine, rfl⟩
    rw [takeWhile_append_backtick oneLine]
    exact List.mem_append_right _ List.mem_cons_self

theorem here?_append_opening (text : List Char) : here? (opening ++ text) = closed? text := by
  have begins : opening.isPrefixOf (opening ++ text) = true :=
    List.isPrefixOf_iff_prefix.2 (List.prefix_append _ _)
  rw [here?, if_pos begins, List.drop_left]

theorem here?_of_not_begins (h : ¬ opening <+: text) : here? text = none := by
  rw [here?, if_neg]
  rwa [List.isPrefixOf_iff_prefix]

theorem here?_eq_none_iff : here? text = none ↔ ¬ ClosedAfter [] text := by
  by_cases begins : opening <+: text
  · obtain ⟨rest, rfl⟩ := begins
    rw [here?_append_opening, closed?_eq_none_iff]
    simp only [ClosedAfter, List.nil_append, List.append_assoc, List.append_cancel_left_eq]
  · rw [here?_of_not_begins begins]
    refine ⟨fun _ => ?_, fun _ => rfl⟩
    rintro ⟨inside, after, -, rfl⟩
    apply begins
    rw [List.nil_append, List.append_assoc]
    exact List.prefix_append _ _

theorem closedAfter_cons_iff {c d : Char} :
    ClosedAfter (d :: before) (c :: text) ↔ d = c ∧ ClosedAfter before text := by
  simp only [ClosedAfter, List.cons_append, List.cons.injEq, eq_comm (a := c)]
  constructor
  · rintro ⟨inside, after, oneLine, same, whole⟩
    exact ⟨same, inside, after, oneLine, whole⟩
  · rintro ⟨same, inside, after, oneLine, whole⟩
    exact ⟨inside, after, oneLine, same, whole⟩

namespace FirstSpan

theorem closedAfter (span : FirstSpan text) : ClosedAfter span.before text :=
  ⟨span.image, span.after, span.oneLine, span.text_eq⟩

/-- A text has at most one first span. -/
theorem image_eq (a b : FirstSpan text) : a.image = b.image := by
  have lengths : a.before.length = b.before.length :=
    Nat.le_antisymm (a.first _ b.closedAfter) (b.first _ a.closedAfter)
  have whole := a.text_eq.symm.trans b.text_eq
  simp only [List.append_assoc] at whole
  obtain ⟨-, rest⟩ := List.append_inj whole lengths
  rw [List.append_cancel_left_eq] at rest
  have left := closed?_eq_some_iff.2 ⟨a.after, rfl, a.oneLine, a.lastOfLine⟩
  have right := closed?_eq_some_iff.2 ⟨b.after, rfl, b.oneLine, b.lastOfLine⟩
  rw [rest, right] at left
  exact (Option.some.inj left).symm

end FirstSpan

/-- A text either has a first span, whose image is found, or no opening of it is closed. -/
theorem find?_cases (text : List Char) :
    (find? text = none ∧ ∀ before, ¬ ClosedAfter before text) ∨
      ∃ span : FirstSpan text, find? text = some span.image := by
  -- By the search itself: an opening that is closed here is the first; otherwise every part that an
  -- opening follows has the first character in it, and the rest of the text decides.
  induction text with
  | nil =>
    refine Or.inl ⟨rfl, ?_⟩
    rintro before ⟨inside, after, -, whole⟩
    simp at whole
  | cons c text ih =>
    cases here : here? (c :: text) with
    | some image =>
      by_cases begins : opening <+: c :: text
      · obtain ⟨rest, whole⟩ := begins
        have closed := here
        rw [← whole, here?_append_opening] at closed
        obtain ⟨after, rfl, oneLine, lastOfLine⟩ := closed?_eq_some_iff.1 closed
        refine Or.inr ⟨⟨[], image, after, ?_, oneLine, lastOfLine, fun _ _ => Nat.zero_le _⟩, ?_⟩
        · rw [← whole, List.nil_append, List.append_assoc]
        · rw [find?, here, Option.some_or]
      · rw [here?_of_not_begins begins] at here
        cases here
    | none =>
      have notHere := here?_eq_none_iff.1 here
      have later : find? (c :: text) = find? text := by rw [find?, here, Option.none_or]
      rw [later]
      rcases ih with ⟨missing, unclosed⟩ | ⟨span, found⟩
      · refine Or.inl ⟨missing, ?_⟩
        intro before closed
        cases before with
        | nil => exact notHere closed
        | cons d before => exact unclosed before (closedAfter_cons_iff.1 closed).2
      · refine Or.inr ⟨⟨c :: span.before, span.image, span.after, ?_, span.oneLine,
          span.lastOfLine, ?_⟩, found⟩
        · rw [List.cons_append, List.cons_append, List.cons_append, ← span.text_eq]
        · intro shorter closed
          cases shorter with
          | nil => exact absurd closed notHere
          | cons d shorter =>
            exact Nat.succ_le_succ (span.first _ (closedAfter_cons_iff.1 closed).2)

theorem find?_eq_some_iff :
    find? text = some image ↔ ∃ span : FirstSpan text, span.image = image := by
  rcases find?_cases text with ⟨missing, unclosed⟩ | ⟨span, found⟩
  · rw [missing]
    constructor
    · intro found
      cases found
    · rintro ⟨span, -⟩
      exact absurd span.closedAfter (unclosed _)
  · rw [found, Option.some.injEq]
    constructor
    · intro same
      exact ⟨span, same⟩
    · rintro ⟨other, rfl⟩
      exact span.image_eq other

theorem find?_eq_none_iff : find? text = none ↔ ¬ ∃ before, ClosedAfter before text := by
  rcases find?_cases text with ⟨missing, unclosed⟩ | ⟨span, found⟩
  · rw [missing]
    exact ⟨fun _ ⟨before, closed⟩ => unclosed before closed, fun _ => rfl⟩
  · rw [found]
    constructor
    · intro missing
      cases missing
    · intro unclosed
      exact absurd ⟨_, span.closedAfter⟩ unclosed

/-- An opening is closed on its line if it and the backtick stand on one line of the text. -/
theorem exists_closedAfter_iff :
    (∃ before, ClosedAfter before text) ↔ ∃ line ∈ text.splitOn '\n', HasSpan line := by
  have marked {inside : List Char} (oneLine : '\n' ∉ inside) :
      '\n' ∉ opening ++ inside ++ [backtick] := by
    simp [oneLine, opening, backtick]
  constructor
  · rintro ⟨before, inside, after, oneLine, rfl⟩
    have within : opening ++ inside ++ [backtick] <:+:
        before ++ opening ++ inside ++ backtick :: after := ⟨before, after, by simp⟩
    obtain ⟨line, member, first, rest, whole⟩ :=
      (infix_iff_exists_mem_splitOn (marked oneLine) _).1 within
    exact ⟨line, member, first, inside, rest, by rw [← whole]; simp⟩
  · rintro ⟨line, member, first, inside, rest, rfl⟩
    have oneLine : '\n' ∉ inside := by
      intro newline
      apply not_mem_of_mem_splitOn member
      simp [newline]
    have within : opening ++ inside ++ [backtick] <:+: text :=
      (infix_iff_exists_mem_splitOn (marked oneLine) _).2 ⟨_, member, first, rest, by simp⟩
    obtain ⟨before, after, whole⟩ := within
    exact ⟨before, inside, after, oneLine, by rw [← whole]; simp⟩

theorem ofDescription_eq_ok_iff {description image : String} :
    ofDescription description = .ok image ↔
      ∃ span : FirstSpan description.toList, span.image = image.toList := by
  rw [ofDescription, ← find?_eq_some_iff]
  cases find? description.toList with
  | none => simp
  | some found => simp [← String.toList_inj]

theorem ofDescription_eq_error_iff {description : String} {e : Error} :
    ofDescription description = .error e ↔
      ¬ ∃ line ∈ description.toList.splitOn '\n', HasSpan line := by
  rw [ofDescription, ← exists_closedAfter_iff, ← find?_eq_none_iff]
  cases find? description.toList with
  | none => simp [show e = .noSnippet from rfl]
  | some found => simp

/-- A description names an image exactly if one of its lines has an opening with a backtick after
it. The image is that of the first opening that is closed on its line, and it ends at the last
backtick there, so it has no newline. Any other description has no image. -/
theorem ofDescription_firstSpan (description : String) :
    ((∃ image, ofDescription description = .ok image) ↔
      ∃ line ∈ description.toList.splitOn '\n', HasSpan line) ∧
    (∀ image, ofDescription description = .ok image ↔
      ∃ span : FirstSpan description.toList, span.image = image.toList) ∧
    (ofDescription description = .error .noSnippet ↔
      ¬ ∃ line ∈ description.toList.splitOn '\n', HasSpan line) := by
  refine ⟨?_, fun image => ofDescription_eq_ok_iff, ofDescription_eq_error_iff⟩
  have refused : ofDescription description = .error .noSnippet ↔
      ¬ ∃ line ∈ description.toList.splitOn '\n', HasSpan line := ofDescription_eq_error_iff
  cases answer : ofDescription description with
  | error e =>
    have unclosed := ofDescription_eq_error_iff.1 answer
    simp only [reduceCtorEq, exists_false, unclosed]
  | ok image =>
    rw [answer] at refused
    simp only [reduceCtorEq, false_iff, Classical.not_not] at refused
    exact ⟨fun _ => refused, fun _ => ⟨image, rfl⟩⟩

/-- Whether no opening of a text stands before the end of its first part. -/
def NoneOpensBefore (before text : List Char) : Prop :=
  ∀ shorter rest, text = shorter ++ opening ++ rest → before.length ≤ shorter.length

/-- An opening that comes first counts, whichever backtick is the last of its line. -/
theorem ofDescription_of_noneOpensBefore {after : List Char} (inside : '\n' ∉ image)
    (last : backtick ∉ after.takeWhile (· ≠ '\n'))
    (first : NoneOpensBefore before (before ++ opening ++ image ++ backtick :: after)) :
    ofDescription (String.ofList (before ++ opening ++ image ++ backtick :: after)) =
      .ok (String.ofList image) := by
  rw [ofDescription_eq_ok_iff, String.toList_ofList, String.toList_ofList]
  refine ⟨⟨before, image, after, rfl, inside, last, ?_⟩, rfl⟩
  rintro shorter ⟨inside', after', -, whole⟩
  apply first shorter (inside' ++ backtick :: after')
  rw [whole, List.append_assoc]

/-- The image of the first opening is what stands before the backtick that closes it if that
backtick is the last of its line. Otherwise the image goes on to the last backtick of the line. -/
theorem ofDescription_first_opening {after : List Char} (inside : '\n' ∉ image)
    (first : NoneOpensBefore before (before ++ opening ++ image ++ backtick :: after)) :
    let description := String.ofList (before ++ opening ++ image ++ backtick :: after)
    (ofDescription description = .ok (String.ofList image) ↔
      backtick ∉ after.takeWhile (· ≠ '\n')) ∧
    ∀ more rest, after = more ++ backtick :: rest → '\n' ∉ more →
      backtick ∉ rest.takeWhile (· ≠ '\n') →
      ofDescription description = .ok (String.ofList (image ++ backtick :: more)) := by
  intro description
  have longer : ∀ more rest, after = more ++ backtick :: rest → '\n' ∉ more →
      backtick ∉ rest.takeWhile (· ≠ '\n') →
      ofDescription description = .ok (String.ofList (image ++ backtick :: more)) := by
    rintro more rest rfl oneLine last
    have same : before ++ opening ++ image ++ backtick :: (more ++ backtick :: rest) =
        before ++ opening ++ (image ++ backtick :: more) ++ backtick :: rest := by simp
    have inside' : '\n' ∉ image ++ backtick :: more := by simp [inside, oneLine, backtick]
    show ofDescription (String.ofList _) = _
    rw [same] at first ⊢
    exact ofDescription_of_noneOpensBefore inside' last first
  refine ⟨⟨?_, fun last => ofDescription_of_noneOpensBefore inside last first⟩, longer⟩
  intro found
  cases rest : closed? after with
  | none => exact beforeLast?_eq_none_iff.1 rest
  | some more =>
    obtain ⟨rest, split, oneLine, last⟩ := closed?_eq_some_iff.1 rest
    rw [longer more rest split oneLine last, Except.ok.injEq, String.ofList_inj] at found
    simp at found

/-- The image ends on its line, so a span on a later line does not matter. -/
theorem ofDescription_first_opening_before_another_line :
    let before := "Images: ".toList
    let image := "a/b:v1".toList
    let after := " (amd64)\n\x60docker pull c/d:v2\x60\n".toList
    '\n' ∉ image ∧
      NoneOpensBefore before (before ++ opening ++ image ++ backtick :: after) ∧
      ofDescription (String.ofList (before ++ opening ++ image ++ backtick :: after)) =
        .ok (String.ofList image) := by
  intro before image after
  have inside : '\n' ∉ image := by decide
  have first : NoneOpensBefore before (before ++ opening ++ image ++ backtick :: after) := by
    intro shorter rest whole
    apply Nat.le_of_not_lt
    intro short
    have marked : (before ++ opening ++ image ++ backtick :: after)[shorter.length]? =
        some backtick := by
      rw [whole]
      simp [opening]
    have plain : ∀ i < before.length,
        (before ++ opening ++ image ++ backtick :: after)[i]? ≠ some backtick := by decide
    exact plain _ short marked
  have last : backtick ∉ after.takeWhile (· ≠ '\n') := by decide
  exact ⟨inside, first, (ofDescription_first_opening inside first).1.2 last⟩

/-- Of two spans on one line, the first does not end the image. -/
theorem not_ofDescription_first_snippet :
    ¬ ∀ before image after : List Char, backtick ∉ image → '\n' ∉ image →
      NoneOpensBefore before (before ++ opening ++ image ++ backtick :: after) →
      ofDescription (String.ofList (before ++ opening ++ image ++ backtick :: after)) =
        .ok (String.ofList image) := by
  intro claim
  have found := claim [] "a/b:v1".toList " or \x60docker pull c/d:v2\x60\n".toList (by decide)
    (by decide) (fun _ _ _ => Nat.zero_le _)
  have first : NoneOpensBefore [] ([] ++ opening ++
      "a/b:v1\x60 or \x60docker pull c/d:v2".toList ++ backtick :: ['\n']) :=
    fun _ _ _ => Nat.zero_le _
  have longer := ofDescription_of_noneOpensBefore (by decide) (by decide) first
  have same : [] ++ opening ++ "a/b:v1".toList ++
      backtick :: " or \x60docker pull c/d:v2\x60\n".toList =
      [] ++ opening ++ "a/b:v1\x60 or \x60docker pull c/d:v2".toList ++ backtick :: ['\n'] := by
    decide
  rw [same, longer, Except.ok.injEq, String.ofList_inj] at found
  exact absurd found (by decide)

end ReleaseSupport.Image
