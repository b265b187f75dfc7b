import ReleaseSupport.Proofs.Catalog.VersionedLines

/-!
Listings that end early. The first lines of a listing have a catalog if the listing has one, and it
holds for every minor line the releases that stand first there.
-/

set_option autoImplicit false
set_option relaxedAutoImplicit false

namespace ReleaseSupport

namespace Text

/-- The text of the first so many lines, each with its ending. -/
def firstLines : Nat → List Char → List Char
  | 0, _ => []
  | _ + 1, [] => []
  | n + 1, c :: text =>
    if c = '\n' then c :: firstLines n text else c :: firstLines (n + 1) text

theorem firstLines_prefix (n : Nat) (text : List Char) : firstLines n text <+: text := by
  induction text generalizing n with
  | nil => cases n <;> exact List.prefix_rfl
  | cons c text ih =>
    cases n with
    | zero => exact List.nil_prefix
    | succ n =>
      unfold firstLines
      split
      · exact List.cons_prefix_cons.2 ⟨rfl, ih n⟩
      · exact List.cons_prefix_cons.2 ⟨rfl, ih (n + 1)⟩

theorem firstLines_of_not_mem (n : Nat) {text : List Char} (h : '\n' ∉ text) :
    firstLines (n + 1) text = text := by
  induction text with
  | nil => rfl
  | cons c text ih =>
    obtain ⟨differs, rest⟩ := List.ne_and_not_mem_of_not_mem_cons h
    rw [firstLines, if_neg (Ne.symm differs), ih rest]

theorem firstLines_append_newline (n : Nat) {line : List Char} (text : List Char)
    (h : '\n' ∉ line) :
    firstLines (n + 1) (line ++ '\n' :: text) = line ++ '\n' :: firstLines n text := by
  induction line with
  | nil => rw [List.nil_append, List.nil_append, firstLines, if_pos rfl]
  | cons c line ih =>
    obtain ⟨differs, rest⟩ := List.ne_and_not_mem_of_not_mem_cons h
    rw [List.cons_append, firstLines, if_neg (Ne.symm differs), ih rest, List.cons_append]

theorem lines_firstLines (n : Nat) (text : List Char) :
    lines (firstLines n text) = (lines text).take n := by
  induction n generalizing text with
  | zero => rw [firstLines, lines_nil, List.take_zero]
  | succ n ih =>
    by_cases h : '\n' ∈ text
    · obtain ⟨line, rest, rfl, inside⟩ := List.eq_append_cons_of_mem h
      rw [firstLines_append_newline n rest inside, lines_append_newline _ inside,
        lines_append_newline _ inside, ih, List.take_succ_cons]
    · rw [firstLines_of_not_mem n h, List.take_of_length_le]
      exact Nat.le_trans (length_lines_le_one h) (Nat.le_add_left 1 n)

end Text

open ReleaseSupport.Text

/-- The first lines of a listing have its first versioned lines. -/
theorem exists_versionedLines_append {shorter listing : String} {n : Nat}
    (first : lines shorter.toList = (lines listing.toList).take n) :
    ∃ rest, versionedLines listing = versionedLines shorter ++ rest := by
  refine ⟨((lines listing.toList).drop n).filterMap VersionedLine.of?, ?_⟩
  rw [versionedLines, versionedLines, first, ← List.filterMap_append, List.take_append_drop]

namespace Catalog

/-- Whether a catalog has on every minor line some of the releases of another one, the first. -/
def Begins (c' c : Catalog) : Prop := ∀ line, c'.releasesOf line <+: c.releasesOf line

/-- The first lines of a listing that has a catalog have one too, which begins that catalog. -/
theorem exists_begins {shorter listing : String} {c : Catalog} {n : Nat}
    (grouped : ofListing listing = .ok c)
    (first : lines shorter.toList = (lines listing.toList).take n) :
    ∃ c', ofListing shorter = .ok c' ∧ c'.Begins c := by
  obtain ⟨rest, split⟩ := exists_versionedLines_append first
  have accepted : VersionedLine.Acceptable (versionedLines shorter) := by
    rw [ofListing_eq, split] at grouped
    exact (acceptable_of_foldlM grouped).of_sublist (List.sublist_append_left _ rest)
  obtain ⟨c', grouped'⟩ := exists_foldlM_of_acceptable accepted
  rw [← ofListing_eq] at grouped'
  refine ⟨c', grouped', ?_⟩
  intro line
  obtain ⟨-, held⟩ := holds_of_ofListing grouped
  obtain ⟨-, held'⟩ := holds_of_ofListing grouped'
  rw [held.releasesOf_eq, held'.releasesOf_eq, split, arrivalsOf, arrivalsOf,
    List.filterMap_append, Arrival.releasesOn, Arrival.releasesOn, List.filter_append,
    List.map_append]
  exact List.prefix_append _ _

namespace Begins

variable {c' c : Catalog}

theorem subset (h : c'.Begins c) {line : MinorLine} (known : line ∈ c'.minorLines) :
    line ∈ c.minorLines := by
  rw [mem_minorLines_iff] at known ⊢
  intro none
  exact known (List.prefix_nil.1 (none ▸ h line))

end Begins

end Catalog

end ReleaseSupport
