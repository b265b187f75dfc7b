import ReleaseSupport.Proofs.Calendar.Stamp
import ReleaseSupport.Proofs.Catalog.Table
import ReleaseSupport.Proofs.Catalog.VersionedLines

/-!
Written listings. Releases that are written row by row, each with its tag, two fields of no
matter and its timestamp, are read back line by line in their order, whatever ends the rows and
however the minor lines are interleaved.
-/

set_option autoImplicit false
set_option relaxedAutoImplicit false

namespace ReleaseSupport

open ReleaseSupport.Calendar
open ReleaseSupport.Text

/-- Whether a text can stand between the tabs of one line. -/
def IsField (text : String) : Prop := '\t' ∉ text.toList ∧ '\n' ∉ text.toList

instance (text : String) : Decidable (IsField text) := inferInstanceAs (Decidable (_ ∧ _))

/-- A release as it is written in a listing. The tag names a version, no field that is written has a
tab or a newline, and the publish time has no fraction of a second. -/
structure Row where
  release : Release
  version : Version
  second : String
  third : String
  /-- Whether a carriage return stands before the newline. -/
  returns : Bool
  named : Version.ofTag? release.tag = some version
  whole : release.publishedAt.IsWhole
  isField_tag : IsField release.tag
  isField_second : IsField second
  isField_third : IsField third

namespace Row

/-- The fields of a row, joined by tabs. -/
def line (r : Row) : String :=
  r.release.tag ++ "\t" ++ r.second ++ "\t" ++ r.third ++ "\t" ++ r.release.publishedAt.timestamp

def ending (r : Row) : String := if r.returns then "\r\n" else "\n"

def text (r : Row) : String := r.line ++ r.ending

def arrival (r : Row) : Arrival := ⟨r.version.minorLine, r.release⟩

/-- A listing of some rows. -/
def listing (rows : List Row) : String := String.join (rows.map text)

/-- The row as a versioned line. -/
def versionedLine (r : Row) : VersionedLine := ⟨r.line.toList, r.version⟩

theorem toList_line (r : Row) :
    r.line.toList = r.release.tag.toList ++ '\t' :: (r.second.toList ++ '\t' ::
      (r.third.toList ++ '\t' :: r.release.publishedAt.timestampChars)) := by
  simp [line, Instant.timestamp]

theorem newline_not_mem_line (r : Row) : '\n' ∉ r.line.toList := by
  have last : '\n' ∉ r.release.publishedAt.timestampChars :=
    Instant.not_mem_timestampChars (by decide) (by decide) _
  rw [toList_line]
  simp [r.isField_tag.2, r.isField_second.2, r.isField_third.2, last]

/-- A row ends with its timestamp, so no carriage return of its own is taken for the ending. -/
theorem dropReturn_line (r : Row) : dropReturn r.line.toList = r.line.toList := by
  have last : r.line.toList.getLast? = some 'Z' := by
    rw [toList_line, Instant.timestampChars_eq]
    simp [List.getLast?_cons]
  rw [dropReturn, last, if_neg (by decide)]

theorem splitOn_line (r : Row) :
    r.line.toList.splitOn '\t' =
      [r.release.tag.toList, r.second.toList, r.third.toList,
        r.release.publishedAt.timestampChars] := by
  have last : '\t' ∉ r.release.publishedAt.timestampChars :=
    Instant.not_mem_timestampChars (by decide) (by decide) _
  rw [toList_line, List.splitOn_append_cons_self_of_not_mem r.isField_tag.1,
    List.splitOn_append_cons_self_of_not_mem r.isField_second.1,
    List.splitOn_append_cons_self_of_not_mem r.isField_third.1, List.splitOn_eq_singleton last]

theorem firstField_line (r : Row) :
    VersionedLine.firstField r.line.toList = r.release.tag.toList := by
  have split := Catalog.headD_splitOn '\t' r.line.toList
  rw [splitOn_line, List.headD_cons] at split
  exact split.symm

/-- A row is one line, whichever way it is ended. -/
theorem lines_text_append (r : Row) (rest : List Char) :
    lines (r.text.toList ++ rest) = r.line.toList :: lines rest := by
  have inside := r.newline_not_mem_line
  cases returned : r.returns with
  | false =>
    have ended : r.text.toList ++ rest = r.line.toList ++ '\n' :: rest := by
      simp [text, ending, returned]
    rw [ended, lines_append_newline rest inside, dropReturn_line]
  | true =>
    have ended : r.text.toList ++ rest = (r.line.toList ++ ['\r']) ++ '\n' :: rest := by
      simp [text, ending, returned]
    have outside : '\n' ∉ r.line.toList ++ ['\r'] := by simp [inside]
    have dropped : dropReturn (r.line.toList ++ ['\r']) = r.line.toList := by simp [dropReturn]
    rw [ended, lines_append_newline rest outside, dropped]

theorem lines_listing (rows : List Row) :
    lines (listing rows).toList = rows.map fun r => r.line.toList := by
  induction rows with
  | nil => exact lines_nil
  | cons r rows ih =>
    have first : (listing (r :: rows)).toList = r.text.toList ++ (listing rows).toList := by
      rw [listing, List.map_cons, String.join_cons, String.toList_append, listing]
    rw [first, lines_text_append, ih, List.map_cons]

theorem of?_line (r : Row) : VersionedLine.of? r.line.toList = some r.versionedLine := by
  have named := r.named
  rw [Version.ofTag?] at named
  rw [VersionedLine.of?, firstField_line, named]
  rfl

theorem versionedLines_listing (rows : List Row) :
    versionedLines (listing rows) = rows.map versionedLine := by
  rw [versionedLines, lines_listing, List.filterMap_map,
    List.filterMap_eq_map_iff_forall_eq_some]
  intro r _
  rw [Function.comp_apply, of?_line]

theorem publishedAt?_versionedLine (r : Row) :
    r.versionedLine.publishedAt? = some r.release.publishedAt := by
  rw [VersionedLine.publishedAt?_eq_some_iff]
  refine ⟨r.release.publishedAt.timestampChars, ?_, Timestamp.ofText_timestamp r.whole⟩
  rw [VersionedLine.fields, versionedLine, splitOn_line]
  rfl

theorem arrival?_versionedLine (r : Row) : r.versionedLine.arrival? = some r.arrival := by
  have tag : r.versionedLine.tag = r.release.tag := by
    rw [VersionedLine.tag, versionedLine, firstField_line, String.ofList_toList]
  exact VersionedLine.arrival?_eq_some_iff.2 ⟨rfl, tag.symm, r.publishedAt?_versionedLine⟩

theorem arrivalsOf_versionedLines (rows : List Row) :
    arrivalsOf (rows.map versionedLine) = rows.map arrival := by
  rw [arrivalsOf, List.filterMap_map, List.filterMap_eq_map_iff_forall_eq_some]
  intro r _
  rw [Function.comp_apply, arrival?_versionedLine]

end Row

namespace Catalog

/-- Rows in order within each minor line have a catalog that holds their releases. -/
theorem exists_holds_of_rows {rows : List Row} (ordered : Arrival.InOrder (rows.map Row.arrival)) :
    ∃ c, ofListing (Row.listing rows) = .ok c ∧ c.Holds (rows.map Row.arrival) := by
  have accepted : VersionedLine.Acceptable (rows.map Row.versionedLine) := by
    rw [VersionedLine.acceptable_iff, Row.arrivalsOf_versionedLines]
    refine ⟨?_, ordered⟩
    intro v hv
    obtain ⟨r, -, rfl⟩ := List.mem_map.1 hv
    exact VersionedLine.timed_iff.2 ⟨_, r.publishedAt?_versionedLine⟩
  obtain ⟨c, run⟩ := exists_foldlM_of_acceptable accepted
  have grouped : ofListing (Row.listing rows) = .ok c := by
    rw [ofListing_eq, Row.versionedLines_listing, run]
  obtain ⟨-, held⟩ := holds_of_ofListing grouped
  rw [Row.versionedLines_listing, Row.arrivalsOf_versionedLines] at held
  exact ⟨c, grouped, held⟩

/-- Releases that are written with no time later than one before it on its minor line are read back:
the catalog of the listing has for each minor line exactly the releases of its rows in their order.
Rows that have the same releases on each minor line have the same catalog. -/
theorem ofListing_rows {rows : List Row} (ordered : Arrival.InOrder (rows.map Row.arrival)) :
    ∃ c, ofListing (Row.listing rows) = .ok c ∧
      (∀ line releases, c.get? line = some releases ↔
        releases ≠ [] ∧ releases = Arrival.releasesOn line (rows.map Row.arrival)) ∧
      ∀ rows' : List Row,
        (∀ line, Arrival.releasesOn line (rows'.map Row.arrival) =
          Arrival.releasesOn line (rows.map Row.arrival)) →
        ofListing (Row.listing rows') = .ok c := by
  obtain ⟨c, grouped, held⟩ := exists_holds_of_rows ordered
  refine ⟨c, grouped, ?_, ?_⟩
  · intro line releases
    rw [held.get?_eq]
    split
    case isTrue none =>
      rw [none]
      constructor
      · intro absent
        cases absent
      · rintro ⟨full, empty⟩
        exact absurd empty full
    case isFalse full =>
      rw [Option.some.injEq]
      constructor
      · rintro rfl
        exact ⟨full, rfl⟩
      · rintro ⟨-, rfl⟩
        rfl
  · intro rows' same
    have ordered' : Arrival.InOrder (rows'.map Row.arrival) := by
      rw [Arrival.inOrder_iff] at ordered ⊢
      intro line
      rw [same]
      exact ordered line
    obtain ⟨c', grouped', held'⟩ := exists_holds_of_rows ordered'
    have equal : c' = c := by
      apply eq_of_get?
      intro line
      rw [held'.get?_eq, held.get?_eq, same]
    rw [grouped', equal]

/-- A row of version 1.1.0 in a leap second, ended by a newline alone. -/
def leapSecondRow : Row where
  release := {
    tag := "v1.1.0"
    publishedAt := {
      date := { year := 2016, month := 12, day := 31 }, second := 86399, nanos := 1000000000 } }
  version := ⟨1, 1, 0⟩
  second := "Latest"
  third := ""
  returns := false
  named := by decide +kernel
  whole := Or.inr rfl
  isField_tag := by decide +kernel
  isField_second := by decide +kernel
  isField_third := by decide +kernel

/-- A row of version 1.0.7 in the year 10000, ended by a carriage return and a newline. -/
def distantRow : Row where
  release := {
    tag := "v1.0.7"
    publishedAt := { date := { year := 10000, month := 1, day := 1 }, second := 0, nanos := 0 } }
  version := ⟨1, 0, 7⟩
  second := ""
  third := "stable"
  returns := true
  named := by decide +kernel
  whole := Or.inl rfl
  isField_tag := by decide +kernel
  isField_second := by decide +kernel
  isField_third := by decide +kernel

theorem ofListing_rows_interleaved :
    ∃ c, ofListing (Row.listing [leapSecondRow, distantRow, leapSecondRow]) = .ok c ∧
      c.get? ⟨1, 1⟩ = some [leapSecondRow.release, leapSecondRow.release] ∧
      c.get? ⟨1, 0⟩ = some [distantRow.release] ∧
      ofListing (Row.listing [distantRow, leapSecondRow, leapSecondRow]) = .ok c := by
  have ordered : Arrival.InOrder
      ([leapSecondRow, distantRow, leapSecondRow].map Row.arrival) := by
    unfold Arrival.InOrder
    decide
  obtain ⟨c, grouped, found, same⟩ := ofListing_rows ordered
  refine ⟨c, grouped, ?_, ?_, ?_⟩
  · exact (found _ _).2 ⟨by simp, by decide +kernel⟩
  · exact (found _ _).2 ⟨by simp, by decide +kernel⟩
  · apply same
    intro line
    by_cases newer : line = ⟨1, 1⟩
    · rw [newer]
      decide +kernel
    · have other : leapSecondRow.arrival.line ≠ line := Ne.symm newer
      simp [Arrival.releasesOn, List.filter_cons, other]

end Catalog

end ReleaseSupport
