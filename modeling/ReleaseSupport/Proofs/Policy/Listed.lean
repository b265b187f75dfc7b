import ReleaseSupport.Proofs.Catalog.VersionedLines
import ReleaseSupport.Proofs.Policy.Verdicts

/-!
Supported releases and the listing that they come from. Each of them stands on a line of the listing
with its tag and its publish time, its tag names a version, and the minor lines of these versions
strictly descend.
-/

set_option autoImplicit false
set_option relaxedAutoImplicit false

namespace ReleaseSupport

open ReleaseSupport.Calendar
open ReleaseSupport.Text

/-- Whether a listing has a line with a tag in its first field and a time in its fourth. -/
def Lists (listing tag : String) (t : Instant) : Prop :=
  ∃ line ∈ lines listing.toList, ∃ field, (line.splitOn '\t')[0]? = some tag.toList ∧
    (line.splitOn '\t')[3]? = some field ∧ Timestamp.ofText (String.ofList field) = .ok t

def minorLineOf? (tag : String) : Option MinorLine := (Version.ofTag? tag).map Version.minorLine

/-- Whether all of some tags name versions, and the minor lines of these strictly descend. -/
def TagsDescend (tags : List String) : Prop :=
  ∃ minors : List MinorLine, tags.map minorLineOf? = minors.map some ∧
    minors.Pairwise fun a b => b < a

theorem TagsDescend.exists_version {tags : List String} (h : TagsDescend tags) {tag : String}
    (member : tag ∈ tags) : ∃ version, Version.ofTag? tag = some version := by
  obtain ⟨minors, same, -⟩ := h
  have found := List.mem_map_of_mem (f := minorLineOf?) member
  rw [same] at found
  obtain ⟨line, -, own⟩ := List.mem_map.1 found
  obtain ⟨version, named, -⟩ := Option.map_eq_some_iff.1 own.symm
  exact ⟨version, named⟩

namespace VersionedLine

theorem ofTag?_tag {listing : String} {v : VersionedLine} (h : v ∈ versionedLines listing) :
    Version.ofTag? v.tag = some v.version := by
  obtain ⟨line, -, named⟩ := List.mem_filterMap.1 h
  obtain ⟨version, found, rfl⟩ := Option.map_eq_some_iff.1 named
  rwa [Version.ofTag?, tag, String.toList_ofList]

/-- A versioned line with a publish time is where a listing has its release. -/
theorem lists_of_mem {listing : String} {v : VersionedLine} {t : Instant}
    (h : v ∈ versionedLines listing) (ht : v.publishedAt? = some t) : Lists listing v.tag t := by
  obtain ⟨line, present, named⟩ := List.mem_filterMap.1 h
  obtain ⟨version, -, rfl⟩ := Option.map_eq_some_iff.1 named
  obtain ⟨field, fourth, read⟩ := publishedAt?_eq_some_iff.1 ht
  refine ⟨line, present, field, ?_, fourth, read⟩
  obtain ⟨first, rest, split⟩ := List.exists_cons_of_ne_nil (List.splitOn_ne_nil '\t' line)
  have head := Catalog.headD_splitOn '\t' line
  rw [split, List.headD_cons] at head
  rw [split, tag, String.toList_ofList, firstField, ← head]
  rfl

end VersionedLine

theorem Verdict.mem_releases {v : Verdict} {release : Release} (h : v.release? = some release) :
    release ∈ v.group.releases := by
  have standing := standsFor_of_release? h
  unfold StandsFor at standing
  split at standing
  · exact List.mem_of_getLast? standing.1
  · exact List.mem_of_head? standing.1

namespace Policy

variable {listing : String} {c : Catalog} {p : Policy} {now : Instant} {verdicts : List Verdict}

/-- The release for a verdict is listed, and its tag belongs to the line of the verdict. -/
theorem lists_of_release? (grouped : Catalog.ofListing listing = .ok c)
    (evaluated : p.evaluate now c = .ok verdicts) {v : Verdict} (hv : v ∈ verdicts)
    {release : Release} (h : v.release? = some release) :
    Lists listing release.tag release.publishedAt ∧ minorLineOf? release.tag = some v.line := by
  obtain ⟨timed, held⟩ := Catalog.holds_of_ofListing grouped
  have member := Verdict.mem_releases h
  rw [held.releases_eq (map_group_of_evaluate evaluated ▸ List.mem_map_of_mem hv)] at member
  -- The group holds what the lines of its minor line list, so one of them lists the release.
  have found := List.mem_map_of_mem (f := some) member
  rw [← VersionedLine.map_release? timed] at found
  obtain ⟨u, hu, own⟩ := List.mem_map.1 found
  obtain ⟨present, same⟩ := List.mem_filter.1 hu
  obtain ⟨t, ht, rfl⟩ := Option.map_eq_some_iff.1 own
  refine ⟨VersionedLine.lists_of_mem present ht, ?_⟩
  rw [minorLineOf?, VersionedLine.ofTag?_tag present]
  exact congrArg some (of_decide_eq_true same)

/-- Supported releases are listed, and the minor lines of their tags strictly descend. -/
theorem lists_of_supported {releases : List Release} (grouped : Catalog.ofListing listing = .ok c)
    (supported : p.supported now c = .ok releases) :
    (∀ release ∈ releases, Lists listing release.tag release.publishedAt) ∧
      TagsDescend (releases.map Release.tag) := by
  obtain ⟨verdicts, evaluated, rfl⟩ := supported_eq_ok_iff.1 supported
  refine ⟨?_, (verdicts.filter fun v => v.decision.isSupported).map Verdict.line, ?_, ?_⟩
  · intro release h
    obtain ⟨v, hv, own⟩ := List.mem_filterMap.1 h
    exact (lists_of_release? grouped evaluated hv own).1
  · rw [List.map_map, List.map_map]
    refine (map_eq_map_of_forall₂ ((forall₂_with_mem (forall₂_reported verdicts)).imp ?_)).symm
    rintro v release ⟨hv, own⟩
    exact (lists_of_release? grouped evaluated (List.mem_of_mem_filter hv) own).2.symm
  · have descend := c.minorLines_descend
    rw [← map_line_of_evaluate evaluated] at descend
    exact descend.sublist (List.filter_sublist.map Verdict.line)

end Policy

end ReleaseSupport
