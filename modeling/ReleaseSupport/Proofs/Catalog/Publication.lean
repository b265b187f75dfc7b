import ReleaseSupport.Proofs.Catalog.VersionedLines

/-!
Publication of a release. A listing with one more versioned line at its front has the same catalog
but for one line, where the new release comes first.
-/

set_option autoImplicit false
set_option relaxedAutoImplicit false

namespace ReleaseSupport

open ReleaseSupport.Calendar
open ReleaseSupport.Text

theorem Group.eq_of_releases {g g' : Group} (line : g.line = g'.line)
    (releases : g.releases = g'.releases) : g = g' := by
  obtain ⟨latest, earlier⟩ := List.cons.inj releases
  exact Group.ext line latest earlier

theorem versionedLines_cons {listing line : String} {v : VersionedLine}
    (oneLine : '\n' ∉ line.toList)
    (versioned : VersionedLine.of? (dropReturn line.toList) = some v) :
    versionedLines (line ++ "\n" ++ listing) = v :: versionedLines listing := by
  have text : (line ++ "\n" ++ listing).toList = line.toList ++ '\n' :: listing.toList := by
    rw [String.toList_append, String.toList_append, List.append_assoc]
    rfl
  rw [versionedLines, text, lines_append_newline _ oneLine, List.filterMap_cons_some versioned,
    versionedLines]

namespace Catalog

/-- Whether a catalog has the releases of another one, and one more at the front of its line. -/
def Publishes (c c' : Catalog) (line : MinorLine) (release : Release) : Prop :=
  ∀ l, c'.releasesOf l = if l = line then release :: c.releasesOf line else c.releasesOf l

theorem exists_publishes {listing line : String} {v : VersionedLine} {c c' : Catalog}
    (grouped : ofListing listing = .ok c) (oneLine : '\n' ∉ line.toList)
    (versioned : VersionedLine.of? (dropReturn line.toList) = some v)
    (regrouped : ofListing (line ++ "\n" ++ listing) = .ok c') :
    ∃ release, v.release? = some release ∧ c.Publishes c' v.line release := by
  obtain ⟨-, held⟩ := holds_of_ofListing grouped
  obtain ⟨timed, held'⟩ := holds_of_ofListing regrouped
  rw [versionedLines_cons oneLine versioned] at timed held'
  obtain ⟨t, listed, arrived⟩ :=
    VersionedLine.arrivalsOf_cons (timed v List.mem_cons_self) (versionedLines listing)
  refine ⟨_, listed, ?_⟩
  intro l
  rw [held'.releasesOf_eq, arrived, held.releasesOf_eq, held.releasesOf_eq]
  by_cases own : l = v.line
  · rw [if_pos own, own]
    simp [Arrival.releasesOn]
  · rw [if_neg own]
    simp [Arrival.releasesOn, Ne.symm own]

namespace Publishes

variable {c c' : Catalog} {line l : MinorLine} {release : Release}

theorem mem_minorLines_iff (h : c.Publishes c' line release) :
    l ∈ c'.minorLines ↔ l = line ∨ l ∈ c.minorLines := by
  rw [Catalog.mem_minorLines_iff, Catalog.mem_minorLines_iff, h l]
  by_cases own : l = line
  · rw [if_pos own]
    simp [own]
  · rw [if_neg own]
    simp [own]

/-- The newest line stays the newest, unless the release belongs to a newer one. -/
theorem head?_minorLines (h : c.Publishes c' line release) {newest : MinorLine}
    (head : c.minorLines.head? = some newest) :
    c'.minorLines.head? = some (if newest < line then line else newest) := by
  obtain ⟨member, greatest⟩ := head?_minorLines_eq_some_iff.1 head
  rw [head?_minorLines_eq_some_iff]
  by_cases newer : newest < line
  · rw [if_pos newer]
    refine ⟨h.mem_minorLines_iff.2 (Or.inl rfl), ?_⟩
    intro l known
    rcases h.mem_minorLines_iff.1 known with rfl | known
    · exact MinorLine.lt_irrefl l
    · intro above
      exact greatest l known (MinorLine.lt_trans newer above)
  · rw [if_neg newer]
    refine ⟨h.mem_minorLines_iff.2 (Or.inr member), ?_⟩
    intro l known
    rcases h.mem_minorLines_iff.1 known with rfl | known
    · exact newer
    · exact greatest l known

/-- The group of any other line is the same. -/
theorem mem_groups_of_ne (h : c.Publishes c' line release) {g : Group} (hg : g ∈ c.groups)
    (other : g.line ≠ line) : g ∈ c'.groups := by
  have known : g.line ∈ c'.minorLines :=
    h.mem_minorLines_iff.2 (Or.inr (List.mem_map_of_mem hg))
  obtain ⟨g', hg', same⟩ := List.mem_map.1 known
  have releases : g'.releases = g.releases := by
    rw [← releasesOf_line_of_mem hg', same, h g.line, if_neg other, releasesOf_line_of_mem hg]
  rwa [← Group.eq_of_releases same releases]

/-- The group of the line has the release at its front. -/
theorem exists_group (h : c.Publishes c' line release) :
    ∃ g' ∈ c'.groups, g'.line = line ∧ g'.releases = release :: c.releasesOf line := by
  obtain ⟨g', hg', same⟩ := List.mem_map.1 (h.mem_minorLines_iff.2 (Or.inl rfl))
  refine ⟨g', hg', same, ?_⟩
  rw [← releasesOf_line_of_mem hg', same, h line, if_pos rfl]

end Publishes

end Catalog

end ReleaseSupport
