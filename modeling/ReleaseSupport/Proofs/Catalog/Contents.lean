import ReleaseSupport.Catalog

/-!
What a catalog holds, line by line. A push either adds one release at the end of its own line and
leaves every other line alone, or is refused because the last release of its line is older.
-/

set_option autoImplicit false
set_option relaxedAutoImplicit false

namespace ReleaseSupport

open ReleaseSupport.Calendar

namespace Group

theorem getLast?_releases (g : Group) : g.releases.getLast? = some g.oldest := by
  rw [releases, List.getLast?_cons, oldest, List.getLastD_eq_getLast?]

theorem append_eq_error_iff {g : Group} {release : Release} {e : OutOfOrder} :
    g.append release = .error e ↔
      g.oldest.publishedAt < release.publishedAt ∧ e = ⟨release, g.oldest⟩ := by
  unfold append
  split
  case isTrue older => simp [older, eq_comm]
  case isFalse notOlder => simp [notOlder]

theorem releases_of_append {g larger : Group} {release : Release}
    (h : g.append release = .ok larger) : larger.releases = g.releases ++ [release] := by
  unfold append at h
  split at h
  · cases h
  · cases h
    rfl

end Group

namespace Catalog

variable {groups : List Group} {line : MinorLine} {release : Release}

def minorLines (c : Catalog) : List MinorLine := c.groups.map Group.line

/-- The releases of a minor line, none if the catalog lacks the line. -/
def releasesOf (c : Catalog) (line : MinorLine) : List Release := (c.get? line).getD []

/-- A line cuts groups that descend in two, the newer ones and the older ones, with at most one
group of its own between them. -/
private theorem exists_split (descend : LinesDescend groups) (line : MinorLine) :
    ∃ newer older, (∀ g ∈ newer, line < g.line) ∧ (∀ g ∈ older, g.line < line) ∧
      (groups = newer ++ older ∨ ∃ g, g.line = line ∧ groups = newer ++ g :: older) := by
  induction groups with
  | nil => exact ⟨[], [], by simp, by simp, Or.inl rfl⟩
  | cons first groups ih =>
    obtain ⟨below, descendRest⟩ := List.pairwise_cons.1 descend
    by_cases same : first.line = line
    · exact ⟨[], groups, by simp, fun g hg => same ▸ below g hg, Or.inr ⟨first, same, rfl⟩⟩
    by_cases older : first.line < line
    · refine ⟨[], first :: groups, by simp, ?_, Or.inl rfl⟩
      intro g hg
      rcases List.mem_cons.1 hg with rfl | hg
      · exact older
      · exact MinorLine.lt_trans (below g hg) older
    · have newer := MinorLine.lt_of_ne_of_not_lt same older
      obtain ⟨above, under, habove, hunder, cut⟩ := ih descendRest
      refine ⟨first :: above, under, ?_, hunder, ?_⟩
      · intro g hg
        rcases List.mem_cons.1 hg with rfl | hg
        · exact newer
        · exact habove g hg
      · rcases cut with rfl | ⟨g, own, rfl⟩
        · exact Or.inl rfl
        · exact Or.inr ⟨g, own, rfl⟩

private theorem place_newer_append {newer : List Group} (h : ∀ g ∈ newer, line < g.line)
    (rest : List Group) :
    place line release (newer ++ rest) = (place line release rest).map (newer ++ ·) := by
  induction newer with
  | nil => cases hp : place line release rest <;> simp [Except.map, hp]
  | cons first newer ih =>
    have above : line < first.line := h first List.mem_cons_self
    have differs := (MinorLine.ne_of_lt above).symm
    have notOlder := MinorLine.not_lt_of_lt above
    rw [List.cons_append, place, if_neg differs, if_neg notOlder,
      ih fun g hg => h g (List.mem_cons_of_mem _ hg)]
    cases place line release rest <;> rfl

private theorem place_older {older : List Group} (h : ∀ g ∈ older, g.line < line) :
    place line release older = .ok (Group.single line release :: older) := by
  cases older with
  | nil => rfl
  | cons first older =>
    have under : first.line < line := h first List.mem_cons_self
    have differs := MinorLine.ne_of_lt under
    rw [place, if_neg differs, if_pos under]

private theorem find?_eq_none_of_ne (h : ∀ g ∈ groups, g.line ≠ line) :
    groups.find? (fun g => g.line = line) = none := by
  rw [List.find?_eq_none]
  intro g hg
  simpa using h g hg

private theorem find?_newer_append {newer : List Group} (h : ∀ g ∈ newer, line < g.line)
    (rest : List Group) :
    (newer ++ rest).find? (fun g => g.line = line) = rest.find? fun g => g.line = line := by
  have absent := find?_eq_none_of_ne fun g hg => (MinorLine.ne_of_lt (h g hg)).symm
  rw [List.find?_append, absent, Option.none_or]

private theorem find?_older {older : List Group} (h : ∀ g ∈ older, g.line < line) :
    older.find? (fun g => g.line = line) = none :=
  find?_eq_none_of_ne fun g hg => MinorLine.ne_of_lt (h g hg)

/-- A push either opens a group between the newer lines and the older ones, or goes to the end of
the group that its line has there. -/
private theorem push_cases (c : Catalog) (line : MinorLine) (release : Release) :
    ∃ newer older, (∀ g ∈ newer, line < g.line) ∧ (∀ g ∈ older, g.line < line) ∧
      ((c.groups = newer ++ older ∧ ∃ larger, c.push line release = .ok larger ∧
          larger.groups = newer ++ Group.single line release :: older) ∨
        ∃ g, g.line = line ∧ c.groups = newer ++ g :: older ∧
          ((∃ e, g.append release = .error e ∧ c.push line release = .error e) ∨
            ∃ appended larger, g.append release = .ok appended ∧
              c.push line release = .ok larger ∧ larger.groups = newer ++ appended :: older)) := by
  obtain ⟨newer, older, hnewer, holder, cut⟩ := exists_split c.linesDescend line
  refine ⟨newer, older, hnewer, holder, ?_⟩
  rcases cut with fresh | ⟨g, own, known⟩
  · refine Or.inl ⟨fresh, ?_⟩
    have placed : place line release c.groups =
        .ok (newer ++ Group.single line release :: older) := by
      rw [fresh, place_newer_append hnewer, place_older holder]
      rfl
    exact ⟨⟨_, linesDescend_of_place c.linesDescend placed⟩, push_eq_ok_iff.2 placed, rfl⟩
  · refine Or.inr ⟨g, own, known, ?_⟩
    have placed : place line release c.groups =
        ((g.append release).map (· :: older)).map (newer ++ ·) := by
      rw [known, place_newer_append hnewer, place, if_pos own]
    cases appended : g.append release with
    | error e =>
      rw [appended] at placed
      exact Or.inl ⟨e, rfl, push_eq_error_iff.2 placed⟩
    | ok larger =>
      rw [appended] at placed
      exact Or.inr ⟨larger, ⟨_, linesDescend_of_place c.linesDescend placed⟩, rfl,
        push_eq_ok_iff.2 placed, rfl⟩

private theorem find?_skip {l : MinorLine} {g : Group} (newer older : List Group)
    (differs : g.line ≠ l) :
    (newer ++ g :: older).find? (fun g => g.line = l) =
      (newer ++ older).find? fun g => g.line = l := by
  simp [List.find?_append, differs]

private theorem find?_own {newer : List Group} {g : Group} (h : ∀ g ∈ newer, line < g.line)
    (older : List Group) (own : g.line = line) :
    (newer ++ g :: older).find? (fun g => g.line = line) = some g := by
  rw [find?_newer_append h]
  simp [own]

private theorem releasesOf_eq_nil {c : Catalog} {newer older : List Group}
    (hnewer : ∀ g ∈ newer, line < g.line) (holder : ∀ g ∈ older, g.line < line)
    (h : c.groups = newer ++ older) : c.releasesOf line = [] := by
  rw [releasesOf, get?, h, find?_newer_append hnewer, find?_older holder]
  rfl

private theorem releasesOf_eq_releases {c : Catalog} {newer older : List Group} {g : Group}
    (hnewer : ∀ g ∈ newer, line < g.line) (own : g.line = line)
    (h : c.groups = newer ++ g :: older) : c.releasesOf line = g.releases := by
  rw [releasesOf, get?, h, find?_own hnewer older own]
  rfl

/-- A push adds its release at the end of its own line and leaves every other line alone. -/
theorem get?_of_push {c larger : Catalog} (h : c.push line release = .ok larger) (l : MinorLine) :
    larger.get? l = if l = line then some (c.releasesOf line ++ [release]) else c.get? l := by
  obtain ⟨newer, older, hnewer, holder, cut⟩ := push_cases c line release
  rcases cut with ⟨before, placed, pushed, after⟩ | ⟨g, own, before, refused | accepted⟩
  · obtain rfl : placed = larger := Except.ok.inj (pushed.symm.trans h)
    have lacking := releasesOf_eq_nil hnewer holder before
    have opened : (Group.single line release).line = line := rfl
    split
    case isTrue same =>
      rw [same, lacking, get?, after, find?_own hnewer older opened]
      rfl
    case isFalse differs =>
      rw [get?, get?, after, before, find?_skip newer older (opened ▸ Ne.symm differs)]
  · obtain ⟨e, -, pushed⟩ := refused
    rw [pushed] at h
    cases h
  · obtain ⟨appended, placed, added, pushed, after⟩ := accepted
    obtain rfl : placed = larger := Except.ok.inj (pushed.symm.trans h)
    have sameLine : appended.line = line := (Group.append_line added).trans own
    have present := releasesOf_eq_releases hnewer own before
    split
    case isTrue same =>
      rw [same, present, get?, after, find?_own hnewer older sameLine,
        ← Group.releases_of_append added]
      rfl
    case isFalse differs =>
      rw [get?, get?, after, before, find?_skip newer older (sameLine ▸ Ne.symm differs),
        find?_skip newer older (own ▸ Ne.symm differs)]

theorem releasesOf_of_push {c larger : Catalog} (h : c.push line release = .ok larger)
    (l : MinorLine) :
    larger.releasesOf l =
      if l = line then c.releasesOf line ++ [release] else c.releasesOf l := by
  rw [releasesOf, get?_of_push h]
  split <;> rfl

theorem getLast?_releasesOf {c : Catalog} :
    (c.releasesOf line).getLast? = some release ↔
      ∃ releases, c.get? line = some releases ∧ releases.getLast? = some release := by
  rw [releasesOf]
  cases c.get? line <;> simp

/-- A push is refused exactly if its line has a last release that is older than the new one. -/
theorem push_refused_iff {c : Catalog} {e : OutOfOrder} :
    c.push line release = .error e ↔
      ∃ previous, (c.releasesOf line).getLast? = some previous ∧
        previous.publishedAt < release.publishedAt ∧ e = ⟨release, previous⟩ := by
  obtain ⟨newer, older, hnewer, holder, cut⟩ := push_cases c line release
  rcases cut with ⟨before, placed, pushed, -⟩ | ⟨g, own, before, outcome⟩
  · simp [pushed, releasesOf_eq_nil hnewer holder before]
  · have present := releasesOf_eq_releases hnewer own before
    have same : c.push line release = .error e ↔ g.append release = .error e := by
      rcases outcome with ⟨e', appended, pushed⟩ | ⟨appended, larger, added, pushed, -⟩
      · rw [appended, pushed]
        simp
      · rw [added, pushed]
        simp
    rw [same, Group.append_eq_error_iff, present, Group.getLast?_releases]
    simp

theorem releaseCount_of_push {c larger : Catalog} (h : c.push line release = .ok larger) :
    larger.releaseCount = c.releaseCount + 1 := by
  obtain ⟨newer, older, -, -, cut⟩ := push_cases c line release
  rcases cut with ⟨before, placed, pushed, after⟩ | ⟨g, -, before, refused | accepted⟩
  · obtain rfl : placed = larger := Except.ok.inj (pushed.symm.trans h)
    have one : (Group.single line release).releases = [release] := rfl
    simp only [releaseCount, before, after, List.flatMap_append, List.flatMap_cons,
      List.length_append, one, List.length_singleton]
    omega
  · obtain ⟨e, -, pushed⟩ := refused
    rw [pushed] at h
    cases h
  · obtain ⟨appended, placed, added, pushed, after⟩ := accepted
    obtain rfl : placed = larger := Except.ok.inj (pushed.symm.trans h)
    have longer := Group.releases_of_append added
    simp only [releaseCount, before, after, List.flatMap_append, List.flatMap_cons,
      List.length_append, longer, List.length_singleton]
    omega

theorem isEmpty_iff {c : Catalog} : c.isEmpty = true ↔ c.groups = [] := by
  simp [isEmpty]

theorem minorLines_descend (c : Catalog) : c.minorLines.Pairwise fun a b => b < a :=
  List.pairwise_map.2 c.linesDescend

theorem find?_line_of_mem {c : Catalog} {g : Group} (hg : g ∈ c.groups) :
    c.groups.find? (fun g' => g'.line = g.line) = some g := by
  obtain ⟨newer, older, before⟩ := List.append_of_mem hg
  have descend := c.linesDescend
  rw [LinesDescend, before] at descend
  have hnewer : ∀ a ∈ newer, g.line < a.line := fun a ha =>
    (List.pairwise_append.1 descend).2.2 a ha g List.mem_cons_self
  rw [before, find?_own hnewer older rfl]

theorem get?_line_of_mem {c : Catalog} {g : Group} (hg : g ∈ c.groups) :
    c.get? g.line = some g.releases := by
  rw [get?, find?_line_of_mem hg]
  rfl

theorem releasesOf_line_of_mem {c : Catalog} {g : Group} (hg : g ∈ c.groups) :
    c.releasesOf g.line = g.releases := by
  rw [releasesOf, get?_line_of_mem hg]
  rfl

theorem exists_mem_of_get? {c : Catalog} {releases : List Release}
    (h : c.get? line = some releases) : ∃ g ∈ c.groups, g.line = line ∧ g.releases = releases := by
  obtain ⟨g, found, rfl⟩ := Option.map_eq_some_iff.1 h
  have own := List.find?_some found
  exact ⟨g, List.mem_of_find?_eq_some found, by simpa using own, rfl⟩

theorem get?_ne_some_nil (c : Catalog) (line : MinorLine) : c.get? line ≠ some [] := by
  intro h
  obtain ⟨g, -, -, none⟩ := exists_mem_of_get? h
  cases none

theorem get?_eq (c : Catalog) (line : MinorLine) :
    c.get? line = if c.releasesOf line = [] then none else some (c.releasesOf line) := by
  rw [releasesOf]
  cases found : c.get? line with
  | none => simp
  | some releases =>
    have full : releases ≠ [] := fun empty => get?_ne_some_nil c line (empty ▸ found)
    simp [full]

theorem mem_minorLines_iff {c : Catalog} : line ∈ c.minorLines ↔ c.releasesOf line ≠ [] := by
  constructor
  · intro h
    obtain ⟨g, hg, rfl⟩ := List.mem_map.1 h
    rw [releasesOf_line_of_mem hg]
    exact List.cons_ne_nil _ _
  · intro full
    have found : c.get? line = some (c.releasesOf line) := by
      rw [get?_eq, if_neg full]
    obtain ⟨g, hg, own, -⟩ := exists_mem_of_get? found
    exact List.mem_map.2 ⟨g, hg, own⟩

/-- The first of the minor lines is the one that no other exceeds. -/
theorem head?_minorLines_eq_some_iff {c : Catalog} :
    c.minorLines.head? = some line ↔ line ∈ c.minorLines ∧ ∀ l ∈ c.minorLines, ¬ line < l := by
  have descend := c.minorLines_descend
  cases lines : c.minorLines with
  | nil => simp
  | cons first rest =>
    rw [lines] at descend
    have below := (List.pairwise_cons.1 descend).1
    rw [List.head?_cons, Option.some.injEq]
    constructor
    · rintro rfl
      refine ⟨List.mem_cons_self, ?_⟩
      intro l hl
      rcases List.mem_cons.1 hl with rfl | hl
      · exact MinorLine.lt_irrefl _
      · exact MinorLine.not_lt_of_lt (below l hl)
    · rintro ⟨member, greatest⟩
      rcases List.mem_cons.1 member with rfl | member
      · rfl
      · exact absurd (below line member) (greatest first List.mem_cons_self)

theorem newestFirst_releasesOf (c : Catalog) (line : MinorLine) :
    NewestFirst (c.releasesOf line) := by
  rw [releasesOf]
  cases found : c.get? line with
  | none => exact List.Pairwise.nil
  | some releases =>
    obtain ⟨g, -, -, rfl⟩ := exists_mem_of_get? found
    exact g.newestFirst

end Catalog

end ReleaseSupport
