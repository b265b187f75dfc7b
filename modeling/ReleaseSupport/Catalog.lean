import ReleaseSupport.Calendar.Stamp
import ReleaseSupport.Version

/-!
Catalogs of releases, grouped by minor line. A group is never empty and lists its releases from the
newest to the oldest; the groups stand from the newest line to the oldest. A release enters its
group at the end, and is refused there if the release before it is older.
-/

set_option autoImplicit false
set_option relaxedAutoImplicit false

namespace ReleaseSupport

open ReleaseSupport.Calendar

@[ext] structure Release where
  tag : String
  publishedAt : Instant
  deriving DecidableEq, Repr

/-- A release that is newer than the one listed before it in the same minor line. -/
structure OutOfOrder where
  release : Release
  previous : Release
  deriving DecidableEq, Repr

def OutOfOrder.message (e : OutOfOrder) : String :=
  "Release listing is not newest-first: " ++
    e.release.tag ++ " (" ++ e.release.publishedAt.date.text ++ ") is listed after older " ++
    e.previous.tag ++ " (" ++ e.previous.publishedAt.date.text ++ ")"

/-- Whether no release is newer than one before it. -/
def NewestFirst (releases : List Release) : Prop :=
  releases.Pairwise fun a b => b.publishedAt ≤ a.publishedAt

/-- The releases of one minor line, in the order in which they are listed. -/
@[ext] structure Group where
  line : MinorLine
  latest : Release
  earlier : List Release
  newestFirst : NewestFirst (latest :: earlier)

namespace Group

def releases (g : Group) : List Release := g.latest :: g.earlier

/-- The release listed last, which no other release of the group precedes in time. -/
def oldest (g : Group) : Release := g.earlier.getLastD g.latest

def single (line : MinorLine) (release : Release) : Group :=
  ⟨line, release, [], List.pairwise_singleton _ _⟩

private theorem oldest_le_of_mem {first : Release} {rest : List Release}
    (h : NewestFirst (first :: rest)) {a : Release} (ha : a ∈ first :: rest) :
    (rest.getLastD first).publishedAt ≤ a.publishedAt := by
  induction rest generalizing first a with
  | nil =>
    obtain rfl : a = first := by simpa using ha
    exact Int.le_refl _
  | cons second rest ih =>
    rw [List.getLastD_cons]
    obtain ⟨head, tail⟩ := List.pairwise_cons.1 h
    rcases List.mem_cons.1 ha with rfl | ha
    · exact Instant.le_trans (ih tail List.mem_cons_self) (head second List.mem_cons_self)
    · exact ih tail ha

theorem oldest_le (g : Group) {a : Release} (ha : a ∈ g.releases) :
    g.oldest.publishedAt ≤ a.publishedAt := oldest_le_of_mem g.newestFirst ha

/-- A group with one more release at its end, which must not be newer than the last one. -/
def append (g : Group) (release : Release) : Except OutOfOrder Group :=
  if h : g.oldest.publishedAt < release.publishedAt then .error ⟨release, g.oldest⟩
  else .ok {
    line := g.line
    latest := g.latest
    earlier := g.earlier ++ [release]
    newestFirst := by
      rw [← List.cons_append]
      refine List.pairwise_append.2 ⟨g.newestFirst, List.pairwise_singleton _ _, ?_⟩
      intro a ha b hb
      obtain rfl : b = release := by simpa using hb
      exact Instant.le_trans (Instant.not_lt.1 h) (g.oldest_le ha) }

theorem append_line {g h : Group} {release : Release} (ok : g.append release = .ok h) :
    h.line = g.line := by
  unfold append at ok
  split at ok
  · cases ok
  · cases ok
    rfl

end Group

def LinesDescend (groups : List Group) : Prop := groups.Pairwise fun a b => b.line < a.line

/-- All the releases of a repository by minor line, from the newest line to the oldest. -/
@[ext] structure Catalog where
  groups : List Group
  linesDescend : LinesDescend groups

namespace Catalog

def empty : Catalog := ⟨[], List.Pairwise.nil⟩

/-- Places a release at the end of its line's group among groups from the newest line to the oldest;
a line that has no group gets one. -/
def place (line : MinorLine) (release : Release) : List Group → Except OutOfOrder (List Group)
  | [] => .ok [Group.single line release]
  | g :: groups =>
    if g.line = line then (g.append release).map (· :: groups)
    else if g.line < line then .ok (Group.single line release :: g :: groups)
    else (place line release groups).map (g :: ·)

private theorem line_mem_of_place {line : MinorLine} {release : Release}
    {groups placed : List Group} (h : place line release groups = .ok placed)
    {g : Group} (hg : g ∈ placed) :
    g.line = line ∨ ∃ g' ∈ groups, g'.line = g.line := by
  induction groups generalizing placed with
  | nil =>
    cases h
    obtain rfl : g = Group.single line release := by simpa using hg
    exact Or.inl rfl
  | cons first groups ih =>
    unfold place at h
    split at h
    case isTrue same =>
      cases appended : first.append release with
      | error e => rw [appended] at h; cases h
      | ok larger =>
        rw [appended] at h
        cases h
        rcases List.mem_cons.1 hg with rfl | hg
        · exact Or.inl ((Group.append_line appended).trans same)
        · exact Or.inr ⟨g, List.mem_cons_of_mem _ hg, rfl⟩
    case isFalse =>
      split at h
      · cases h
        rcases List.mem_cons.1 hg with rfl | hg
        · exact Or.inl rfl
        · exact Or.inr ⟨g, hg, rfl⟩
      · cases later : place line release groups with
        | error e => rw [later] at h; cases h
        | ok rest =>
          rw [later] at h
          cases h
          rcases List.mem_cons.1 hg with rfl | hg
          · exact Or.inr ⟨g, List.mem_cons_self, rfl⟩
          · exact (ih later hg).imp id fun ⟨g', hg', same⟩ => ⟨g', List.mem_cons_of_mem _ hg', same⟩

theorem linesDescend_of_place {line : MinorLine} {release : Release} {groups placed : List Group}
    (descend : LinesDescend groups) (h : place line release groups = .ok placed) :
    LinesDescend placed := by
  induction groups generalizing placed with
  | nil =>
    cases h
    exact List.pairwise_singleton _ _
  | cons first groups ih =>
    obtain ⟨below, descendRest⟩ := List.pairwise_cons.1 descend
    unfold place at h
    split at h
    case isTrue same =>
      cases appended : first.append release with
      | error e => rw [appended] at h; cases h
      | ok larger =>
        rw [appended] at h
        cases h
        refine List.pairwise_cons.2 ⟨fun g hg => ?_, descendRest⟩
        rw [Group.append_line appended]
        exact below g hg
    case isFalse differs =>
      split at h
      case isTrue newer =>
        cases h
        refine List.pairwise_cons.2 ⟨fun g hg => ?_, descend⟩
        rcases List.mem_cons.1 hg with rfl | hg
        · exact newer
        · exact MinorLine.lt_trans (below g hg) newer
      case isFalse notNewer =>
        cases later : place line release groups with
        | error e => rw [later] at h; cases h
        | ok rest =>
          rw [later] at h
          cases h
          refine List.pairwise_cons.2 ⟨fun g hg => ?_, ih descendRest later⟩
          rcases line_mem_of_place later hg with same | ⟨g', hg', same⟩
          · rw [same]
            exact MinorLine.lt_of_ne_of_not_lt differs notNewer
          · rw [← same]
            exact below g' hg'

def push (c : Catalog) (line : MinorLine) (release : Release) : Except OutOfOrder Catalog :=
  match h : place line release c.groups with
  | .error e => .error e
  | .ok groups => .ok ⟨groups, linesDescend_of_place c.linesDescend h⟩

theorem push_eq_ok_iff {c larger : Catalog} {line : MinorLine} {release : Release} :
    c.push line release = .ok larger ↔ place line release c.groups = .ok larger.groups := by
  unfold push
  split
  case h_1 e h => simp [h]
  case h_2 groups h => simp [h, Catalog.ext_iff]

theorem push_eq_error_iff {c : Catalog} {line : MinorLine} {release : Release} {e : OutOfOrder} :
    c.push line release = .error e ↔ place line release c.groups = .error e := by
  unfold push
  split
  case h_1 e h => simp [h]
  case h_2 groups h => simp [h]

def get? (c : Catalog) (line : MinorLine) : Option (List Release) :=
  (c.groups.find? fun g => g.line = line).map Group.releases

def size (c : Catalog) : Nat := c.groups.length

def isEmpty (c : Catalog) : Bool := c.groups.isEmpty

def releaseCount (c : Catalog) : Nat := (c.groups.flatMap Group.releases).length

end Catalog

end ReleaseSupport
