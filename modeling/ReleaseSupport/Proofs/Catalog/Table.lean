import Mathlib.Data.List.Induction
import Mathlib.Data.List.Sort
import Std.Data.TreeMap.Lemmas
import ReleaseSupport.Catalog.Table
import ReleaseSupport.Proofs.Catalog.History

/-!
Pushes in place. Although a push opens the group of its line before it looks at the order, a refused
one leaves nothing behind, for it is refused only by a release that its group already has. So a
table shows after any pushes what the catalog of the same pushes shows.
-/

set_option autoImplicit false
set_option relaxedAutoImplicit false

namespace ReleaseSupport

namespace MinorLine

instance : Std.TransOrd MinorLine :=
  inferInstanceAs
    (Std.TransCmp (compareLex (compareOn MinorLine.major) (compareOn MinorLine.minor)))

instance : Std.LawfulEqOrd MinorLine where
  eq_of_compare {a b} h := by
    change compareLex (compareOn MinorLine.major) (compareOn MinorLine.minor) a b = .eq at h
    simp only [compareLex, compareOn, Ordering.then_eq_eq, Std.compare_eq_iff_eq] at h
    exact MinorLine.ext h.1 h.2

theorem compare_eq_lt_iff {a b : MinorLine} : compare a b = .lt ↔ a < b := by
  change compareLex (compareOn MinorLine.major) (compareOn MinorLine.minor) a b = .lt ↔ _
  simp [compareLex, compareOn, Ordering.then_eq_lt, lt_iff, Std.compare_eq_lt]

/-- Two lists by strictly descending line that have the same members are the same. -/
theorem eq_of_descend {α : Type} {xs ys : List (MinorLine × α)}
    (hx : xs.Pairwise fun a b => b.1 < a.1) (hy : ys.Pairwise fun a b => b.1 < a.1)
    (same : ∀ line a, (line, a) ∈ xs ↔ (line, a) ∈ ys) : xs = ys := by
  have irrefl : Std.Irrefl fun a b : MinorLine × α => b.1 < a.1 := ⟨fun a => lt_irrefl a.1⟩
  have antisymm : Std.Antisymm fun a b : MinorLine × α => b.1 < a.1 :=
    ⟨fun _ _ hab hba => absurd hba (not_lt_of_lt hab)⟩
  exact hx.eq_of_mem_iff hy fun ⟨line, a⟩ => same line a

end MinorLine

/-- Whether every line that can be seen has releases, newest first, and is listed once, the lines
in strictly descending order. -/
structure View.WellFormed (v : View) : Prop where
  ne_nil : ∀ line releases, v.get? line = some releases → releases ≠ []
  releases_newestFirst : ∀ line releases, v.get? line = some releases → NewestFirst releases
  mem_newestFirst_iff : ∀ line releases,
    (line, releases) ∈ v.newestFirst ↔ v.get? line = some releases
  lines_descend : (v.newestFirst.map Prod.fst).Pairwise fun a b => b < a

theorem Catalog.wellFormed_view (c : Catalog) : c.view.WellFormed where
  ne_nil line releases h empty := c.get?_ne_some_nil line (empty ▸ h)
  releases_newestFirst line releases h := by
    obtain ⟨g, -, -, rfl⟩ := exists_mem_of_get? h
    exact g.newestFirst
  mem_newestFirst_iff line releases := by
    constructor
    · intro h
      obtain ⟨g, hg, same⟩ := List.mem_map.1 h
      obtain ⟨rfl, rfl⟩ := Prod.mk.inj same
      exact get?_line_of_mem hg
    · intro h
      obtain ⟨g, hg, rfl, rfl⟩ := exists_mem_of_get? h
      exact List.mem_map.2 ⟨g, hg, rfl⟩
  lines_descend := List.pairwise_map.2 (List.pairwise_map.2 c.linesDescend)

/-- What is found by line determines a catalog. -/
theorem Catalog.eq_of_get? {c c' : Catalog} (same : ∀ line, c.get? line = c'.get? line) :
    c = c' := by
  have ordered := c.wellFormed_view
  have ordered' := c'.wellFormed_view
  have listed : c.view.newestFirst = c'.view.newestFirst := by
    apply MinorLine.eq_of_descend
    · exact List.pairwise_map.1 ordered.lines_descend
    · exact List.pairwise_map.1 ordered'.lines_descend
    · intro line releases
      rw [ordered.mem_newestFirst_iff, ordered'.mem_newestFirst_iff]
      exact iff_of_eq (congrArg (· = some releases) (same line))
  have injective : Function.Injective fun g : Group => (g.line, g.releases) := by
    intro g g' equal
    obtain ⟨line, releases⟩ := Prod.mk.inj equal
    obtain ⟨latest, earlier⟩ := List.cons.inj releases
    exact Group.ext line latest earlier
  exact Catalog.ext (List.map_injective_iff.2 injective listed)

namespace Table

variable {t : Table} {c : Catalog} {line : MinorLine} {release : Release}

private theorem getElem?_insert (groups : Std.TreeMap MinorLine (List Release))
    (releases : List Release) (l : MinorLine) :
    (groups.insert line releases)[l]? = if l = line then some releases else groups[l]? := by
  simp only [Std.TreeMap.getElem?_insert, Std.LawfulEqOrd.compare_eq_iff_eq, @eq_comm _ line l]

theorem mem_newestFirst_iff {releases : List Release} :
    (line, releases) ∈ t.view.newestFirst ↔ t.view.get? line = some releases :=
  List.mem_reverse.trans Std.TreeMap.mem_toList_iff_getElem?_eq_some

theorem newestFirst_descend (t : Table) : t.view.newestFirst.Pairwise fun a b => b.1 < a.1 := by
  refine List.pairwise_reverse.2 (Std.TreeMap.ordered_keys_toList.imp ?_)
  intro a b h
  exact MinorLine.compare_eq_lt_iff.1 h

/-- Whether a table has for every line what a catalog has for it. -/
def Mirrors (t : Table) (c : Catalog) : Prop := ∀ line, t.groups[line]? = c.get? line

theorem mirrors_empty : empty.Mirrors Catalog.empty := fun _ => Std.TreeMap.getElem?_emptyc

namespace Mirrors

theorem newestFirst_eq (h : t.Mirrors c) : t.view.newestFirst = c.view.newestFirst := by
  have ordered := c.wellFormed_view
  have descend := List.pairwise_map.1 ordered.lines_descend
  refine MinorLine.eq_of_descend t.newestFirst_descend descend ?_
  intro line releases
  rw [mem_newestFirst_iff, ordered.mem_newestFirst_iff]
  exact iff_of_eq (congrArg (· = some releases) (h line))

theorem getD_eq (h : t.Mirrors c) (line : MinorLine) :
    t.groups.getD line [] = c.releasesOf line := by
  rw [Std.TreeMap.getD_eq_getD_getElem?, h line, Catalog.releasesOf]

/-- What is found by line is all there is to see. -/
theorem view_eq (h : t.Mirrors c) : t.view = c.view := by
  have listed := h.newestFirst_eq
  have counted : t.groups.toList.reverse = c.groups.map fun g => (g.line, g.releases) := listed
  refine View.ext listed (funext h) ?_ ?_ ?_
  · have same := congrArg List.length counted
    rwa [List.length_reverse, Std.TreeMap.length_toList, List.length_map] at same
  · have same := congrArg List.isEmpty counted
    rwa [List.isEmpty_reverse, Std.TreeMap.isEmpty_toList, List.isEmpty_map] at same
  · have same := congrArg (fun entries => (entries.flatMap Prod.snd).length) counted
    simpa [view, Catalog.view, Catalog.releaseCount, Function.comp_def, List.length_flatMap] using
      same

/-- A push is refused in place as it is in a catalog, and the opened group was there before. -/
theorem of_refused (h : t.Mirrors c) {e : OutOfOrder} (refused : c.push line release = .error e) :
    (t.push line release).refusal? = some e ∧ (t.push line release).table.Mirrors c := by
  obtain ⟨previous, last, older, rfl⟩ := Catalog.push_refused_iff.1 refused
  have group : t.groups.getD line [] = c.releasesOf line := h.getD_eq line
  have pushed : t.push line release =
      ⟨⟨t.groups.insert line (c.releasesOf line)⟩, some ⟨release, previous⟩⟩ := by
    simp only [push, group, last, if_pos older]
  rw [pushed]
  refine ⟨rfl, ?_⟩
  intro l
  rw [getElem?_insert]
  split
  case isTrue same =>
    have full : c.releasesOf line ≠ [] := List.ne_nil_of_mem (List.mem_of_getLast? last)
    rw [same, Catalog.get?_eq, if_neg full]
  case isFalse => exact h l

theorem of_accepted (h : t.Mirrors c) {larger : Catalog}
    (accepted : c.push line release = .ok larger) :
    (t.push line release).refusal? = none ∧ (t.push line release).table.Mirrors larger := by
  have group : t.groups.getD line [] = c.releasesOf line := h.getD_eq line
  have pushed : t.push line release =
      ⟨⟨(t.groups.insert line (c.releasesOf line)).insert line
        (c.releasesOf line ++ [release])⟩, none⟩ := by
    cases last : (c.releasesOf line).getLast? with
    | none => simp only [push, group, last]
    | some previous =>
      have notOlder : ¬ previous.publishedAt < release.publishedAt := by
        intro older
        rw [Catalog.push_refused_iff.2 ⟨previous, last, older, rfl⟩] at accepted
        cases accepted
      simp only [push, group, last, if_neg notOlder]
  rw [pushed]
  refine ⟨rfl, ?_⟩
  intro l
  rw [Catalog.get?_of_push accepted, getElem?_insert, getElem?_insert]
  split
  case isTrue => rfl
  case isFalse => exact h l

theorem refusal?_eq_some_iff (h : t.Mirrors c) {e : OutOfOrder} :
    (t.push line release).refusal? = some e ↔ c.push line release = .error e := by
  cases pushed : c.push line release with
  | error e' => simp [(h.of_refused pushed).1]
  | ok larger => simp [(h.of_accepted pushed).1]

theorem refused_iff (h : t.Mirrors c) {e : OutOfOrder} :
    (t.push line release).refusal? = some e ↔
      ∃ releases previous, t.view.get? line = some releases ∧
        releases.getLast? = some previous ∧ previous.publishedAt < release.publishedAt ∧
        e = ⟨release, previous⟩ := by
  rw [h.refusal?_eq_some_iff, Catalog.push_refused_iff, h.view_eq]
  constructor
  · rintro ⟨previous, last, refused⟩
    obtain ⟨releases, found, own⟩ := Catalog.getLast?_releasesOf.1 last
    exact ⟨releases, previous, found, own, refused⟩
  · rintro ⟨releases, previous, found, own, refused⟩
    exact ⟨previous, Catalog.getLast?_releasesOf.2 ⟨releases, found, own⟩, refused⟩

theorem view_of_refused (h : t.Mirrors c) (refused : (t.push line release).refusal? ≠ none) :
    (t.push line release).table.view = t.view := by
  cases pushed : c.push line release with
  | error e => rw [(h.of_refused pushed).2.view_eq, h.view_eq]
  | ok larger => exact absurd (h.of_accepted pushed).1 refused

theorem get?_of_accepted (h : t.Mirrors c) (accepted : (t.push line release).refusal? = none)
    (l : MinorLine) :
    (t.push line release).table.view.get? l =
      if l = line then some ((t.view.get? line).getD [] ++ [release]) else t.view.get? l := by
  cases pushed : c.push line release with
  | error e =>
    rw [(h.of_refused pushed).1] at accepted
    cases accepted
  | ok larger =>
    rw [(h.of_accepted pushed).2.view_eq, h.view_eq]
    exact Catalog.get?_of_push pushed l

end Mirrors

end Table

/-- A table with the arrivals that its pushes did not refuse. -/
structure Ledger where
  table : Table
  accepted : List Arrival

namespace Ledger

/-- Enters one more arrival; the table stays as the push leaves it, refused or not. -/
def enter (l : Ledger) (a : Arrival) : Ledger :=
  let pushed := l.table.push a.line a.release
  match pushed.refusal? with
  | none => ⟨pushed.table, l.accepted ++ [a]⟩
  | some _ => ⟨pushed.table, l.accepted⟩

def ofArrivals (arrivals : List Arrival) : Ledger := arrivals.foldl enter ⟨Table.empty, []⟩

/-- Whether a ledger shows a catalog, which holds exactly the arrivals accepted. -/
structure Agrees (l : Ledger) (c : Catalog) : Prop where
  mirrors : l.table.Mirrors c
  holds : c.Holds l.accepted

theorem Agrees.enter {l : Ledger} {c : Catalog} (h : l.Agrees c) (a : Arrival) :
    (l.enter a).Agrees (c.receive a) := by
  unfold Ledger.enter Catalog.receive
  cases pushed : c.push a.line a.release with
  | error e =>
    obtain ⟨refusal, mirrors⟩ := h.mirrors.of_refused pushed
    simp only [refusal]
    exact ⟨mirrors, h.holds⟩
  | ok larger =>
    obtain ⟨refusal, mirrors⟩ := h.mirrors.of_accepted pushed
    simp only [refusal]
    exact ⟨mirrors, h.holds.push pushed⟩

theorem agrees_ofArrivals (arrivals : List Arrival) :
    (ofArrivals arrivals).Agrees (Catalog.ofArrivals arrivals) := by
  -- By the last arrival: what agrees before it agrees after it.
  induction arrivals using List.reverseRecOn with
  | nil => exact ⟨Table.mirrors_empty, Catalog.holds_empty⟩
  | append_singleton arrivals a ih =>
    rw [ofArrivals, Catalog.ofArrivals, List.foldl_append, List.foldl_append]
    exact ih.enter a

/-- After any pushes, refused ones among them, a push in place is refused exactly if its line has a
last release that is older, and then leaves all that can be seen as it was; otherwise it adds its
release at the end of its line and leaves every other line alone. So no line is without a release or
out of order, the lines strictly descend, and releases and lines are counted by the pushes that were
accepted. The catalog of the same pushes shows the same and refuses the same. -/
theorem pushes_all_or_nothing (arrivals : List Arrival) :
    let l := ofArrivals arrivals
    (∀ line release,
      (∀ e, (l.table.push line release).refusal? = some e ↔
        ∃ releases previous, l.table.view.get? line = some releases ∧
          releases.getLast? = some previous ∧ previous.publishedAt < release.publishedAt ∧
          e = ⟨release, previous⟩) ∧
      ((l.table.push line release).refusal? ≠ none →
        (l.table.push line release).table.view = l.table.view) ∧
      ((l.table.push line release).refusal? = none → ∀ line',
        (l.table.push line release).table.view.get? line' =
          if line' = line then some ((l.table.view.get? line).getD [] ++ [release])
          else l.table.view.get? line')) ∧
    l.table.view.WellFormed ∧
    l.table.view.releaseCount = l.accepted.length ∧
    l.table.view.size = (l.accepted.map Arrival.line).toFinset.card ∧
    (l.table.view.isEmpty = true ↔ l.accepted = []) ∧
    l.table.view = (Catalog.ofArrivals arrivals).view ∧
    ∀ line release e, (l.table.push line release).refusal? = some e ↔
      (Catalog.ofArrivals arrivals).push line release = .error e := by
  intro l
  obtain ⟨mirrors, holds⟩ := agrees_ofArrivals arrivals
  have view : l.table.view = (Catalog.ofArrivals arrivals).view := mirrors.view_eq
  refine ⟨?_, ?_, ?_, ?_, ?_, view, fun _ _ _ => mirrors.refusal?_eq_some_iff⟩
  · exact fun line release =>
      ⟨fun _ => mirrors.refused_iff, mirrors.view_of_refused, mirrors.get?_of_accepted⟩
  all_goals rw [view]
  · exact Catalog.wellFormed_view _
  · exact holds.releaseCount_eq
  · exact holds.size_eq
  · exact holds.isEmpty_iff

end Ledger

end ReleaseSupport
