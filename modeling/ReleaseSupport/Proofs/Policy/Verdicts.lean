import ReleaseSupport.Policy
import ReleaseSupport.Proofs.Catalog.History
import ReleaseSupport.Proofs.Pairing

/-!
What the policy says of a catalog that was built by pushes. Every minor line gets one verdict, the
newest line first, and the verdict on a line that is not the newest follows from the earliest and
the latest of all its releases, wherever they are listed.
-/

set_option autoImplicit false
set_option relaxedAutoImplicit false

namespace ReleaseSupport

open ReleaseSupport.Calendar
open Arrival

/-- Whether a time is the earliest at which one of some releases was published. -/
def IsEarliest (t : Instant) (releases : List Release) : Prop :=
  (∃ release ∈ releases, release.publishedAt = t) ∧ ∀ release ∈ releases, t ≤ release.publishedAt

def IsLatest (t : Instant) (releases : List Release) : Prop :=
  (∃ release ∈ releases, release.publishedAt = t) ∧ ∀ release ∈ releases, release.publishedAt ≤ t

/-- Two instants at the same place in the order are equally far from any other. -/
theorem Calendar.Instant.sub_eq_sub {now a b : Instant} (hab : a ≤ b) (hba : b ≤ a) :
    now - a = now - b := by
  have same : a.position = b.position := Int.le_antisymm hab hba
  have ha := a.nanos_lt
  have hb := b.nanos_lt
  have sa := a.second_lt
  have sb := b.second_lt
  -- A position splits into day, second and nanoseconds in only one way.
  unfold position at same
  have nanos : a.nanos = b.nanos := by omega
  have second : a.second = b.second := by omega
  have day : a.date.dayNumber = b.date.dayNumber := by omega
  change sub now a = sub now b
  unfold sub leapAdjustment inLeapSecond
  rw [nanos, second, day]

namespace Group

theorem isEarliest_oldest (g : Group) : IsEarliest g.oldest.publishedAt g.releases :=
  ⟨⟨g.oldest, List.mem_of_getLast? g.getLast?_releases, rfl⟩, fun _ => g.oldest_le⟩

theorem isLatest_latest (g : Group) : IsLatest g.latest.publishedAt g.releases := by
  refine ⟨⟨g.latest, List.mem_cons_self, rfl⟩, ?_⟩
  intro release h
  rcases List.mem_cons.1 h with rfl | h
  · exact Int.le_refl _
  · exact (List.pairwise_cons.1 g.newestFirst).1 release h

end Group

namespace Policy

/-- The decision on a line that is not the newest depends on its releases only through the earliest
and the latest of their times. -/
theorem decideOlder_eq (p : Policy) (now : Instant) {g : Group} {earliest latest : Instant}
    (first : IsEarliest earliest g.releases) (last : IsLatest latest g.releases) :
    p.decideOlder now g =
      if now - earliest < p.maxAge then .withinMaxAge
      else if now - latest < p.patchWindow then .recentPatch
      else .endOfLife := by
  obtain ⟨⟨a, ha, rfl⟩, below⟩ := first
  obtain ⟨⟨b, hb, rfl⟩, above⟩ := last
  have old : now - g.oldest.publishedAt = now - a.publishedAt :=
    Instant.sub_eq_sub (g.oldest_le ha) (below _ (List.mem_of_getLast? g.getLast?_releases))
  have new : now - g.latest.publishedAt = now - b.publishedAt :=
    Instant.sub_eq_sub (above _ List.mem_cons_self) (g.isLatest_latest.2 b hb)
  rw [decideOlder, old, new]

theorem evaluate_eq_ok_iff {p : Policy} {now : Instant} {c : Catalog} {verdicts : List Verdict} :
    p.evaluate now c = .ok verdicts ↔
      ∃ newest older, c.groups = newest :: older ∧
        verdicts = ⟨newest, .newest⟩ :: older.map fun g => ⟨g, p.decideOlder now g⟩ := by
  unfold evaluate
  cases c.groups with
  | nil => simp
  | cons newest older => simp [eq_comm]

theorem evaluate_eq_error_iff {p : Policy} {now : Instant} {c : Catalog} {e : Policy.Error} :
    p.evaluate now c = .error e ↔ c.isEmpty = true := by
  unfold evaluate Catalog.isEmpty
  cases c.groups with
  | nil => cases e; simp
  | cons newest older => simp

theorem map_group_of_evaluate {p : Policy} {now : Instant} {c : Catalog}
    {verdicts : List Verdict} (h : p.evaluate now c = .ok verdicts) :
    verdicts.map Verdict.group = c.groups := by
  obtain ⟨newest, older, groups, rfl⟩ := evaluate_eq_ok_iff.1 h
  simp [groups, Function.comp_def]

theorem supported_eq_ok_iff {p : Policy} {now : Instant} {c : Catalog} {releases : List Release} :
    p.supported now c = .ok releases ↔
      ∃ verdicts, p.evaluate now c = .ok verdicts ∧ reported verdicts = releases := by
  unfold supported
  cases p.evaluate now c <;> simp [Except.map]

theorem supported_eq_error_iff {p : Policy} {now : Instant} {c : Catalog} {e : Policy.Error} :
    p.supported now c = .error e ↔ p.evaluate now c = .error e := by
  unfold supported
  cases p.evaluate now c <;> simp [Except.map]

/-- The releases to report are those of the supported lines, one for each, in the same order. -/
theorem forall₂_reported (verdicts : List Verdict) :
    List.Forall₂ (fun v release => v.release? = some release)
      (verdicts.filter fun v => v.decision.isSupported) (reported verdicts) := by
  induction verdicts with
  | nil => exact List.Forall₂.nil
  | cons v verdicts ih =>
    cases standing : v.release? with
    | none =>
      have unsupported : v.decision.isSupported = false := by
        rw [← v.isSome_release?, standing]
        rfl
      rwa [List.filter_cons_of_neg (by simp [unsupported]), reported,
        List.filterMap_cons_none standing]
    | some release =>
      have supported : v.decision.isSupported = true := by
        rw [← v.isSome_release?, standing]
        rfl
      rw [reported, List.filterMap_cons_some standing]
      simp only [List.filter_cons, supported, if_true]
      exact List.Forall₂.cons standing ih

end Policy

namespace Verdict

def line (v : Verdict) : MinorLine := v.group.line

/-- Whether a release stands for a supported line with these releases: the one listed last and
earliest in time for the newest line, the one listed first and latest in time for any other. -/
def StandsFor (v : Verdict) (releases : List Release) (release : Release) : Prop :=
  if v.decision = .newest then
    releases.getLast? = some release ∧ IsEarliest release.publishedAt releases
  else releases.head? = some release ∧ IsLatest release.publishedAt releases

theorem standsFor_of_release? {v : Verdict} {release : Release} (h : v.release? = some release) :
    v.StandsFor v.group.releases release := by
  obtain ⟨group, decision⟩ := v
  cases decision with
  | newest =>
    obtain rfl : group.oldest = release := Option.some.inj h
    exact ⟨group.getLast?_releases, group.isEarliest_oldest⟩
  | withinMaxAge =>
    obtain rfl : group.latest = release := Option.some.inj h
    exact ⟨rfl, group.isLatest_latest⟩
  | recentPatch =>
    obtain rfl : group.latest = release := Option.some.inj h
    exact ⟨rfl, group.isLatest_latest⟩
  | endOfLife => cases h

end Verdict

namespace Catalog

theorem Holds.releases_eq {c : Catalog} {arrivals : List Arrival} (held : c.Holds arrivals)
    {g : Group} (hg : g ∈ c.groups) : g.releases = releasesOn g.line arrivals := by
  rw [← held.releasesOf_eq, releasesOf_line_of_mem hg]

end Catalog

namespace Policy

/-- The lines of the verdicts are the minor lines of the catalog, in its order. -/
theorem map_line_of_evaluate {p : Policy} {now : Instant} {c : Catalog} {verdicts : List Verdict}
    (h : p.evaluate now c = .ok verdicts) : verdicts.map Verdict.line = c.minorLines := by
  rw [Catalog.minorLines, ← map_group_of_evaluate h, List.map_map]
  rfl

/-- Evaluation fails exactly on a catalog without a release. Otherwise it gives one verdict for each
minor line with a kept arrival, in strictly descending order. The first says newest, and each of the
others follows from the earliest and the latest of the times of its line. One release is reported
for each supported line, in the same order. -/
theorem evaluate_ofArrivals (p : Policy) (now : Instant) (arrivals : List Arrival) :
    ((∃ e, p.evaluate now (Catalog.ofArrivals arrivals) = .error e) ↔
      (Catalog.ofArrivals arrivals).isEmpty = true) ∧
    ((Catalog.ofArrivals arrivals).isEmpty = true ↔ kept arrivals = []) ∧
    ∀ verdicts, p.evaluate now (Catalog.ofArrivals arrivals) = .ok verdicts →
      (verdicts.map Verdict.line).Pairwise (fun a b => b < a) ∧
      (∀ line, line ∈ verdicts.map Verdict.line ↔ ∃ a ∈ kept arrivals, a.line = line) ∧
      (∃ first older, verdicts = first :: older ∧ first.decision = .newest ∧
        ∀ v ∈ older,
          (∃ t, IsEarliest t (releasesOn v.line (kept arrivals))) ∧
          (∃ t, IsLatest t (releasesOn v.line (kept arrivals))) ∧
          ∀ earliest latest, IsEarliest earliest (releasesOn v.line (kept arrivals)) →
            IsLatest latest (releasesOn v.line (kept arrivals)) →
            v.decision =
              if now - earliest < p.maxAge then .withinMaxAge
              else if now - latest < p.patchWindow then .recentPatch
              else .endOfLife) ∧
      p.supported now (Catalog.ofArrivals arrivals) = .ok (reported verdicts) ∧
      List.Forall₂ (fun v release => v.StandsFor (releasesOn v.line (kept arrivals)) release)
        (verdicts.filter fun v => v.decision.isSupported) (reported verdicts) := by
  have held := Catalog.holds_ofArrivals arrivals
  refine ⟨?_, held.isEmpty_iff, ?_⟩
  · simp only [evaluate_eq_error_iff, exists_const_iff, and_iff_right_iff_imp]
    exact fun _ => ⟨.noReleases⟩
  intro verdicts evaluated
  have lines := map_line_of_evaluate evaluated
  have groups := map_group_of_evaluate evaluated
  have releases : ∀ v ∈ verdicts, v.group.releases = releasesOn v.line (kept arrivals) := by
    intro v hv
    exact held.releases_eq (groups ▸ List.mem_map_of_mem hv)
  refine ⟨?_, ?_, ?_, ?_, ?_⟩
  · rw [lines]
    exact Catalog.minorLines_descend _
  · intro line
    rw [lines]
    exact held.mem_minorLines_iff
  · obtain ⟨newest, older, -, rfl⟩ := evaluate_eq_ok_iff.1 evaluated
    refine ⟨_, _, rfl, rfl, ?_⟩
    intro v hv
    have whole := releases v (List.mem_cons_of_mem _ hv)
    obtain ⟨g, -, rfl⟩ := List.mem_map.1 hv
    rw [← whole]
    exact ⟨⟨_, g.isEarliest_oldest⟩, ⟨_, g.isLatest_latest⟩, fun earliest latest first last =>
      p.decideOlder_eq now first last⟩
  · rw [supported, evaluated]
    rfl
  · refine (forall₂_with_mem (forall₂_reported verdicts)).imp ?_
    rintro v release ⟨hv, standing⟩
    rw [← releases v (List.mem_of_mem_filter hv)]
    exact Verdict.standsFor_of_release? standing

end Policy

end ReleaseSupport
