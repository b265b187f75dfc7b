import ReleaseSupport.Proofs.Catalog.Publication
import ReleaseSupport.Proofs.Policy.Expiry

/-!
Support after the publication of a release. Nothing changes for any line but the one of the release
and the newest one. A release on the newest line or an older one ends no support and leaves the
newest line as it is; a release on a newer line is reported itself, and the line that was the newest
has to count on its windows.
-/

set_option autoImplicit false
set_option relaxedAutoImplicit false

namespace ReleaseSupport

open ReleaseSupport.Calendar
open ReleaseSupport.Text

theorem Group.oldest_of_releases_cons {g g' : Group} {release : Release}
    (front : g'.releases = release :: g.releases) : g'.oldest = g.oldest := by
  have last := g'.getLast?_releases
  rw [front, releases, List.getLast?_cons_cons, ← releases, g.getLast?_releases] at last
  exact (Option.some.inj last).symm

theorem Group.oldest_of_releases_singleton {g : Group} {release : Release}
    (alone : g.releases = [release]) : g.oldest = release := by
  have last := g.getLast?_releases
  rw [alone] at last
  exact (Option.some.inj last).symm

theorem Catalog.head?_minorLines_ne {c : Catalog} {newest l : MinorLine}
    (head : c.minorLines.head? = some newest) (other : l ≠ newest) :
    c.minorLines.head? ≠ some l := by
  rw [head]
  exact fun same => other (Option.some.inj same).symm

namespace Policy

variable {p : Policy} {now : Instant} {c c' : Catalog} {line l newest : MinorLine}
  {release : Release}

theorem verdict?_eq_none (absent : l ∉ c.minorLines) : p.verdict? now c l = none := by
  unfold verdict?
  cases evaluated : p.evaluate now c with
  | error e => rfl
  | ok verdicts =>
    show verdicts.find? _ = none
    rw [List.find?_eq_none]
    intro v hv own
    apply absent
    rw [← map_line_of_evaluate evaluated, ← of_decide_eq_true own]
    exact List.mem_map_of_mem hv

section Publishes

variable (published : c.Publishes c' line release) (head : c.minorLines.head? = some newest)

include published head

/-- A line that is neither the one of the release nor the newest keeps its verdict. -/
theorem verdict?_of_other (other : l ≠ line) (older : l ≠ newest) :
    p.verdict? now c' l = p.verdict? now c l := by
  by_cases known : l ∈ c.minorLines
  · obtain ⟨g, hg, rfl⟩ := List.mem_map.1 known
    have hg' : g ∈ c'.groups := published.mem_groups_of_ne hg other
    have older' : c'.minorLines.head? ≠ some g.line := by
      apply Catalog.head?_minorLines_ne (published.head?_minorLines head)
      split
      · exact other
      · exact older
    rw [verdict?_line_of_mem hg, verdict?_line_of_mem hg', judge_of_older older',
      judge_of_older (Catalog.head?_minorLines_ne head older)]
  · have absent : l ∉ c'.minorLines := by
      intro known'
      rcases published.mem_minorLines_iff.1 known' with own | before
      · exact other own
      · exact known before
    rw [verdict?_eq_none known, verdict?_eq_none absent]

/-- Unless the release belongs to a newer line, the newest line is reported as it was. -/
theorem newest_of_not_lt (p : Policy) (now : Instant) (notNewer : ¬ newest < line) :
    ∃ v v', p.verdict? now c newest = some v ∧ p.verdict? now c' newest = some v' ∧
      v.decision = .newest ∧ v'.decision = .newest ∧ v'.release? = v.release? := by
  obtain ⟨g, hg, rfl⟩ := List.mem_map.1 (List.mem_of_mem_head? head)
  have head' := published.head?_minorLines head
  rw [if_neg notNewer] at head'
  -- Where the release comes to the newest line, it comes to the front, and the last one stays.
  obtain ⟨g', hg', same, oldest⟩ : ∃ g' ∈ c'.groups, g'.line = g.line ∧ g'.oldest = g.oldest := by
    by_cases own : g.line = line
    · obtain ⟨g', hg', same, front⟩ := published.exists_group
      rw [← own, Catalog.releasesOf_line_of_mem hg] at front
      exact ⟨g', hg', same.trans own.symm, Group.oldest_of_releases_cons front⟩
    · exact ⟨g, published.mem_groups_of_ne hg own, rfl, rfl⟩
  have verdict' : p.verdict? now c' g.line = some ⟨g', .newest⟩ := by
    rw [← same, verdict?_line_of_mem hg', judge_of_newest (same ▸ head')]
  have verdict : p.verdict? now c g.line = some ⟨g, .newest⟩ := by
    rw [verdict?_line_of_mem hg, judge_of_newest head]
  exact ⟨_, _, verdict, verdict', rfl, rfl, congrArg some oldest⟩

/-- Unless the release belongs to a newer line, no line loses its support. -/
theorem isSupported_of_publishes {days window : Int} (daily : ofDays? days window = some p)
    (whole : ∀ g ∈ c.groups, g.IsWhole) (whole' : ∀ g ∈ c'.groups, g.IsWhole)
    (notNewer : ¬ newest < line) {v : Verdict} (before : p.verdict? now c l = some v)
    (supported : v.decision.isSupported = true) :
    ∃ v', p.verdict? now c' l = some v' ∧ v'.decision.isSupported = true := by
  by_cases first : l = newest
  · obtain ⟨-, v', -, after, -, decision, -⟩ := newest_of_not_lt published head p now notNewer
    exact ⟨v', first ▸ after, by rw [decision]; rfl⟩
  by_cases own : l = line
  · -- The group of the line has the same last release, and a later one at its front.
    obtain ⟨g', hg', same, front⟩ := published.exists_group
    have known : l ∈ c.minorLines := by
      by_contra absent
      rw [verdict?_eq_none absent] at before
      cases before
    obtain ⟨g, hg, rfl⟩ := List.mem_map.1 known
    rw [← own, Catalog.releasesOf_line_of_mem hg] at front
    have head' := published.head?_minorLines head
    rw [if_neg notNewer] at head'
    have notNewest' : c'.minorLines.head? ≠ some g'.line := by
      rw [same, ← own]
      exact Catalog.head?_minorLines_ne head' first
    rw [verdict?_line_of_mem hg, judge_of_older (Catalog.head?_minorLines_ne head first)] at before
    cases before
    have later : g.latest.publishedAt ≤ g'.latest.publishedAt := by
      apply g'.isLatest_latest.2
      rw [front]
      exact List.mem_cons_of_mem _ List.mem_cons_self
    have supported' : (p.decideOlder now g').isSupported = true := by
      apply isSupported_decideOlder_of_le daily daily ⟨Int.le_refl _, Int.le_refl _⟩
        (Int.le_refl _) (whole g hg) (whole' g' hg') _ later supported
      rw [Group.oldest_of_releases_cons front]
      exact Int.le_refl _
    refine ⟨⟨g', p.decideOlder now g'⟩, ?_, supported'⟩
    rw [own, ← same, verdict?_line_of_mem hg', judge_of_older notNewest']
  · rw [verdict?_of_other published head own first]
    exact ⟨v, before, supported⟩

/-- A release on a newer line is reported itself. -/
theorem newest_of_lt (p : Policy) (now : Instant) (newer : newest < line) :
    ∃ v', p.verdict? now c' line = some v' ∧ v'.decision = .newest ∧
      v'.release? = some release := by
  obtain ⟨g', hg', same, front⟩ := published.exists_group
  have head' := published.head?_minorLines head
  rw [if_pos newer, ← same] at head'
  have opened : c.releasesOf line = [] := by
    by_contra known
    exact (Catalog.head?_minorLines_eq_some_iff.1 head).2 line (Catalog.mem_minorLines_iff.2 known)
      newer
  rw [opened] at front
  refine ⟨⟨g', .newest⟩, ?_, rfl, congrArg some (Group.oldest_of_releases_singleton front)⟩
  rw [← same, verdict?_line_of_mem hg', judge_of_newest head']

/-- After a release on a newer line, the line that was the newest is judged by its releases. -/
theorem older_of_lt (p : Policy) (now : Instant) (newer : newest < line) :
    ∃ v' latest oldest, p.verdict? now c' newest = some v' ∧
      (c.releasesOf newest).head? = some latest ∧ (c.releasesOf newest).getLast? = some oldest ∧
      (v'.decision.isSupported = true ↔
        now - oldest.publishedAt < p.maxAge ∨ now - latest.publishedAt < p.patchWindow) ∧
      (v'.decision.isSupported = true → v'.release? = some latest) := by
  obtain ⟨g, hg, rfl⟩ := List.mem_map.1 (List.mem_of_mem_head? head)
  have other : g.line ≠ line := MinorLine.ne_of_lt newer
  have hg' : g ∈ c'.groups := published.mem_groups_of_ne hg other
  have head' := published.head?_minorLines head
  rw [if_pos newer] at head'
  rw [Catalog.releasesOf_line_of_mem hg, verdict?_line_of_mem hg',
    judge_of_older (Catalog.head?_minorLines_ne head' other)]
  refine ⟨_, g.latest, g.oldest, rfl, rfl, g.getLast?_releases, isSupported_decideOlder_iff, ?_⟩
  intro supported
  rw [release?_decideOlder, if_pos supported]

end Publishes

/-- When a release is published, that is, a versioned line comes before a listing with a catalog
that is not empty and both together have one, no other line than its own and the newest changes. On
the newest line or an older one it ends no support, and the newest line is reported as it was. On a
newer line it is reported itself, and the line that was the newest is supported if one of its
windows is open, by the release that it lists first. -/
theorem verdicts_of_published {listing line : String} {v : VersionedLine} {c c' : Catalog}
    {newest : MinorLine} {p : Policy} {days window : Int}
    (grouped : Catalog.ofListing listing = .ok c) (head : c.minorLines.head? = some newest)
    (oneLine : '\n' ∉ line.toList)
    (versioned : VersionedLine.of? (dropReturn line.toList) = some v)
    (regrouped : Catalog.ofListing (line ++ "\n" ++ listing) = .ok c')
    (daily : ofDays? days window = some p) (now : Instant) :
    (∀ l, l ≠ v.line → l ≠ newest → p.verdict? now c' l = p.verdict? now c l) ∧
    (¬ newest < v.line →
      (∀ l u, p.verdict? now c l = some u → u.decision.isSupported = true →
        ∃ u', p.verdict? now c' l = some u' ∧ u'.decision.isSupported = true) ∧
      ∃ u u', p.verdict? now c newest = some u ∧ p.verdict? now c' newest = some u' ∧
        u.decision = .newest ∧ u'.decision = .newest ∧ u'.release? = u.release?) ∧
    (newest < v.line →
      (∃ release u', v.release? = some release ∧ p.verdict? now c' v.line = some u' ∧
        u'.decision = .newest ∧ u'.release? = some release) ∧
      ∃ u' latest oldest, p.verdict? now c' newest = some u' ∧
        (c.releasesOf newest).head? = some latest ∧ (c.releasesOf newest).getLast? = some oldest ∧
        (u'.decision.isSupported = true ↔
          now - oldest.publishedAt < p.maxAge ∨ now - latest.publishedAt < p.patchWindow) ∧
        (u'.decision.isSupported = true → u'.release? = some latest)) := by
  obtain ⟨release, listed, published⟩ :=
    Catalog.exists_publishes grouped oneLine versioned regrouped
  have whole := fun g => Catalog.isWhole_of_ofListing (g := g) grouped
  have whole' := fun g => Catalog.isWhole_of_ofListing (g := g) regrouped
  refine ⟨?_, ?_, ?_⟩
  · intro l other older
    exact verdict?_of_other published head other older
  · intro notNewer
    refine ⟨?_, newest_of_not_lt published head p now notNewer⟩
    intro l u before supported
    exact isSupported_of_publishes published head daily whole whole' notNewer before supported
  · intro newer
    obtain ⟨u', verdict, decision, reported⟩ := newest_of_lt published head p now newer
    exact ⟨⟨release, u', listed, verdict, decision, reported⟩,
      older_of_lt published head p now newer⟩

/-- The line that was the newest is old, but for its latest release, which is reported from now on.
-/
theorem verdicts_of_published_newer_line :
    let listing := "v1.1.1\t\t\t2017-01-01T00:00:00Z\nv1.1.0\t\t\t2015-01-01T00:00:00Z\n"
    let line := "v1.2.0\tLatest\tv1.2.0\t2017-02-01T00:00:00Z\r"
    let now : Instant := { date := { year := 2017, month := 3, day := 1 }, second := 0, nanos := 0 }
    ∃ c c' v p release u u', Catalog.ofListing listing = .ok c ∧
      c.minorLines.head? = some ⟨1, 1⟩ ∧ '\n' ∉ line.toList ∧
      VersionedLine.of? (dropReturn line.toList) = some v ∧
      Catalog.ofListing (line ++ "\n" ++ listing) = .ok c' ∧ ofDays? 365 90 = some p ∧
      ⟨1, 1⟩ < v.line ∧ v.release? = some release ∧ p.verdict? now c' v.line = some u ∧
      u.decision = .newest ∧ u.release? = some release ∧ p.verdict? now c' ⟨1, 1⟩ = some u' ∧
      u'.decision = .recentPatch ∧ u'.release?.map Release.tag = some "v1.1.1" := by
  intro listing line now
  let p : Policy := ⟨⟨31536000000000000⟩, ⟨7776000000000000⟩⟩
  have daily : ofDays? 365 90 = some p := rfl
  have oneLine : '\n' ∉ line.toList := by decide
  have shown : (Catalog.ofListing listing).toOption.map (fun c => c.minorLines) =
      some [⟨1, 1⟩] := by decide +kernel
  have named : (VersionedLine.of? (dropReturn line.toList)).map VersionedLine.line =
      some ⟨1, 2⟩ := by decide +kernel
  have shown' : (Catalog.ofListing (line ++ "\n" ++ listing)).toOption.map (fun c =>
      (p.verdict? now c ⟨1, 1⟩).map fun u => (u.decision, u.release?.map Release.tag)) =
      some (some (.recentPatch, some "v1.1.1")) := by
    decide +kernel
  obtain ⟨c, grouped, lines⟩ := map_toOption_eq_some_iff.1 shown
  obtain ⟨c', regrouped, decided⟩ := map_toOption_eq_some_iff.1 shown'
  obtain ⟨v, versioned, own⟩ := Option.map_eq_some_iff.1 named
  have head : c.minorLines.head? = some ⟨1, 1⟩ := by rw [lines, List.head?_cons]
  have newer : (⟨1, 1⟩ : MinorLine) < v.line := by
    rw [own]
    decide
  obtain ⟨-, -, after⟩ :=
    verdicts_of_published grouped head oneLine versioned regrouped daily now
  obtain ⟨⟨release, u, listed, verdict, decision, reported⟩, u', -, -, verdict', -⟩ := after newer
  rw [verdict'] at decided
  have both : (u'.decision, u'.release?.map Release.tag) = (.recentPatch, some "v1.1.1") :=
    Option.some.inj decided
  obtain ⟨decision', tag⟩ := Prod.mk.inj both
  exact ⟨c, c', v, p, release, u, u', grouped, head, oneLine, versioned, regrouped, daily, newer,
    listed, verdict, decision, reported, verdict', decision', tag⟩

end Policy

end ReleaseSupport
