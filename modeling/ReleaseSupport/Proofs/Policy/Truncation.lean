import ReleaseSupport.Proofs.Catalog.Truncation
import ReleaseSupport.Proofs.Policy.ByLine
import ReleaseSupport.Proofs.Policy.Expiry

/-!
Support under a listing that ends early. A minor line that is listed still and was supported is
supported still, for its oldest release can only have become younger and its latest is the same.
-/

set_option autoImplicit false
set_option relaxedAutoImplicit false

namespace ReleaseSupport

open ReleaseSupport.Calendar
open ReleaseSupport.Text

namespace Catalog.Begins

variable {c' c : Catalog}

/-- The newest line is the newest also among the first lines of a listing, if it is there. -/
theorem head?_minorLines (h : c'.Begins c) {line : MinorLine} (known : line ∈ c'.minorLines)
    (newest : c.minorLines.head? = some line) : c'.minorLines.head? = some line := by
  obtain ⟨-, greatest⟩ := head?_minorLines_eq_some_iff.1 newest
  exact head?_minorLines_eq_some_iff.2 ⟨known, fun l hl => greatest l (h.subset hl)⟩

theorem releases_prefix (h : c'.Begins c) {g' g : Group} (hg' : g' ∈ c'.groups)
    (hg : g ∈ c.groups) (same : g'.line = g.line) : g'.releases <+: g.releases := by
  have first := h g.line
  rwa [releasesOf_line_of_mem hg, ← same, releasesOf_line_of_mem hg'] at first

end Catalog.Begins

theorem Group.latest_eq_of_prefix {g' g : Group} (first : g'.releases <+: g.releases) :
    g'.latest = g.latest :=
  (List.cons_prefix_cons.1 first).1

namespace Policy

variable {p : Policy} {now : Instant}

/-- The releases that stand first in a group are supported by themselves if the whole group is. -/
theorem isSupported_decideOlder_of_prefix {days window : Int} (daily : ofDays? days window = some p)
    {g' g : Group} (whole' : g'.IsWhole) (whole : g.IsWhole) (first : g'.releases <+: g.releases)
    (supported : (p.decideOlder now g).isSupported = true) :
    (p.decideOlder now g').isSupported = true := by
  have latest : g'.latest = g.latest := Group.latest_eq_of_prefix first
  have oldest : g.oldest.publishedAt ≤ g'.oldest.publishedAt :=
    g.oldest_le (first.subset (List.mem_of_getLast? g'.getLast?_releases))
  exact isSupported_decideOlder_of_le daily daily ⟨Int.le_refl _, Int.le_refl _⟩ (Int.le_refl _)
    whole whole' oldest (latest ▸ Int.le_refl _) supported

/-- A line of a catalog that begins another one is supported if it is in the other one; unless it is
now the newest, the same release is reported for it. -/
theorem exists_verdicts_of_begins {days window : Int} (daily : ofDays? days window = some p)
    {c' c : Catalog} (begins : c'.Begins c) (whole' : ∀ g ∈ c'.groups, g.IsWhole)
    (whole : ∀ g ∈ c.groups, g.IsWhole) {line : MinorLine} (known : line ∈ c'.minorLines) :
    ∃ v' v, p.verdict? now c' line = some v' ∧ p.verdict? now c line = some v ∧
      (v.decision.isSupported = true → v'.decision.isSupported = true ∧
        (c'.minorLines.head? ≠ some line → v'.release? = v.release?)) := by
  obtain ⟨g', hg', rfl⟩ := List.mem_map.1 known
  obtain ⟨g, hg, same⟩ := List.mem_map.1 (begins.subset known)
  refine ⟨_, _, verdict?_line_of_mem hg', same ▸ verdict?_line_of_mem hg, ?_⟩
  intro supported
  by_cases newest : c'.minorLines.head? = some g'.line
  · have judged : p.judge now c' g' = .newest := judge_of_newest newest
    exact ⟨by rw [judged]; rfl, fun differs => absurd newest differs⟩
  · have notNewest : c.minorLines.head? ≠ some g.line := fun first =>
      newest (begins.head?_minorLines known (same ▸ first))
    rw [judge_of_older notNewest] at supported ⊢
    rw [judge_of_older newest]
    have first : g'.releases <+: g.releases := begins.releases_prefix hg' hg same.symm
    have supported' : (p.decideOlder now g').isSupported = true :=
      isSupported_decideOlder_of_prefix daily (whole' g' hg') (whole g hg) first supported
    refine ⟨supported', fun _ => ?_⟩
    rw [release?_decideOlder, release?_decideOlder, if_pos supported', if_pos supported,
      Group.latest_eq_of_prefix first]

/-- However early a listing ends, the lines that are left have a catalog if all had one, and no
minor line that is listed still loses its support. Unless it is now the newest, the release reported
for it stays the same. -/
theorem supported_of_firstLines {listing : String} {c : Catalog}
    (grouped : Catalog.ofListing listing = .ok c) (n : Nat) :
    (firstLines n listing.toList <+: listing.toList ∧
      lines (firstLines n listing.toList) = (lines listing.toList).take n) ∧
    ∀ shorter : String, lines shorter.toList = (lines listing.toList).take n →
      ∃ c', Catalog.ofListing shorter = .ok c' ∧
        ∀ days window p now, ofDays? days window = some p → ∀ line ∈ c'.minorLines,
          ∃ v' v, p.verdict? now c' line = some v' ∧ p.verdict? now c line = some v ∧
            (v.decision.isSupported = true → v'.decision.isSupported = true ∧
              (c'.minorLines.head? ≠ some line → v'.release? = v.release?)) := by
  have start : firstLines n listing.toList <+: listing.toList := firstLines_prefix n _
  refine ⟨⟨start, lines_firstLines n _⟩, ?_⟩
  intro shorter first
  obtain ⟨c', grouped', begins⟩ := Catalog.exists_begins grouped first
  refine ⟨c', grouped', ?_⟩
  intro days window p now daily line known
  exact exists_verdicts_of_begins daily begins (fun _ => Catalog.isWhole_of_ofListing grouped')
    (fun _ => Catalog.isWhole_of_ofListing grouped) known

/-- A line that had only its recent patch release to count on is within its maximal age once its
first release is cut off. -/
theorem supported_of_first_two_lines :
    let listing := "v1.1.0\t\t\t2017-02-01T00:00:00Z\n" ++
      "v1.0.1\t\t\t2016-12-31T23:59:60Z\nv1.0.0\t\t\t2015-01-01T00:00:00Z\n"
    let now : Instant := { date := { year := 2017, month := 3, day := 1 }, second := 0, nanos := 0 }
    ∃ c c' p v v', Catalog.ofListing listing = .ok c ∧
      Catalog.ofListing (String.ofList (firstLines 2 listing.toList)) = .ok c' ∧
      ofDays? 365 90 = some p ∧ ⟨1, 0⟩ ∈ c'.minorLines ∧
      p.verdict? now c ⟨1, 0⟩ = some v ∧ v.decision = .recentPatch ∧
      p.verdict? now c' ⟨1, 0⟩ = some v' ∧ v'.decision = .withinMaxAge ∧
      v'.release? = v.release? := by
  intro listing now
  let shorter := String.ofList (firstLines 2 listing.toList)
  let p : Policy := ⟨⟨31536000000000000⟩, ⟨7776000000000000⟩⟩
  have daily : ofDays? 365 90 = some p := rfl
  have shown : ((Catalog.ofListing listing).toOption.map fun c =>
      (p.verdict? now c ⟨1, 0⟩).map Verdict.decision) = some (some .recentPatch) := by
    decide +kernel
  have shown' : ((Catalog.ofListing shorter).toOption.map fun c =>
      (c.minorLines, (p.verdict? now c ⟨1, 0⟩).map Verdict.decision)) =
      some ([⟨1, 1⟩, ⟨1, 0⟩], some .withinMaxAge) := by decide +kernel
  obtain ⟨c, grouped, decided⟩ := map_toOption_eq_some_iff.1 shown
  obtain ⟨⟨-, first⟩, rest⟩ := supported_of_firstLines grouped 2
  obtain ⟨c', grouped', verdicts⟩ := rest shorter (by rw [String.toList_ofList, first])
  rw [grouped'] at shown'
  obtain ⟨lines', decided'⟩ := Prod.mk.inj (Option.some.inj shown')
  have known : ⟨1, 0⟩ ∈ c'.minorLines := by
    rw [lines']
    decide
  obtain ⟨v', v, hv', hv, kept⟩ := verdicts 365 90 p now daily ⟨1, 0⟩ known
  rw [hv] at decided
  rw [hv'] at decided'
  have decision : v.decision = .recentPatch := Option.some.inj decided
  obtain ⟨-, same⟩ := kept (by rw [decision]; rfl)
  exact ⟨c, c', p, v, v', grouped, grouped', daily, known, hv, decision, hv',
    Option.some.inj decided', same (by rw [lines']; decide)⟩

end Policy

end ReleaseSupport
