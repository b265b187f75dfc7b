import ReleaseSupport.Proofs.Calendar.WholeDays
import ReleaseSupport.Proofs.Catalog.VersionedLines
import ReleaseSupport.Proofs.Policy.ByLine

/-!
Support ends for good. With an unchanged listing, a minor line that is not supported is not
supported at any later time or with any shorter windows either, and the release that is reported for
a line stays the same for as long as there is one.
-/

set_option autoImplicit false
set_option relaxedAutoImplicit false

namespace ReleaseSupport

open ReleaseSupport.Calendar

/-- Whether all releases of a group were published at the beginning of a second. -/
def Group.IsWhole (g : Group) : Prop := ∀ release ∈ g.releases, release.publishedAt.IsWhole

namespace Group

theorem IsWhole.oldest {g : Group} (h : g.IsWhole) : g.oldest.publishedAt.IsWhole :=
  h _ (List.mem_of_getLast? g.getLast?_releases)

theorem IsWhole.latest {g : Group} (h : g.IsWhole) : g.latest.publishedAt.IsWhole :=
  h _ List.mem_cons_self

end Group

/-- The releases of a listing have timestamps, which name the beginning of a second. -/
theorem Catalog.isWhole_of_ofListing {listing : String} {c : Catalog}
    (h : ofListing listing = .ok c) {g : Group} (hg : g ∈ c.groups) : g.IsWhole := by
  obtain ⟨-, held⟩ := holds_of_ofListing h
  intro release hr
  rw [held.releases_eq hg] at hr
  obtain ⟨a, ha, rfl⟩ := List.mem_map.1 hr
  obtain ⟨v, -, arrived⟩ := List.mem_filterMap.1 (List.mem_of_mem_filter ha)
  obtain ⟨-, -, timed⟩ := VersionedLine.arrival?_eq_some_iff.1 arrived
  obtain ⟨field, -, read⟩ := VersionedLine.publishedAt?_eq_some_iff.1 timed
  exact Timestamp.isWhole_of_ofText read

namespace Policy

variable {p p' : Policy} {now now' : Instant} {g g' : Group} {days days' window window' : Int}

theorem isSupported_decideOlder_iff :
    (p.decideOlder now g).isSupported = true ↔
      now - g.oldest.publishedAt < p.maxAge ∨ now - g.latest.publishedAt < p.patchWindow := by
  unfold decideOlder
  split
  case isTrue young => simp [young, Decision.isSupported]
  case isFalse old =>
    split
    case isTrue recent => simp [recent, Decision.isSupported]
    case isFalse stale => simp [old, stale, Decision.isSupported]

theorem windows_of_ofDays? (h : ofDays? days window = some p) :
    Elapsed.ofDays? days = some p.maxAge ∧ Elapsed.ofDays? window = some p.patchWindow := by
  obtain ⟨age, hage, h⟩ := Option.bind_eq_some_iff.1 h
  obtain ⟨patch, hpatch, h⟩ := Option.bind_eq_some_iff.1 h
  cases h
  exact ⟨hage, hpatch⟩

/-- A line that is supported stays so with longer windows, at an earlier time, and if its releases
were published later. -/
theorem isSupported_decideOlder_of_le (daily : ofDays? days window = some p)
    (daily' : ofDays? days' window' = some p') (longer : days ≤ days' ∧ window ≤ window')
    (earlier : now' ≤ now) (whole : g.IsWhole) (whole' : g'.IsWhole)
    (oldest : g.oldest.publishedAt ≤ g'.oldest.publishedAt)
    (latest : g.latest.publishedAt ≤ g'.latest.publishedAt)
    (supported : (p.decideOlder now g).isSupported = true) :
    (p'.decideOlder now' g').isSupported = true := by
  obtain ⟨age, patch⟩ := windows_of_ofDays? daily
  obtain ⟨age', patch'⟩ := windows_of_ofDays? daily'
  refine isSupported_decideOlder_iff.2 ((isSupported_decideOlder_iff.1 supported).imp ?_ ?_)
  · exact Instant.sub_lt_of_sub_lt whole.oldest whole'.oldest age age' oldest earlier longer.1
  · exact Instant.sub_lt_of_sub_lt whole.latest whole'.latest patch patch' latest earlier longer.2

end Policy

namespace Verdict

/-- Whether a verdict on a line supports it only if another one does, and with the same release. -/
structure Weakens (v w : Verdict) : Prop where
  line_eq : w.line = v.line
  isSupported : w.decision.isSupported = true → v.decision.isSupported = true
  release? : ∀ release, w.release? = some release → v.release? = some release

end Verdict

namespace Policy

variable {p₁ p₂ : Policy} {now₁ now₂ : Instant} {days₁ days₂ window₁ window₂ : Int}

theorem weakens_judge (daily₁ : ofDays? days₁ window₁ = some p₁)
    (daily₂ : ofDays? days₂ window₂ = some p₂) (shorter : days₂ ≤ days₁ ∧ window₂ ≤ window₁)
    (later : now₁ ≤ now₂) (c : Catalog) {g : Group} (whole : g.IsWhole) :
    Verdict.Weakens ⟨g, p₁.judge now₁ c g⟩ ⟨g, p₂.judge now₂ c g⟩ := by
  by_cases newest : c.minorLines.head? = some g.line
  · rw [judge_of_newest newest, judge_of_newest newest]
    exact ⟨rfl, id, fun _ => id⟩
  · rw [judge_of_older newest, judge_of_older newest]
    have supported : (p₂.decideOlder now₂ g).isSupported = true →
        (p₁.decideOlder now₁ g).isSupported = true :=
      isSupported_decideOlder_of_le daily₂ daily₁ shorter later whole whole (Int.le_refl _)
        (Int.le_refl _)
    refine ⟨rfl, supported, ?_⟩
    intro release h
    rw [release?_decideOlder, Option.ite_none_right_eq_some] at h ⊢
    exact ⟨supported h.1, h.2⟩

/-- With an unchanged listing, support only ends: at a later time and with shorter windows the
supported releases are some of those before, in the same order. No line is supported that was not,
and no other release is reported for a line. -/
theorem supported_sublist {listing : String} {c : Catalog}
    (grouped : Catalog.ofListing listing = .ok c) (listed : 0 < c.releaseCount)
    (daily₁ : ofDays? days₁ window₁ = some p₁) (daily₂ : ofDays? days₂ window₂ = some p₂)
    (days_le : days₂ ≤ days₁) (window_le : window₂ ≤ window₁) (later : now₁ ≤ now₂) :
    ∃ verdicts₁ verdicts₂,
      p₁.evaluate now₁ c = .ok verdicts₁ ∧ p₂.evaluate now₂ c = .ok verdicts₂ ∧
      List.Forall₂ Verdict.Weakens verdicts₁ verdicts₂ ∧
      ∃ releases₁ releases₂,
        p₁.supported now₁ c = .ok releases₁ ∧ p₂.supported now₂ c = .ok releases₂ ∧
        releases₂.Sublist releases₁ := by
  have groups : c.groups ≠ [] := by
    intro none
    rw [Catalog.releaseCount, none] at listed
    exact absurd listed (Nat.lt_irrefl 0)
  have evaluated₁ := evaluate_eq_map p₁ now₁ groups
  have evaluated₂ := evaluate_eq_map p₂ now₂ groups
  have weakens : List.Forall₂ Verdict.Weakens (c.groups.map fun g => ⟨g, p₁.judge now₁ c g⟩)
      (c.groups.map fun g => ⟨g, p₂.judge now₂ c g⟩) := by
    rw [List.forall₂_map_left_iff, List.forall₂_map_right_iff, List.forall₂_same]
    intro g hg
    exact weakens_judge daily₁ daily₂ ⟨days_le, window_le⟩ later c
      (Catalog.isWhole_of_ofListing grouped hg)
  refine ⟨_, _, evaluated₁, evaluated₂, weakens, _, _, supported_eq_ok_iff.2 ⟨_, evaluated₁, rfl⟩,
    supported_eq_ok_iff.2 ⟨_, evaluated₂, rfl⟩, ?_⟩
  exact filterMap_sublist_of_forall₂ (weakens.imp fun _ _ h => h.release?)

/-- A window of two days from a midnight closes with the leap second before a midnight. -/
theorem supported_sublist_leap_second :
    let listing := "v1.1.0\t\t\t2016-12-31T00:00:00Z\nv1.0.0\t\t\t2016-12-30T00:00:00Z\n"
    let newYearsEve : Date := { year := 2016, month := 12, day := 31 }
    let before : Instant := { date := newYearsEve, second := 86399, nanos := 0 }
    let within : Instant := { date := newYearsEve, second := 86399, nanos := 1000000000 }
    ∃ c p₁ p₂ releases₁ releases₂, Catalog.ofListing listing = .ok c ∧ 0 < c.releaseCount ∧
      ofDays? 2 0 = some p₁ ∧ ofDays? 2 (-1) = some p₂ ∧ before ≤ within ∧
      p₁.supported before c = .ok releases₁ ∧ p₂.supported within c = .ok releases₂ ∧
      releases₂.Sublist releases₁ ∧ releases₁.map Release.tag = ["v1.1.0", "v1.0.0"] ∧
      releases₂.map Release.tag = ["v1.1.0"] := by
  intro listing newYearsEve before within
  let p₁ : Policy := ⟨⟨172800000000000⟩, ⟨0⟩⟩
  let p₂ : Policy := ⟨⟨172800000000000⟩, ⟨-86400000000000⟩⟩
  have shown : ((Catalog.ofListing listing).toOption.map fun c => (decide (0 < c.releaseCount),
      (p₁.supported before c).toOption.map (List.map Release.tag),
      (p₂.supported within c).toOption.map (List.map Release.tag))) =
      some (true, some ["v1.1.0", "v1.0.0"], some ["v1.1.0"]) := by decide +kernel
  obtain ⟨c, grouped, same⟩ := map_toOption_eq_some_iff.1 shown
  rw [Prod.mk.injEq, Prod.mk.injEq, decide_eq_true_eq] at same
  obtain ⟨listed, tags₁, tags₂⟩ := same
  have daily₁ : ofDays? 2 0 = some p₁ := rfl
  have daily₂ : ofDays? 2 (-1) = some p₂ := rfl
  have later : before ≤ within := by decide
  obtain ⟨-, -, -, -, -, releases₁, releases₂, h₁, h₂, sublist⟩ :=
    supported_sublist grouped listed daily₁ daily₂ (by decide) (by decide) later
  rw [h₁] at tags₁
  rw [h₂] at tags₂
  exact ⟨c, p₁, p₂, releases₁, releases₂, grouped, listed, daily₁, daily₂, later, h₁, h₂, sublist,
    Option.some.inj tags₁, Option.some.inj tags₂⟩

end Policy

end ReleaseSupport
