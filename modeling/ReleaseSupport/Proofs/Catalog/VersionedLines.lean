import Mathlib.Data.List.Induction
import ReleaseSupport.Catalog.Listing
import ReleaseSupport.Proofs.Catalog.History
import ReleaseSupport.Proofs.Refusal
import ReleaseSupport.Proofs.Version.Tag

/-!
Listings line by line. Only the versioned lines of a listing matter, those whose first field names a
version. The listing has a catalog if each of them has a publish time that can be read and none is
newer than one before it on its minor line; otherwise the first line that breaks this is the error.
-/

set_option autoImplicit false
set_option relaxedAutoImplicit false

namespace ReleaseSupport

open ReleaseSupport.Calendar
open ReleaseSupport.Text

/-- A line of a listing whose first field names a version. -/
structure VersionedLine where
  text : List Char
  version : Version
  deriving DecidableEq, Repr

namespace VersionedLine

def firstField (line : List Char) : List Char := line.takeWhile (· ≠ '\t')

/-- A line with the version that its first field names, if it names one. -/
def of? (line : List Char) : Option VersionedLine :=
  (Version.ofChars? (firstField line)).map fun version => ⟨line, version⟩

/-- A blank line is not versioned: it lacks the `v` that a version begins with. -/
theorem of?_eq_none_of_blank {line : List Char} (blank : line.all isBlank = true) :
    of? line = none := by
  rw [of?, Option.map_eq_none_iff, Option.eq_none_iff_forall_ne_some]
  intro version named
  have inField : 'v' ∈ firstField line := List.mem_of_mem_head? (Version.head?_of_ofChars? named)
  have inLine : 'v' ∈ line := (List.takeWhile_sublist _).subset inField
  exact absurd (List.all_eq_true.1 blank 'v' inLine) (by decide)

def fields (v : VersionedLine) : List (List Char) := v.text.splitOn '\t'

def tag (v : VersionedLine) : String := String.ofList (firstField v.text)

def line (v : VersionedLine) : MinorLine := v.version.minorLine

/-- The publish time in the fourth field, if there is one that can be read. -/
def publishedAt? (v : VersionedLine) : Option Instant :=
  v.fields[3]?.bind fun field => (Timestamp.ofText (String.ofList field)).toOption

def release? (v : VersionedLine) : Option Release := v.publishedAt?.map fun t => ⟨v.tag, t⟩

def arrival? (v : VersionedLine) : Option Arrival := v.release?.map fun r => ⟨v.line, r⟩

/-- Whether a line has four fields and the fourth is a timestamp. -/
def Timed (v : VersionedLine) : Prop :=
  ∃ field t, v.fields[3]? = some field ∧ Timestamp.ofText (String.ofList field) = .ok t

/-- Lines that have publish times, none of them newer than one before it on the same minor line. -/
structure Acceptable (vs : List VersionedLine) : Prop where
  timed : ∀ v ∈ vs, v.Timed
  newestFirst : vs.Pairwise fun a b => a.line = b.line →
    ∀ s t, a.publishedAt? = some s → b.publishedAt? = some t → t ≤ s

/-- What is wrong with a line that comes after some others: it has no fourth field, or one that is
no timestamp, or it is newer than the last line of its minor line before it. -/
inductive Fault (before : List VersionedLine) (v : VersionedLine) : Catalog.ListingError → Prop
  | missing (short : v.fields.length < 4) :
    Fault before v (.missingTimestamp (String.ofList v.text))
  | unreadable {field : List Char} {error : Timestamp.Error} (fourth : v.fields[3]? = some field)
    (unread : Timestamp.ofText (String.ofList field) = .error error) :
    Fault before v (.unreadableTimestamp error)
  | outOfOrder {w : VersionedLine} {s t : Instant}
    (last : (before.filter fun u => u.line = v.line).getLast? = some w)
    (earlier : w.publishedAt? = some s) (later : v.publishedAt? = some t) (older : s < t) :
    Fault before v (.outOfOrder ⟨⟨v.tag, t⟩, ⟨w.tag, s⟩⟩)

theorem publishedAt?_eq_some_iff {v : VersionedLine} {t : Instant} :
    v.publishedAt? = some t ↔
      ∃ field, v.fields[3]? = some field ∧ Timestamp.ofText (String.ofList field) = .ok t := by
  simp only [publishedAt?, Option.bind_eq_some_iff, toOption_eq_some_iff]

theorem timed_iff {v : VersionedLine} : v.Timed ↔ ∃ t, v.publishedAt? = some t := by
  simp only [Timed, publishedAt?_eq_some_iff]
  exact exists_comm

theorem arrival?_eq_some_iff {v : VersionedLine} {a : Arrival} :
    v.arrival? = some a ↔
      a.line = v.line ∧ a.release.tag = v.tag ∧ v.publishedAt? = some a.release.publishedAt := by
  unfold arrival? release?
  cases v.publishedAt? with
  | none => simp
  | some t =>
    simp only [Option.map_some, Option.some.injEq, Arrival.ext_iff, Release.ext_iff]
    tauto

end VersionedLine

def versionedLines (listing : String) : List VersionedLine :=
  (lines listing.toList).filterMap VersionedLine.of?

def arrivalsOf (vs : List VersionedLine) : List Arrival := vs.filterMap VersionedLine.arrival?

namespace VersionedLine

theorem inOrder_arrivalsOf_iff {vs : List VersionedLine} :
    Arrival.InOrder (arrivalsOf vs) ↔
      vs.Pairwise fun a b => a.line = b.line →
        ∀ s t, a.publishedAt? = some s → b.publishedAt? = some t → t ≤ s := by
  unfold Arrival.InOrder arrivalsOf
  rw [List.pairwise_filterMap]
  refine ⟨fun h => h.imp ?_, fun h => h.imp ?_⟩
  · intro a b ordered same s t hs ht
    exact ordered ⟨a.line, ⟨a.tag, s⟩⟩ (arrival?_eq_some_iff.2 ⟨rfl, rfl, hs⟩)
      ⟨b.line, ⟨b.tag, t⟩⟩ (arrival?_eq_some_iff.2 ⟨rfl, rfl, ht⟩) same
  · intro a b ordered x hx y hy same
    obtain ⟨xline, -, hs⟩ := arrival?_eq_some_iff.1 hx
    obtain ⟨yline, -, ht⟩ := arrival?_eq_some_iff.1 hy
    exact ordered (xline.symm.trans (same.trans yline)) _ _ hs ht

theorem acceptable_iff {vs : List VersionedLine} :
    Acceptable vs ↔ (∀ v ∈ vs, v.Timed) ∧ Arrival.InOrder (arrivalsOf vs) := by
  rw [inOrder_arrivalsOf_iff]
  exact ⟨fun h => ⟨h.timed, h.newestFirst⟩, fun h => ⟨h.1, h.2⟩⟩

theorem arrivalsOf_cons {v : VersionedLine} (timed : v.Timed) (vs : List VersionedLine) :
    ∃ t, v.release? = some ⟨v.tag, t⟩ ∧
      arrivalsOf (v :: vs) = ⟨v.line, ⟨v.tag, t⟩⟩ :: arrivalsOf vs := by
  obtain ⟨t, ht⟩ := timed_iff.1 timed
  refine ⟨t, by rw [release?, ht, Option.map_some], ?_⟩
  exact List.filterMap_cons_some (arrival?_eq_some_iff.2 ⟨rfl, rfl, ht⟩)

theorem map_release? {vs : List VersionedLine} (timed : ∀ v ∈ vs, v.Timed) (line : MinorLine) :
    (vs.filter fun v => v.line = line).map release? =
      (Arrival.releasesOn line (arrivalsOf vs)).map some := by
  induction vs with
  | nil => rfl
  | cons v vs ih =>
    obtain ⟨t, listed, arrived⟩ := arrivalsOf_cons (timed v List.mem_cons_self) vs
    have rest := ih fun u hu => timed u (List.mem_cons_of_mem _ hu)
    by_cases same : v.line = line
    · simpa [Arrival.releasesOn, arrived, same, listed] using rest
    · simpa [Arrival.releasesOn, arrived, same] using rest

theorem map_line_arrivalsOf {vs : List VersionedLine} (timed : ∀ v ∈ vs, v.Timed) :
    (arrivalsOf vs).map Arrival.line = vs.map line := by
  induction vs with
  | nil => rfl
  | cons v vs ih =>
    obtain ⟨t, -, arrived⟩ := arrivalsOf_cons (timed v List.mem_cons_self) vs
    rw [arrived, List.map_cons, List.map_cons, ih fun u hu => timed u (List.mem_cons_of_mem _ hu)]

/-- The last line of a minor line lists the last release of its arrivals. -/
theorem getLast?_releasesOn {vs : List VersionedLine} (timed : ∀ v ∈ vs, v.Timed)
    (line : MinorLine) {release : Release} :
    (Arrival.releasesOn line (arrivalsOf vs)).getLast? = some release ↔
      ∃ w, (vs.filter fun v => v.line = line).getLast? = some w ∧ w.release? = some release := by
  have same := congrArg List.getLast? (map_release? timed line)
  rw [List.getLast?_map, List.getLast?_map] at same
  cases last : (vs.filter fun v => v.line = line).getLast? with
  | none =>
    rw [last, Option.map_none] at same
    simp [Option.map_eq_none_iff.1 same.symm]
  | some w =>
    rw [last, Option.map_some] at same
    cases found : (Arrival.releasesOn line (arrivalsOf vs)).getLast? with
    | none =>
      rw [found] at same
      cases same
    | some r =>
      rw [found, Option.map_some] at same
      simp [Option.some.inj same]

theorem Acceptable.of_sublist {us vs : List VersionedLine} (h : Acceptable vs)
    (sub : us.Sublist vs) : Acceptable us :=
  ⟨fun v hv => h.timed v (sub.subset hv), h.newestFirst.sublist sub⟩

/-- A line with a fault cannot follow the lines before it. -/
theorem Fault.not_acceptable {before : List VersionedLine} {v : VersionedLine}
    {e : Catalog.ListingError} (fault : Fault before v e) : ¬ Acceptable (before ++ [v]) := by
  intro accepted
  have own : v ∈ before ++ [v] := List.mem_append_right _ List.mem_cons_self
  cases fault with
  | missing short =>
    obtain ⟨field, t, fourth, -⟩ := accepted.timed v own
    obtain ⟨long, -⟩ := List.getElem?_eq_some_iff.1 fourth
    omega
  | unreadable fourth unread =>
    obtain ⟨field, t, fourth', read⟩ := accepted.timed v own
    obtain rfl := Option.some.inj (fourth.symm.trans fourth')
    rw [unread] at read
    cases read
  | outOfOrder last hs ht older =>
    obtain ⟨earlier, sameLine⟩ := List.mem_filter.1 (List.mem_of_getLast? last)
    have ordered := (List.pairwise_append.1 accepted.newestFirst).2.2 _ earlier v
      List.mem_cons_self (by simpa using sameLine) _ _ hs ht
    exact absurd older (Instant.not_lt.2 ordered)

end VersionedLine

namespace Catalog

open VersionedLine

theorem publishTime_eq_ok_iff {v : VersionedLine} {t : Instant} :
    publishTime v.text v.fields = .ok t ↔ v.publishedAt? = some t := by
  unfold publishTime publishedAt?
  cases v.fields[3]? with
  | none => simp
  | some field =>
    show (Timestamp.ofText (String.ofList field)).mapError _ = _ ↔ _
    rw [mapError_eq_ok_iff, Option.bind_some, toOption_eq_some_iff]

theorem publishTime_eq_error_iff {v : VersionedLine} {e : ListingError} :
    publishTime v.text v.fields = .error e ↔
      (v.fields.length < 4 ∧ e = .missingTimestamp (String.ofList v.text)) ∨
        ∃ field error, v.fields[3]? = some field ∧
          Timestamp.ofText (String.ofList field) = .error error ∧
          e = .unreadableTimestamp error := by
  unfold publishTime
  cases fourth : v.fields[3]? with
  | none =>
    have short := List.getElem?_eq_none_iff.1 fourth
    simp [Nat.lt_succ_of_le short, eq_comm]
  | some field =>
    obtain ⟨long, -⟩ := List.getElem?_eq_some_iff.1 fourth
    have notShort : ¬ v.fields.length < 4 := by omega
    show (Timestamp.ofText (String.ofList field)).mapError _ = _ ↔ _
    rw [mapError_eq_error_iff]
    simp [notShort, eq_comm]

def addVersioned (c : Catalog) (v : VersionedLine) : Except ListingError Catalog := do
  let publishedAt ← publishTime v.text v.fields
  (c.push v.line ⟨v.tag, publishedAt⟩).mapError .outOfOrder

theorem headD_splitOn (a : Char) (l : List Char) :
    (l.splitOn a).headD [] = l.takeWhile (· ≠ a) := by
  induction l with
  | nil => rfl
  | cons c l ih =>
    rw [List.splitOn_cons_eq_if_modifyHead]
    by_cases same : c = a
    · simp [same]
    · obtain ⟨first, rest, split⟩ := List.exists_cons_of_ne_nil (List.splitOn_ne_nil a l)
      rw [split] at ih
      simp only [List.headD_cons] at ih
      simp [same, split, ih]

theorem addLine_eq (c : Catalog) (line : List Char) :
    c.addLine line =
      match VersionedLine.of? line with
      | none => .ok c
      | some v => c.addVersioned v := by
  have first : (line.splitOn '\t').headD [] = firstField line := headD_splitOn _ _
  unfold addLine
  by_cases blank : line.all isBlank
  · rw [if_pos blank, of?_eq_none_of_blank blank]
  · simp only [blank, first, VersionedLine.of?]
    cases named : Version.ofChars? (firstField line) with
    | none => rfl
    | some version => rfl

/-- Only the versioned lines of a listing matter. -/
theorem ofListing_eq (listing : String) :
    ofListing listing = (versionedLines listing).foldlM addVersioned empty := by
  rw [ofListing, versionedLines, List.foldlM_filterMap]
  congr 1
  funext c line
  rw [addLine_eq]
  cases VersionedLine.of? line <;> rfl

theorem addVersioned_of_publishedAt? {c : Catalog} {v : VersionedLine} {t : Instant}
    (h : v.publishedAt? = some t) :
    c.addVersioned v = (c.push v.line ⟨v.tag, t⟩).mapError .outOfOrder := by
  rw [addVersioned, publishTime_eq_ok_iff.2 h]
  rfl

theorem addVersioned_of_publishTime {c : Catalog} {v : VersionedLine} {e : ListingError}
    (h : publishTime v.text v.fields = .error e) : c.addVersioned v = .error e := by
  rw [addVersioned, h]
  rfl

/-- After lines with publish times, a versioned line is refused for every fault that it has. -/
theorem addVersioned_of_fault {c : Catalog} {before : List VersionedLine} {v : VersionedLine}
    {e : ListingError} (timed : ∀ u ∈ before, u.Timed) (held : c.Holds (arrivalsOf before))
    (fault : Fault before v e) : c.addVersioned v = .error e := by
  cases fault with
  | missing short =>
    exact addVersioned_of_publishTime (publishTime_eq_error_iff.2 (Or.inl ⟨short, rfl⟩))
  | unreadable fourth unread =>
    exact addVersioned_of_publishTime
      (publishTime_eq_error_iff.2 (Or.inr ⟨_, _, fourth, unread, rfl⟩))
  | @outOfOrder w s t last hs ht older =>
    have listed : w.release? = some ⟨w.tag, s⟩ := by rw [release?, hs, Option.map_some]
    have previous := (getLast?_releasesOn timed v.line).2 ⟨w, last, listed⟩
    rw [← held.releasesOf_eq] at previous
    rw [addVersioned_of_publishedAt? ht, mapError_eq_error_iff]
    exact ⟨_, push_refused_iff.2 ⟨_, previous, older, rfl⟩, rfl⟩

/-- After lines with publish times, a versioned line that is refused has that fault. -/
theorem fault_of_addVersioned {c : Catalog} {before : List VersionedLine} {v : VersionedLine}
    {e : ListingError} (timed : ∀ u ∈ before, u.Timed) (held : c.Holds (arrivalsOf before))
    (h : c.addVersioned v = .error e) : Fault before v e := by
  cases read : publishTime v.text v.fields with
  | error e' =>
    rw [addVersioned_of_publishTime read] at h
    cases h
    rcases publishTime_eq_error_iff.1 read with ⟨short, rfl⟩ | ⟨field, error, fourth, unread, rfl⟩
    · exact .missing short
    · exact .unreadable fourth unread
  | ok t =>
    have ht := publishTime_eq_ok_iff.1 read
    rw [addVersioned_of_publishedAt? ht, mapError_eq_error_iff] at h
    obtain ⟨refused, pushed, rfl⟩ := h
    obtain ⟨previous, last, older, rfl⟩ := push_refused_iff.1 pushed
    rw [held.releasesOf_eq, getLast?_releasesOn timed] at last
    obtain ⟨w, last, listed⟩ := last
    obtain ⟨s, hs, rfl⟩ := Option.map_eq_some_iff.1 listed
    exact .outOfOrder last hs ht older

/-- A versioned line that is not refused has a publish time, and its release is added. -/
theorem holds_of_addVersioned {c larger : Catalog} {before : List VersionedLine}
    {v : VersionedLine} (held : c.Holds (arrivalsOf before))
    (h : c.addVersioned v = .ok larger) :
    v.Timed ∧ larger.Holds (arrivalsOf (before ++ [v])) := by
  cases read : publishTime v.text v.fields with
  | error e =>
    rw [addVersioned_of_publishTime read] at h
    cases h
  | ok t =>
    have ht := publishTime_eq_ok_iff.1 read
    rw [addVersioned_of_publishedAt? ht, mapError_eq_ok_iff] at h
    have arrived : v.arrival? = some ⟨v.line, ⟨v.tag, t⟩⟩ :=
      arrival?_eq_some_iff.2 ⟨rfl, rfl, ht⟩
    refine ⟨timed_iff.2 ⟨t, ht⟩, ?_⟩
    rw [arrivalsOf, List.filterMap_append, List.filterMap_cons_some arrived]
    exact held.push h

/-- The catalog of some versioned lines holds what they list, and they have publish times. -/
theorem holds_of_foldlM {vs : List VersionedLine} {c : Catalog}
    (h : vs.foldlM addVersioned empty = .ok c) :
    (∀ v ∈ vs, v.Timed) ∧ c.Holds (arrivalsOf vs) := by
  -- By the last line: the catalog before it holds what the lines before it list.
  induction vs using List.reverseRecOn generalizing c with
  | nil =>
    obtain rfl : empty = c := Except.ok.inj h
    exact ⟨by simp, holds_empty⟩
  | append_singleton vs v ih =>
    simp only [List.foldlM_append, List.foldlM_cons, List.foldlM_nil, bind_pure] at h
    cases run : vs.foldlM addVersioned empty with
    | error e =>
      rw [run] at h
      cases h
    | ok middle =>
      obtain ⟨timed, held⟩ := ih run
      rw [run] at h
      change middle.addVersioned v = .ok c at h
      obtain ⟨own, larger⟩ := holds_of_addVersioned held h
      refine ⟨?_, larger⟩
      intro u hu
      rcases List.mem_append.1 hu with hu | hu
      · exact timed u hu
      · rwa [List.mem_singleton.1 hu]

theorem acceptable_of_foldlM {vs : List VersionedLine} {c : Catalog}
    (h : vs.foldlM addVersioned empty = .ok c) : Acceptable vs := by
  obtain ⟨timed, held⟩ := holds_of_foldlM h
  exact acceptable_iff.2 ⟨timed, held.inOrder⟩

theorem exists_foldlM_of_acceptable {vs : List VersionedLine} (accepted : Acceptable vs) :
    ∃ c, vs.foldlM addVersioned empty = .ok c := by
  cases run : vs.foldlM addVersioned empty with
  | ok c => exact ⟨c, rfl⟩
  | error e =>
    -- The line that is refused first would have a fault among acceptable lines.
    obtain ⟨before, v, after, middle, rfl, start, refused⟩ := foldlM_eq_error_iff.1 run
    obtain ⟨timed, held⟩ := holds_of_foldlM start
    have fault := fault_of_addVersioned timed held refused
    have first : (before ++ [v]).Sublist (before ++ v :: after) :=
      (List.append_sublist_append_left before).2 (by simp)
    exact absurd (accepted.of_sublist first) fault.not_acceptable

/-- The catalog of a listing is refused exactly for a fault that a versioned line has after
acceptable ones. -/
theorem ofListing_eq_error_iff {listing : String} {e : ListingError} :
    ofListing listing = .error e ↔
      ∃ before v after, versionedLines listing = before ++ v :: after ∧ Acceptable before ∧
        Fault before v e := by
  rw [ofListing_eq, foldlM_eq_error_iff]
  constructor
  · rintro ⟨before, v, after, middle, split, start, refused⟩
    obtain ⟨timed, held⟩ := holds_of_foldlM start
    exact ⟨before, v, after, split, acceptable_of_foldlM start,
      fault_of_addVersioned timed held refused⟩
  · rintro ⟨before, v, after, split, accepted, fault⟩
    obtain ⟨middle, start⟩ := exists_foldlM_of_acceptable accepted
    obtain ⟨timed, held⟩ := holds_of_foldlM start
    exact ⟨before, v, after, middle, split, start, addVersioned_of_fault timed held fault⟩

theorem holds_of_ofListing {listing : String} {c : Catalog} (h : ofListing listing = .ok c) :
    (∀ v ∈ versionedLines listing, v.Timed) ∧ c.Holds (arrivalsOf (versionedLines listing)) := by
  rw [ofListing_eq] at h
  exact holds_of_foldlM h

/-- A listing has a catalog exactly if every versioned line has four fields and a timestamp in the
fourth and no time is later than one before it on its minor line. The catalog then lists, for each
minor line, the releases of its versioned lines in order; the minor lines descend. Otherwise the
error is that of the first versioned line that cannot follow those before it. Lines that are not
versioned make no difference. -/
theorem ofListing_versionedLines (listing : String) :
    ((∃ c, ofListing listing = .ok c) ↔ Acceptable (versionedLines listing)) ∧
    (∀ c, ofListing listing = .ok c →
      (∀ line, (c.get? line = none ↔ ∀ v ∈ versionedLines listing, v.line ≠ line) ∧
        ∀ releases, c.get? line = some releases →
          releases.map some =
            ((versionedLines listing).filter fun v => v.line = line).map release?) ∧
      c.minorLines.Pairwise (fun a b => b < a) ∧
      (∀ line, line ∈ c.minorLines ↔ ∃ v ∈ versionedLines listing, v.line = line) ∧
      c.size = ((versionedLines listing).map VersionedLine.line).toFinset.card ∧
      c.releaseCount = (versionedLines listing).length) ∧
    (∀ e, ofListing listing = .error e ↔
      ∃ before v after, versionedLines listing = before ++ v :: after ∧ Acceptable before ∧
        ¬ Acceptable (before ++ [v]) ∧ Fault before v e) ∧
    ∀ other, versionedLines other = versionedLines listing →
      ofListing other = ofListing listing := by
  refine ⟨?_, ?_, ?_, ?_⟩
  · rw [ofListing_eq]
    exact ⟨fun ⟨c, h⟩ => acceptable_of_foldlM h, exists_foldlM_of_acceptable⟩
  · intro c h
    obtain ⟨timed, held⟩ := holds_of_ofListing h
    have sameLines := map_line_arrivalsOf timed
    have listed : ∀ line, (∃ a ∈ arrivalsOf (versionedLines listing), a.line = line) ↔
        ∃ v ∈ versionedLines listing, v.line = line := by
      intro line
      rw [← List.mem_map, sameLines, List.mem_map]
    refine ⟨?_, c.minorLines_descend, ?_, ?_, ?_⟩
    · intro line
      rw [map_release? timed, held.get?_eq]
      have absent := (Arrival.releasesOn_ne_nil_iff.trans (listed line)).not
      split
      case isTrue empty => simpa [empty] using absent
      case isFalse full => simpa [full] using absent
    · intro line
      rw [held.mem_minorLines_iff, listed]
    · rw [held.size_eq, sameLines]
    · rw [held.releaseCount_eq, ← List.length_map Arrival.line, sameLines, List.length_map]
  · intro e
    rw [ofListing_eq_error_iff]
    constructor
    · rintro ⟨before, v, after, split, accepted, fault⟩
      exact ⟨before, v, after, split, accepted, fault.not_acceptable, fault⟩
    · rintro ⟨before, v, after, split, accepted, -, fault⟩
      exact ⟨before, v, after, split, accepted, fault⟩
  · intro other same
    rw [ofListing_eq, ofListing_eq, same]

end Catalog

end ReleaseSupport
