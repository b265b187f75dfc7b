import Mathlib.Data.Finset.Card
import ReleaseSupport.Proofs.Catalog.Contents

/-!
Histories of pushes. Releases arrive one after the other, each for its minor line, and an arrival is
kept unless the last one kept on its line is older. A catalog built by any pushes, refused ones
among them, holds line by line exactly the arrivals that are kept, in their order.
-/

set_option autoImplicit false
set_option relaxedAutoImplicit false

namespace ReleaseSupport

open ReleaseSupport.Calendar

/-- A release that arrives for a minor line. -/
@[ext] structure Arrival where
  line : MinorLine
  release : Release
  deriving DecidableEq, Repr

namespace Arrival

def releasesOn (line : MinorLine) (arrivals : List Arrival) : List Release :=
  (arrivals.filter fun a => a.line = line).map Arrival.release

/-- Whether no arrival is newer than one before it on the same line. -/
def InOrder (arrivals : List Arrival) : Prop :=
  arrivals.Pairwise fun a b => a.line = b.line → b.release.publishedAt ≤ a.release.publishedAt

/-- One more arrival after those kept so far, unless the last one on its line is older. -/
def keep (kept : List Arrival) (a : Arrival) : List Arrival :=
  match (releasesOn a.line kept).getLast? with
  | none => kept ++ [a]
  | some previous =>
    if previous.publishedAt < a.release.publishedAt then kept else kept ++ [a]

def kept (arrivals : List Arrival) : List Arrival := arrivals.foldl keep []

theorem releasesOn_append_singleton (line : MinorLine) (arrivals : List Arrival) (a : Arrival) :
    releasesOn line (arrivals ++ [a]) =
      if line = a.line then releasesOn a.line arrivals ++ [a.release]
      else releasesOn line arrivals := by
  split
  case isTrue same => simp [releasesOn, same]
  case isFalse differs => simp [releasesOn, Ne.symm differs]

theorem releasesOn_ne_nil_iff {line : MinorLine} {arrivals : List Arrival} :
    releasesOn line arrivals ≠ [] ↔ ∃ a ∈ arrivals, a.line = line := by
  simp [releasesOn]

/-- Arrivals are in order exactly if those of every single line are. -/
theorem inOrder_iff {arrivals : List Arrival} :
    InOrder arrivals ↔ ∀ line, NewestFirst (releasesOn line arrivals) := by
  simp only [InOrder, NewestFirst, releasesOn, List.pairwise_map, List.pairwise_filter,
    decide_eq_true_eq]
  constructor
  · intro h line
    exact h.imp fun ordered ha hb => ordered (ha.trans hb.symm)
  · intro h
    rw [List.pairwise_iff_forall_sublist]
    intro a b hab same
    exact List.pairwise_iff_forall_sublist.1 (h b.line) hab same rfl

end Arrival

namespace Catalog

open Arrival

/-- A catalog that holds, line by line, exactly some arrivals in their order. -/
structure Holds (c : Catalog) (arrivals : List Arrival) : Prop where
  releasesOf_eq : ∀ line, c.releasesOf line = releasesOn line arrivals
  releaseCount_eq : c.releaseCount = arrivals.length

theorem holds_empty : empty.Holds [] := ⟨fun _ => rfl, rfl⟩

namespace Holds

variable {c : Catalog} {arrivals : List Arrival}

theorem push {larger : Catalog} {a : Arrival} (held : c.Holds arrivals)
    (h : c.push a.line a.release = .ok larger) : larger.Holds (arrivals ++ [a]) where
  releasesOf_eq line := by
    rw [releasesOf_of_push h, releasesOn_append_singleton, held.releasesOf_eq,
      held.releasesOf_eq]
  releaseCount_eq := by
    rw [releaseCount_of_push h, held.releaseCount_eq, List.length_append, List.length_singleton]

theorem inOrder (held : c.Holds arrivals) : InOrder arrivals := by
  refine inOrder_iff.2 fun line => ?_
  rw [← held.releasesOf_eq]
  exact c.newestFirst_releasesOf line

theorem get?_eq (held : c.Holds arrivals) (line : MinorLine) :
    c.get? line =
      if releasesOn line arrivals = [] then none else some (releasesOn line arrivals) := by
  rw [Catalog.get?_eq, held.releasesOf_eq]

theorem mem_minorLines_iff (held : c.Holds arrivals) {line : MinorLine} :
    line ∈ c.minorLines ↔ ∃ a ∈ arrivals, a.line = line := by
  rw [Catalog.mem_minorLines_iff, held.releasesOf_eq, releasesOn_ne_nil_iff]

theorem isEmpty_iff (held : c.Holds arrivals) : c.isEmpty = true ↔ arrivals = [] := by
  have noLine : c.minorLines = [] ↔ c.groups = [] := by simp [minorLines]
  rw [Catalog.isEmpty_iff, ← noLine]
  simp only [List.eq_nil_iff_forall_not_mem, held.mem_minorLines_iff]
  constructor
  · intro absent a ha
    exact absent a.line ⟨a, ha, rfl⟩
  · rintro absent line ⟨a, ha, -⟩
    exact absent a ha

theorem size_eq (held : c.Holds arrivals) :
    c.size = (arrivals.map Arrival.line).toFinset.card := by
  have nodup : c.minorLines.Nodup :=
    c.minorLines_descend.imp fun older => (MinorLine.ne_of_lt older).symm
  have sameLines : c.minorLines.toFinset = (arrivals.map Arrival.line).toFinset := by
    ext line
    simp only [List.mem_toFinset, held.mem_minorLines_iff, List.mem_map]
  rw [← sameLines, List.toFinset_card_of_nodup nodup, minorLines, List.length_map, size]

end Holds

/-- A catalog after one more arrival; one that is refused changes nothing. -/
def receive (c : Catalog) (a : Arrival) : Catalog :=
  match c.push a.line a.release with
  | .ok larger => larger
  | .error _ => c

/-- The catalog that some pushes build, one after the other, whether they are refused or not. -/
def ofArrivals (arrivals : List Arrival) : Catalog := arrivals.foldl receive empty

theorem Holds.receive {c : Catalog} {before : List Arrival} (held : c.Holds before)
    (a : Arrival) : (c.receive a).Holds (keep before a) := by
  unfold Catalog.receive keep
  cases pushed : c.push a.line a.release with
  | error e =>
    obtain ⟨previous, last, older, -⟩ := push_refused_iff.1 pushed
    rw [held.releasesOf_eq] at last
    simpa only [last, if_pos older] using held
  | ok larger =>
    have grown := held.push pushed
    cases last : (releasesOn a.line before).getLast? with
    | none => exact grown
    | some previous =>
      have notOlder : ¬ previous.publishedAt < a.release.publishedAt := by
        intro older
        rw [← held.releasesOf_eq] at last
        rw [push_refused_iff.2 ⟨previous, last, older, rfl⟩] at pushed
        cases pushed
      simpa only [if_neg notOlder] using grown

/-- Whatever is pushed, a catalog holds exactly the arrivals that are kept. -/
theorem holds_ofArrivals (arrivals : List Arrival) :
    (ofArrivals arrivals).Holds (kept arrivals) := by
  -- The claim for runs that start anywhere, so that the induction can take the first push.
  suffices run : ∀ (c : Catalog) (before : List Arrival), c.Holds before →
      (arrivals.foldl Catalog.receive c).Holds (arrivals.foldl keep before) from
    run empty [] holds_empty
  induction arrivals with
  | nil => exact fun c before held => held
  | cons a arrivals ih => exact fun c before held => ih _ _ (held.receive a)

end Catalog

end ReleaseSupport
