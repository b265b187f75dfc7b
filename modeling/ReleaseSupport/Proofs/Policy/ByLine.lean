import ReleaseSupport.Proofs.Policy.Verdicts

/-!
Verdicts line by line. The policy gives each minor line of a catalog one verdict: the line that
stands first is the newest, and any other is judged by its own releases.
-/

set_option autoImplicit false
set_option relaxedAutoImplicit false

namespace ReleaseSupport

open ReleaseSupport.Calendar

namespace Policy

variable {p : Policy} {now : Instant} {c : Catalog}

/-- The verdict on a minor line, if the catalog has it. -/
def verdict? (p : Policy) (now : Instant) (c : Catalog) (line : MinorLine) : Option Verdict :=
  match p.evaluate now c with
  | .ok verdicts => verdicts.find? fun v => v.line = line
  | .error _ => none

/-- What the policy decides on a group of a catalog. -/
def judge (p : Policy) (now : Instant) (c : Catalog) (g : Group) : Decision :=
  if c.minorLines.head? = some g.line then .newest else p.decideOlder now g

section Judge

variable {g : Group}

theorem judge_of_newest (newest : c.minorLines.head? = some g.line) :
    p.judge now c g = .newest :=
  if_pos newest

theorem judge_of_older (older : c.minorLines.head? ≠ some g.line) :
    p.judge now c g = p.decideOlder now g :=
  if_neg older

/-- For a line that is judged by its own releases, the latest one is reported. -/
theorem release?_decideOlder (p : Policy) (now : Instant) (g : Group) :
    Verdict.release? ⟨g, p.decideOlder now g⟩ =
      if (p.decideOlder now g).isSupported then some g.latest else none := by
  unfold decideOlder
  split
  case isTrue young => rfl
  case isFalse old =>
    split
    case isTrue recent => rfl
    case isFalse stale => rfl

end Judge

/-- The policy judges every group of a catalog, unless there is none. -/
theorem evaluate_eq_map (p : Policy) (now : Instant) (listed : c.groups ≠ []) :
    p.evaluate now c = .ok (c.groups.map fun g => ⟨g, p.judge now c g⟩) := by
  obtain ⟨newest, older, groups⟩ := List.exists_cons_of_ne_nil listed
  have descend := c.linesDescend
  rw [LinesDescend, groups] at descend
  have head : c.minorLines.head? = some newest.line := by
    rw [Catalog.minorLines, groups]
    rfl
  refine evaluate_eq_ok_iff.2 ⟨newest, older, groups, ?_⟩
  rw [groups, List.map_cons, judge_of_newest head]
  refine congrArg _ (List.map_congr_left ?_)
  intro g hg
  have below := (List.pairwise_cons.1 descend).1 g hg
  have differs : c.minorLines.head? ≠ some g.line := by
    rw [head]
    exact fun same => MinorLine.ne_of_lt below (Option.some.inj same).symm
  rw [judge_of_older differs]

/-- Every group of a catalog has the verdict on its line. -/
theorem verdict?_line_of_mem {g : Group} (hg : g ∈ c.groups) :
    p.verdict? now c g.line = some ⟨g, p.judge now c g⟩ := by
  rw [verdict?, evaluate_eq_map p now (List.ne_nil_of_mem hg)]
  change (c.groups.map _).find? _ = _
  rw [List.find?_map]
  change (c.groups.find? fun g' => g'.line = g.line).map _ = _
  rw [Catalog.find?_line_of_mem hg, Option.map_some]

end Policy

end ReleaseSupport
