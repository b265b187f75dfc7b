import ReleaseSupport.Catalog

/-!
The support policy. The newest minor line is always supported. Any other line is supported while its
oldest release is younger than the maximal age, and after that while its latest release is younger
than the patch window.
-/

set_option autoImplicit false
set_option relaxedAutoImplicit false

namespace ReleaseSupport

open ReleaseSupport.Calendar

inductive Decision where
  | newest
  | withinMaxAge
  | recentPatch
  | endOfLife
  deriving DecidableEq, Repr

namespace Decision

def isSupported (d : Decision) : Bool := d ≠ endOfLife

def describe : Decision → String
  | newest => "newest minor line"
  | withinMaxAge => "first release within max age"
  | recentPatch => "recent patch release"
  | endOfLife => "end of life"

end Decision

/-- A group of releases and what the policy says of it. -/
structure Verdict where
  group : Group
  decision : Decision

namespace Verdict

/-- The release to report: the oldest of the newest line, the latest of any other supported line. -/
def release? (v : Verdict) : Option Release :=
  match v.decision with
  | .newest => some v.group.oldest
  | .withinMaxAge => some v.group.latest
  | .recentPatch => some v.group.latest
  | .endOfLife => none

theorem isSome_release? (v : Verdict) : v.release?.isSome = v.decision.isSupported := by
  obtain ⟨group, decision⟩ := v
  cases decision <;> rfl

end Verdict

structure Policy where
  maxAge : Elapsed
  patchWindow : Elapsed
  deriving DecidableEq, Repr

namespace Policy

/-- The days for which a line is supported after its first release, unless told otherwise. -/
def defaultMaxAge : Nat := 365

/-- The days for which a line is supported after its latest release, unless told otherwise. -/
def defaultPatchWindow : Nat := 90

/-- The policy with windows of whole days, if both can be represented. -/
def ofDays? (maxAge patchWindow : Int) : Option Policy := do
  return ⟨← Elapsed.ofDays? maxAge, ← Elapsed.ofDays? patchWindow⟩

theorem isSome_ofDays? (maxAge patchWindow : UInt32) :
    (ofDays? maxAge.toNat patchWindow.toNat).isSome = true := by
  have hm := maxAge.toNat_lt
  have hp := patchWindow.toNat_lt
  obtain ⟨age, ha⟩ := Option.isSome_iff_exists.1
    (Elapsed.isSome_ofDays?_iff.2 (show _ ≤ (maxAge.toNat : Int) ∧ _ by omega))
  obtain ⟨window, hw⟩ := Option.isSome_iff_exists.1
    (Elapsed.isSome_ofDays?_iff.2 (show _ ≤ (patchWindow.toNat : Int) ∧ _ by omega))
  simp [ofDays?, ha, hw]

/-- The policy with windows of so many days, which can always be represented. -/
def ofDays (maxAge patchWindow : UInt32) : Policy :=
  (ofDays? maxAge.toNat patchWindow.toNat).get (isSome_ofDays? maxAge patchWindow)

def decideOlder (p : Policy) (now : Instant) (g : Group) : Decision :=
  if now - g.oldest.publishedAt < p.maxAge then .withinMaxAge
  else if now - g.latest.publishedAt < p.patchWindow then .recentPatch
  else .endOfLife

inductive Error where
  | noReleases
  deriving DecidableEq, Repr

def Error.message : Error → String
  | .noReleases => "no releases found for repository"

/-- The verdicts on all the lines of a catalog, from the newest line to the oldest. -/
def evaluate (p : Policy) (now : Instant) (c : Catalog) : Except Error (List Verdict) :=
  match c.groups with
  | [] => .error .noReleases
  | newest :: older =>
    .ok (⟨newest, .newest⟩ :: older.map fun g => ⟨g, p.decideOlder now g⟩)

def reported (verdicts : List Verdict) : List Release := verdicts.filterMap Verdict.release?

def supported (p : Policy) (now : Instant) (c : Catalog) : Except Error (List Release) :=
  (p.evaluate now c).map reported

end Policy

end ReleaseSupport
