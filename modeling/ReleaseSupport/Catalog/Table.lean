import Std.Data.TreeMap
import ReleaseSupport.Catalog

/-!
Groups of releases that are changed in place. A push opens the group of its line first, be it known
or not, and looks at the order only then, so a refusal comes when the table may have changed. No
group here has to have a release, or to list its releases in any order.
-/

set_option autoImplicit false
set_option relaxedAutoImplicit false

namespace ReleaseSupport

instance : Ord MinorLine :=
  ⟨compareLex (compareOn MinorLine.major) (compareOn MinorLine.minor)⟩

/-- All that can be seen of grouped releases. -/
@[ext] structure View where
  newestFirst : List (MinorLine × List Release)
  get? : MinorLine → Option (List Release)
  size : Nat
  isEmpty : Bool
  releaseCount : Nat

def Catalog.view (c : Catalog) : View where
  newestFirst := c.groups.map fun g => (g.line, g.releases)
  get? := c.get?
  size := c.size
  isEmpty := c.isEmpty
  releaseCount := c.releaseCount

/-- Releases by minor line, as a search tree holds them. -/
structure Table where
  groups : Std.TreeMap MinorLine (List Release)

namespace Table

def empty : Table := ⟨∅⟩

def view (t : Table) : View where
  newestFirst := t.groups.toList.reverse
  get? line := t.groups[line]?
  size := t.groups.size
  isEmpty := t.groups.isEmpty
  releaseCount := (t.groups.toList.flatMap Prod.snd).length

/-- A table after a push, and why the push was refused if it was. -/
structure Pushed where
  table : Table
  refusal? : Option OutOfOrder

def push (t : Table) (line : MinorLine) (release : Release) : Pushed :=
  let group := t.groups.getD line []
  let opened := t.groups.insert line group
  let added := opened.insert line (group ++ [release])
  match group.getLast? with
  | none => ⟨⟨added⟩, none⟩
  | some previous =>
    if previous.publishedAt < release.publishedAt then ⟨⟨opened⟩, some ⟨release, previous⟩⟩
    else ⟨⟨added⟩, none⟩

end Table

end ReleaseSupport
