import Mathlib.Data.List.Forall2
import ReleaseSupport.Report

/-!
What can come of the report on one repository. It is complete if there is a listing with a catalog
that the policy applies to, and an image for every release if images are wanted. It breaks off at
the first of these that is missing, and keeps the lines that it had before.
-/

set_option autoImplicit false
set_option relaxedAutoImplicit false

namespace ReleaseSupport.Report

open ReleaseSupport.Calendar
open ReleaseSupport.Text

variable {κ : Type}

/-- Whether these are the supported releases of the listing of a repository. -/
def Supports (client : Query → Except κ String) (p : Policy) (now : Instant) (repo : String)
    (releases : List Release) : Prop :=
  ∃ listing catalog, client (.list repo) = .ok listing ∧
    Catalog.ofListing listing = .ok catalog ∧ p.supported now catalog = .ok releases

/-- Whether the description of a release names an image. -/
def HasImage (client : Query → Except κ String) (repo tag image : String) : Prop :=
  ∃ description, client (.view repo tag) = .ok description ∧
    Image.ofDescription description = .ok image

/-- An entry that shows a release of a repository, with an image exactly if images are wanted. -/
structure Describes (client : Query → Except κ String) (o : Options) (now : Instant)
    (repo : String) (release : Release) (e : Entry) : Prop where
  tag_eq : e.tag = release.tag
  publishedAt_eq : e.publishedAt = release.publishedAt
  published_eq : e.published = release.publishedAt.date
  age_eq : e.age = release.publishedAt.ago now
  image_of_doc : o.doc = true →
    ∃ image, e.image = some image ∧ HasImage client repo release.tag image
  no_image : o.doc = false → e.image = none

/-- A complete report on a repository, with one entry for each supported release in order. -/
structure Completes (client : Query → Except κ String) (o : Options) (now : Instant)
    (repo : String) (report : RepositoryReport) : Prop where
  repo_eq : report.repo = repo
  supported : ∃ releases, Supports client o.policy now repo releases ∧
    List.Forall₂ (Describes client o now repo) releases report.supported

def Entry.ageLine (e : Entry) : String := e.tag ++ "\t" ++ e.published.text ++ "\t" ++ e.age

/-- The line of a release with its image, if it has one. -/
def Entry.imageLines (e : Entry) : List String :=
  (e.image.map fun image => e.tag ++ "\t" ++ image).toList

/-- The lines with the dates and ages of some releases, if they are wanted. -/
def displayLines (o : Options) (repo : String) (entries : List Entry) : List String :=
  if o.display then
    displayHeading repo :: "" :: entries.map Entry.ageLine
  else []

/-- The lines with the images of some releases, if they are wanted. -/
def docLines (o : Options) (entries : List Entry) : List String :=
  if o.doc then "" :: docHeading :: "" :: entries.flatMap Entry.imageLines else []

/-- The queries for the images of some releases. -/
def views (repo : String) (entries : List Entry) : List Query :=
  entries.map fun e => .view repo e.tag

namespace RepositoryReport

def calls (o : Options) (r : RepositoryReport) : List Query :=
  .list r.repo :: if o.doc then views r.repo r.supported else []

def lines (o : Options) (r : RepositoryReport) : List String :=
  displayLines o r.repo r.supported ++ docLines o r.supported ++ [""]

end RepositoryReport

/-- Where the report on a repository can break off: at its listing, its catalog, its policy, or
after some images at the description or the image of the next release. With it go the queries made,
the lines written, the failure and its message. -/
inductive Breaks (client : Query → Except κ String) (wording : κ → String) (o : Options)
    (now : Instant) (repo : String) :
    List Query → List String → Failure Error κ → String → Prop
  | unlisted {error : κ} (asked : client (.list repo) = .error error) :
    Breaks client wording o now repo [.list repo] [] (.client error) (wording error)
  | ungrouped {listing : String} {error : Catalog.ListingError}
    (asked : client (.list repo) = .ok listing)
    (refused : Catalog.ofListing listing = .error error) :
    Breaks client wording o now repo [.list repo] [] (.own (.listing repo error))
      (repo ++ ": " ++ error.message)
  | unsupported {listing : String} {catalog : Catalog} {error : Policy.Error}
    (asked : client (.list repo) = .ok listing)
    (grouped : Catalog.ofListing listing = .ok catalog)
    (refused : o.policy.supported now catalog = .error error) :
    Breaks client wording o now repo [.list repo] [] (.own (.policy repo error))
      (repo ++ ": " ++ error.message)
  | unviewed {before after : List Release} {release : Release} {entries : List Entry} {error : κ}
    (wanted : o.doc = true)
    (supports : Supports client o.policy now repo (before ++ release :: after))
    (described : List.Forall₂ (Describes client o now repo) before entries)
    (asked : client (.view repo release.tag) = .error error) :
    Breaks client wording o now repo
      (.list repo :: views repo entries ++ [.view repo release.tag])
      (displayLines o repo ((before ++ release :: after).map (Entry.ofRelease now)) ++
        docLines o entries)
      (.client error) (wording error)
  | unillustrated {before after : List Release} {release : Release} {entries : List Entry}
    {description : String} {error : Image.Error} (wanted : o.doc = true)
    (supports : Supports client o.policy now repo (before ++ release :: after))
    (described : List.Forall₂ (Describes client o now repo) before entries)
    (asked : client (.view repo release.tag) = .ok description)
    (imageless : Image.ofDescription description = .error error) :
    Breaks client wording o now repo
      (.list repo :: views repo entries ++ [.view repo release.tag])
      (displayLines o repo ((before ++ release :: after).map (Entry.ofRelease now)) ++
        docLines o entries)
      (.own (.image repo release.tag error)) (repo ++ " " ++ release.tag ++ ": " ++ error.message)

/-- What a report has written of some lines: nothing before its end if it is JSON. -/
def Options.written (o : Options) (lines : List String) : String :=
  if o.json then "" else unlines lines

namespace Options

variable (o : Options)

theorem written_nil : o.written [] = "" := by
  unfold written
  split <;> rfl

theorem written_append (xs ys : List String) :
    o.written (xs ++ ys) = o.written xs ++ o.written ys := by
  unfold written
  split
  · rfl
  · exact unlines_append xs ys

theorem written_flatMap {α : Type} (linesOf : α → List String) (xs : List α) :
    o.written (xs.flatMap linesOf) = String.join (xs.map fun x => o.written (linesOf x)) := by
  induction xs with
  | nil => exact o.written_nil
  | cons x xs ih =>
    rw [List.flatMap_cons, written_append, ih, List.map_cons, String.join_cons]

end Options

end ReleaseSupport.Report
