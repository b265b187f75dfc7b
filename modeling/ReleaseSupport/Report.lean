import ReleaseSupport.Calendar.Age
import ReleaseSupport.Calendar.Stamp
import ReleaseSupport.Catalog.Listing
import ReleaseSupport.Image
import ReleaseSupport.Json
import ReleaseSupport.Policy
import ReleaseSupport.Report.Script

/-!
Reports on the supported releases of repositories. As text, every repository has a section with the
dates and ages of its releases and a section with their images, each if it is wanted, written as
soon as it is known. As JSON, one document with all the repositories is written at the end.
-/

set_option autoImplicit false
set_option relaxedAutoImplicit false

namespace ReleaseSupport.Report

open ReleaseSupport.Calendar

/-- What a report shows. -/
structure Options where
  /-- Whether the dates and ages of the releases are written. -/
  display : Bool := true
  /-- Whether the images of the releases are looked up. -/
  doc : Bool := false
  json : Bool := false
  verbose : Bool := false
  policy : Policy
  deriving DecidableEq, Repr

structure Entry where
  tag : String
  publishedAt : Instant
  age : String
  image : Option String
  deriving DecidableEq, Repr

namespace Entry

/-- The entry of a release at the present, without an image. -/
def ofRelease (now : Instant) (release : Release) : Entry :=
  ⟨release.tag, release.publishedAt, release.publishedAt.ago now, none⟩

def published (e : Entry) : Date := e.publishedAt.date

def displayLine (e : Entry) : String := e.tag ++ "\t" ++ e.published.text ++ "\t" ++ e.age ++ "\n"

/-- An entry as JSON; the image is a member only if there is one. -/
def toJson (e : Entry) : Json :=
  .object (
    [("tag", .text e.tag),
      ("published", .text e.published.text),
      ("published_at", .text e.publishedAt.stamp),
      ("age", .text e.age)] ++
    (e.image.map fun image => ("image", Json.text image)).toList)

end Entry

structure RepositoryReport where
  repo : String
  supported : List Entry
  deriving DecidableEq, Repr

def RepositoryReport.toJson (r : RepositoryReport) : Json :=
  .object [("repo", .text r.repo), ("supported", .list (r.supported.map Entry.toJson))]

/-- What can go wrong in a report with the answers of the client. -/
inductive Error where
  | listing (repo : String) (error : Catalog.ListingError)
  | policy (repo : String) (error : Policy.Error)
  | image (repo tag : String) (error : Image.Error)
  deriving DecidableEq, Repr

/-- The wording of an error, which begins with the repository and for an image also with the tag. -/
def Error.message : Error → String
  | .listing repo error => repo ++ ": " ++ error.message
  | .policy repo error => repo ++ ": " ++ error.message
  | .image repo tag error => repo ++ " " ++ tag ++ ": " ++ error.message

def displayHeading (repo : String) : String :=
  "Supported versions with release date and age of \x60" ++ repo ++ "\x60:"

def docHeading : String := "Supported Versions with docker images for each end of life version:"

def displaySection (repo : String) (entries : List Entry) : String :=
  displayHeading repo ++ "\n\n" ++ String.join (entries.map Entry.displayLine)

/-- How the section of images begins. -/
def docOpening : String := "\n" ++ docHeading ++ "\n\n"

def imageLine (tag image : String) : String := tag ++ "\t" ++ image ++ "\n"

def document (reports : List RepositoryReport) : String :=
  (Json.list (reports.map RepositoryReport.toJson)).render

def catalogNote (repo : String) (c : Catalog) : String :=
  repo ++ ": " ++ toString c.releaseCount ++ " versioned releases in " ++ toString c.size ++
    " minor lines"

def verdictNote (repo : String) (v : Verdict) : String :=
  repo ++ ": " ++ v.group.line.text ++ ": " ++ v.decision.describe

/-- Looks up the supported releases of a repository, and notes what the policy says. -/
def gather (o : Options) (now : Instant) (repo : String) : Script Error (List Entry) := do
  let listing ← Script.query (.list repo)
  let catalog ← Script.ofExcept ((Catalog.ofListing listing).mapError (.listing repo))
  Script.noteIf o.verbose (catalogNote repo catalog)
  let verdicts ← Script.ofExcept ((o.policy.evaluate now catalog).mapError (.policy repo))
  verdicts.forM fun v => Script.noteIf o.verbose (verdictNote repo v)
  return (Policy.reported verdicts).map (Entry.ofRelease now)

/-- Looks up the image of a release, and writes its line in a text report. -/
def resolveImage (o : Options) (repo : String) (e : Entry) : Script Error Entry := do
  let description ← Script.query (.view repo e.tag)
  let image ← Script.ofExcept
    ((Image.ofDescription description).mapError (.image repo e.tag))
  Script.sayIf (!o.json) (imageLine e.tag image)
  return { e with image := some image }

/-- Looks up the images of some releases if they are wanted, and writes their section in a text
report. -/
def illustrate (o : Options) (repo : String) (entries : List Entry) : Script Error (List Entry) :=
  if o.doc then do
    Script.sayIf (!o.json) docOpening
    entries.mapM (resolveImage o repo)
  else pure entries

def repository (o : Options) (now : Instant) (repo : String) : Script Error RepositoryReport := do
  let gathered ← gather o now repo
  Script.sayIf (o.display && !o.json) (displaySection repo gathered)
  let entries ← illustrate o repo gathered
  Script.sayIf (!o.json) "\n"
  return ⟨repo, entries⟩

/-- Reports on some repositories, in order, up to the first that fails. -/
def all (o : Options) (now : Instant) (repos : List String) :
    Script Error (List RepositoryReport) := do
  let reports ← repos.mapM (repository o now)
  Script.sayIf o.json (document reports)
  Script.sayIf o.json "\n"
  return reports

end ReleaseSupport.Report
