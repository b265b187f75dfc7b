import ReleaseSupport.Calendar.Timestamp
import ReleaseSupport.Catalog
import ReleaseSupport.Text.Blank
import ReleaseSupport.Text.Lines

/-!
Reading a catalog from a release listing. Every line of a listing has fields separated by tabs: the
tag in the first, the publish time in the fourth. Blank lines and lines whose tag names no version
do not matter, and the first line that does and is faulty is the error of the listing.
-/

set_option autoImplicit false
set_option relaxedAutoImplicit false

namespace ReleaseSupport.Catalog

open ReleaseSupport.Calendar
open ReleaseSupport.Text

inductive ListingError where
  | missingTimestamp (line : String)
  | unreadableTimestamp (error : Timestamp.Error)
  | outOfOrder (error : OutOfOrder)
  deriving DecidableEq, Repr

def ListingError.message : ListingError → String
  | .missingTimestamp line => "Missing publish timestamp in release line: " ++ quoted line
  | .unreadableTimestamp error => error.message
  | .outOfOrder error => error.message

def publishTime (line : List Char) (fields : List (List Char)) : Except ListingError Instant :=
  match fields[3]? with
  | none => .error (.missingTimestamp (String.ofList line))
  | some field => (Timestamp.ofText (String.ofList field)).mapError .unreadableTimestamp

def addLine (c : Catalog) (line : List Char) : Except ListingError Catalog :=
  if line.all isBlank then .ok c
  else
    let fields := line.splitOn '\t'
    let tag := fields.headD []
    match Version.ofChars? tag with
    | none => .ok c
    | some version => do
      let publishedAt ← publishTime line fields
      (c.push version.minorLine ⟨String.ofList tag, publishedAt⟩).mapError .outOfOrder

def ofListing (listing : String) : Except ListingError Catalog :=
  (lines listing.toList).foldlM addLine empty

end ReleaseSupport.Catalog
