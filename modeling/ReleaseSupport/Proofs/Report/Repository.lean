import ReleaseSupport.Proofs.Pairing
import ReleaseSupport.Proofs.Policy.Verdicts
import ReleaseSupport.Proofs.Refusal
import ReleaseSupport.Proofs.Report.Outcome
import ReleaseSupport.Proofs.Report.Shows

/-!
The report on one repository shows what its outcome says. Every repository has an outcome: its
report is either complete or breaks off, and the queries that it makes, the text that it writes and
its result are those of that outcome.
-/

set_option autoImplicit false
set_option relaxedAutoImplicit false

namespace ReleaseSupport.Report

open ReleaseSupport.Calendar
open ReleaseSupport.Text

variable {κ : Type}

private theorem two_newlines : "\n\n" = "\n" ++ "\n" := by
  decide

theorem unlines_displaySection (repo : String) (entries : List Entry) :
    unlines (displayHeading repo :: "" :: entries.map Entry.ageLine) =
      displaySection repo entries := by
  have ended : (· ++ "\n") ∘ Entry.ageLine = Entry.displayLine := rfl
  rw [displaySection, unlines_cons, unlines_cons, unlines, List.map_map, ended, two_newlines]
  simp only [String.append_assoc, String.empty_append]

theorem unlines_docOpening : unlines ["", docHeading, ""] = docOpening := by
  simp only [docOpening, two_newlines, unlines_cons, unlines_nil, String.append_assoc,
    String.empty_append, String.append_empty]

theorem unlines_imageLine (tag image : String) :
    unlines [tag ++ "\t" ++ image] = imageLine tag image := by
  rw [unlines_cons, unlines_nil, String.append_empty]
  rfl

theorem shows_written {client : Query → Except κ String} (o : Options) {lines : List String}
    {text : String} (h : unlines lines = text) :
    Shows client (Script.sayIf (!o.json) text : Script Error Unit) [] (o.written lines)
      (.ok ()) := by
  have said : Shows client (Script.sayIf (!o.json) text : Script Error Unit) [] _ (.ok ()) :=
    Shows.sayIf (!o.json) text
  unfold Options.written
  cases json : o.json
  · simpa [json, h] using said
  · simpa [json] using said

theorem shows_displaySection {client : Query → Except κ String} (o : Options) (repo : String)
    (entries : List Entry) :
    Shows client
      (Script.sayIf (o.display && !o.json) (displaySection repo entries) : Script Error Unit) []
      (o.written (displayLines o repo entries)) (.ok ()) := by
  unfold displayLines
  cases o.display
  · rw [if_neg Bool.false_ne_true, o.written_nil]
    exact Shows.sayIf false _
  · rw [if_pos rfl, Bool.true_and]
    exact shows_written o (unlines_displaySection repo entries)

section Entries

variable {client : Query → Except κ String} {o : Options} {now : Instant} {repo : String}
  {release : Release} {releases : List Release} {e : Entry} {entries : List Entry}

theorem describes_ofRelease (unwanted : o.doc = false) (release : Release) :
    Describes client o now repo release (Entry.ofRelease now release) where
  tag_eq := rfl
  publishedAt_eq := rfl
  published_eq := rfl
  age_eq := rfl
  image_of_doc wanted := by simp [unwanted] at wanted
  no_image _ := rfl

theorem describes_of_hasImage {image : String} (wanted : o.doc = true)
    (h : HasImage client repo release.tag image) :
    Describes client o now repo release
      { Entry.ofRelease now release with image := some image } where
  tag_eq := rfl
  publishedAt_eq := rfl
  published_eq := rfl
  age_eq := rfl
  image_of_doc _ := ⟨image, rfl, h⟩
  no_image unwanted := by simp [unwanted] at wanted

namespace Describes

theorem eq_ofRelease (h : Describes client o now repo release e) (unwanted : o.doc = false) :
    Entry.ofRelease now release = e := by
  obtain ⟨tag, publishedAt, age, image⟩ := e
  obtain ⟨rfl, rfl, -, rfl, -, none⟩ := h
  obtain rfl := none unwanted
  rfl

theorem exists_image (h : Describes client o now repo release e) (wanted : o.doc = true) :
    ∃ image, HasImage client repo release.tag image ∧
      e = { Entry.ofRelease now release with image := some image } := by
  obtain ⟨tag, publishedAt, age, image⟩ := e
  obtain ⟨rfl, rfl, -, rfl, found, -⟩ := h
  obtain ⟨image, rfl, named⟩ := found wanted
  exact ⟨image, named, rfl⟩

theorem ageLine_eq (h : Describes client o now repo release e) :
    (Entry.ofRelease now release).ageLine = e.ageLine := by
  rw [Entry.ageLine, Entry.ageLine, h.tag_eq, h.published_eq, h.age_eq]
  rfl

end Describes

theorem displayLines_ofRelease
    (described : List.Forall₂ (Describes client o now repo) releases entries) :
    displayLines o repo (releases.map (Entry.ofRelease now)) = displayLines o repo entries := by
  have sameLines := map_eq_map_of_forall₂ (described.imp fun _ _ h => h.ageLine_eq)
  rw [displayLines, displayLines, List.map_map]
  rw [← sameLines]
  rfl

theorem map_ofRelease_of_describes
    (described : List.Forall₂ (Describes client o now repo) releases entries)
    (unwanted : o.doc = false) : releases.map (Entry.ofRelease now) = entries := by
  rw [← entries.map_id]
  exact map_eq_map_of_forall₂ (described.imp fun _ _ h => h.eq_ofRelease unwanted)

theorem gather_of_supports (supports : Supports client o.policy now repo releases) :
    Shows client (gather o now repo) [.list repo] ""
      (.ok (releases.map (Entry.ofRelease now))) := by
  obtain ⟨listing, catalog, asked, grouped, supported⟩ := supports
  obtain ⟨verdicts, evaluated, rfl⟩ := Policy.supported_eq_ok_iff.1 supported
  refine Shows.query_bind asked ?_
  refine (Shows.ofExcept (mapError_eq_ok_iff.2 grouped)).bind_silent ?_
  refine (Shows.noteIf _ _).bind_silent ?_
  refine (Shows.ofExcept (mapError_eq_ok_iff.2 evaluated)).bind_silent ?_
  refine (Shows.forM_noteIf _ _ _).bind_silent ?_
  exact Shows.done _

theorem gather_of_listing_error {listing : String} {error : Catalog.ListingError}
    (asked : client (.list repo) = .ok listing)
    (refused : Catalog.ofListing listing = .error error) :
    Shows client (gather o now repo) [.list repo] "" (.error (.own (.listing repo error))) := by
  refine Shows.query_bind asked ?_
  exact (Shows.ofExcept_error (mapError_eq_error_iff.2 ⟨error, refused, rfl⟩)).bind_error

theorem gather_of_policy_error {listing : String} {catalog : Catalog} {error : Policy.Error}
    (asked : client (.list repo) = .ok listing)
    (grouped : Catalog.ofListing listing = .ok catalog)
    (refused : o.policy.supported now catalog = .error error) :
    Shows client (gather o now repo) [.list repo] "" (.error (.own (.policy repo error))) := by
  have unevaluated := Policy.supported_eq_error_iff.1 refused
  refine Shows.query_bind asked ?_
  refine (Shows.ofExcept (mapError_eq_ok_iff.2 grouped)).bind_silent ?_
  refine (Shows.noteIf _ _).bind_silent ?_
  exact (Shows.ofExcept_error (mapError_eq_error_iff.2 ⟨error, unevaluated, rfl⟩)).bind_error

theorem resolveImage_of_describes (h : Describes client o now repo release e)
    (wanted : o.doc = true) :
    Shows client (resolveImage o repo (Entry.ofRelease now release)) [.view repo e.tag]
      (o.written e.imageLines) (.ok e) := by
  obtain ⟨image, ⟨description, asked, found⟩, rfl⟩ := h.exists_image wanted
  refine Shows.query_bind asked ?_
  refine (Shows.ofExcept (mapError_eq_ok_iff.2 found)).bind_silent ?_
  exact (shows_written o (unlines_imageLine _ _)).map _

theorem resolveImage_of_image_error {description : String} {error : Image.Error}
    (asked : client (.view repo release.tag) = .ok description)
    (imageless : Image.ofDescription description = .error error) :
    Shows client (resolveImage o repo (Entry.ofRelease now release)) [.view repo release.tag] ""
      (.error (.own (.image repo release.tag error))) := by
  refine Shows.query_bind asked ?_
  exact (Shows.ofExcept_error (mapError_eq_error_iff.2 ⟨error, imageless, rfl⟩)).bind_error

theorem forall₂_resolveImage
    (described : List.Forall₂ (Describes client o now repo) releases entries)
    (wanted : o.doc = true) :
    List.Forall₂
      (fun e' e => Shows client (resolveImage o repo e') [.view repo e.tag]
        (o.written e.imageLines) (.ok e))
      (releases.map (Entry.ofRelease now)) entries :=
  List.forall₂_map_left_iff.2 (described.imp fun _ _ h => resolveImage_of_describes h wanted)

/-- The images of the releases are looked up and written if they are wanted. -/
theorem illustrate_of_describes
    (described : List.Forall₂ (Describes client o now repo) releases entries) :
    Shows client (illustrate o repo (releases.map (Entry.ofRelease now)))
      (if o.doc then views repo entries else []) (o.written (docLines o entries))
      (.ok entries) := by
  unfold illustrate docLines
  by_cases wanted : o.doc = true
  · rw [if_pos wanted, if_pos wanted, if_pos wanted]
    refine Shows.congr ((shows_written o unlines_docOpening).bind
      (Shows.mapM (forall₂_resolveImage described wanted))) ?_ ?_
    · rw [views, List.map_eq_flatMap, List.nil_append]
    · rw [← o.written_flatMap, ← o.written_append]
      rfl
  · rw [if_neg wanted, if_neg wanted, if_neg wanted, o.written_nil,
      map_ofRelease_of_describes described (Bool.eq_false_of_not_eq_true wanted)]
    exact Shows.done entries

/-- The images end at the first release whose image cannot be looked up. -/
theorem illustrate_error {before after : List Release} {failure : Failure Error κ}
    (wanted : o.doc = true)
    (described : List.Forall₂ (Describes client o now repo) before entries)
    (failed : Shows client (resolveImage o repo (Entry.ofRelease now release))
      [.view repo release.tag] "" (.error failure)) :
    Shows client (illustrate o repo ((before ++ release :: after).map (Entry.ofRelease now)))
      (views repo entries ++ [.view repo release.tag]) (o.written (docLines o entries))
      (.error failure) := by
  unfold illustrate docLines
  rw [if_pos wanted, if_pos wanted, List.map_append, List.map_cons]
  refine Shows.congr ((shows_written o unlines_docOpening).bind
    (Shows.mapM_error (forall₂_resolveImage described wanted) failed)) ?_ ?_
  · rw [views, List.map_eq_flatMap, List.nil_append]
  · rw [← o.written_flatMap, String.append_empty, ← o.written_append]
    rfl

/-- A complete report makes its queries and writes its lines. -/
theorem Completes.shows {report : RepositoryReport} (h : Completes client o now repo report) :
    Shows client (repository o now repo) (report.calls o) (o.written (report.lines o))
      (.ok report) := by
  obtain ⟨repo, entries⟩ := report
  obtain ⟨rfl, releases, supports, described⟩ := h
  refine Shows.congr ((gather_of_supports supports).bind <|
    (shows_displaySection o repo _).bind <| (illustrate_of_describes described).bind <|
    (shows_written o (unlines_cons "" [])).map _) ?_ ?_
  -- The script writes the gathered entries, the report has those with images.
  · simp [RepositoryReport.calls]
  · simp [RepositoryReport.lines, o.written_append, displayLines_ofRelease described]

theorem repository_of_image_error {before after : List Release} {failure : Failure Error κ}
    (wanted : o.doc = true)
    (supports : Supports client o.policy now repo (before ++ release :: after))
    (described : List.Forall₂ (Describes client o now repo) before entries)
    (failed : Shows client (resolveImage o repo (Entry.ofRelease now release))
      [.view repo release.tag] "" (.error failure)) :
    Shows client (repository o now repo)
      (.list repo :: views repo entries ++ [.view repo release.tag])
      (o.written (displayLines o repo ((before ++ release :: after).map (Entry.ofRelease now)) ++
        docLines o entries))
      (.error failure) := by
  refine Shows.congr ((gather_of_supports supports).bind <|
    (shows_displaySection o repo _).bind
      (illustrate_error wanted described failed).bind_error) ?_ ?_
  · simp
  · simp [o.written_append]

/-- A report that breaks off makes its queries until then and keeps the lines that it had. -/
theorem Breaks.shows {wording : κ → String} {calls : List Query} {lines : List String}
    {failure : Failure Error κ} {message : String}
    (h : Breaks client wording o now repo calls lines failure message) :
    Shows client (repository o now repo) calls (o.written lines) (.error failure) := by
  cases h with
  | unlisted asked =>
    rw [o.written_nil]
    exact Shows.bind_error (Shows.query_error asked).bind_error
  | ungrouped asked refused =>
    rw [o.written_nil]
    exact (gather_of_listing_error asked refused).bind_error
  | unsupported asked grouped refused =>
    rw [o.written_nil]
    exact (gather_of_policy_error asked grouped refused).bind_error
  | unviewed wanted supports described asked =>
    exact repository_of_image_error wanted supports described
      (Shows.query_error asked).bind_error
  | unillustrated wanted supports described asked imageless =>
    exact repository_of_image_error wanted supports described
      (resolveImage_of_image_error asked imageless)

theorem Breaks.message_eq {wording : κ → String} {calls : List Query} {lines : List String}
    {failure : Failure Error κ} {message : String}
    (h : Breaks client wording o now repo calls lines failure message) :
    failure.message Error.message wording = message := by
  cases h <;> rfl

theorem breaks_of_not_describes {before after : List Release} (wording : κ → String)
    (wanted : o.doc = true)
    (supports : Supports client o.policy now repo (before ++ release :: after))
    (described : List.Forall₂ (Describes client o now repo) before entries)
    (missing : ¬ ∃ e, Describes client o now repo release e) :
    ∃ calls lines failure message,
      Breaks client wording o now repo calls lines failure message := by
  cases asked : client (.view repo release.tag) with
  | error error => exact ⟨_, _, _, _, .unviewed wanted supports described asked⟩
  | ok description =>
    cases found : Image.ofDescription description with
    | error error => exact ⟨_, _, _, _, .unillustrated wanted supports described asked found⟩
    | ok image =>
      exact absurd ⟨_, describes_of_hasImage wanted ⟨description, asked, found⟩⟩ missing

/-- The report on any repository is complete or breaks off. -/
theorem completes_or_breaks (client : Query → Except κ String) (wording : κ → String)
    (o : Options) (now : Instant) (repo : String) :
    (∃ report, Completes client o now repo report) ∨
      ∃ calls lines failure message,
        Breaks client wording o now repo calls lines failure message := by
  -- Whatever the report needs is there, or is where it breaks off.
  cases asked : client (.list repo) with
  | error error => exact Or.inr ⟨_, _, _, _, .unlisted asked⟩
  | ok listing =>
    cases grouped : Catalog.ofListing listing with
    | error error => exact Or.inr ⟨_, _, _, _, .ungrouped asked grouped⟩
    | ok catalog =>
      cases supported : o.policy.supported now catalog with
      | error error => exact Or.inr ⟨_, _, _, _, .unsupported asked grouped supported⟩
      | ok releases =>
        have supports : Supports client o.policy now repo releases :=
          ⟨listing, catalog, asked, grouped, supported⟩
        rcases forall₂_or_first (Describes client o now repo) releases with
          ⟨entries, described⟩ | ⟨before, release, after, entries, rfl, described, missing⟩
        · exact Or.inl ⟨⟨repo, entries⟩, rfl, releases, supports, described⟩
        · cases wanted : o.doc with
          | true =>
            exact Or.inr (breaks_of_not_describes wording wanted supports described missing)
          | false => exact absurd ⟨_, describes_ofRelease wanted release⟩ missing

/-- The report on a repository has a value exactly if it is complete. -/
theorem repository_eq_ok_iff {report : RepositoryReport} :
    ((repository o now repo).run client none).result = .ok report ↔
      Completes client o now repo report := by
  refine ⟨?_, fun complete => complete.shows.result_eq⟩
  intro h
  rcases completes_or_breaks client (fun _ => "") o now repo with
    ⟨report', complete⟩ | ⟨_, _, _, _, breaks⟩
  · obtain rfl := Except.ok.inj (h.symm.trans complete.shows.result_eq)
    exact complete
  · cases h.symm.trans breaks.shows.result_eq

/-- The report on a repository fails exactly as it breaks off. -/
theorem repository_eq_error_iff {failure : Failure Error κ} (wording : κ → String) :
    ((repository o now repo).run client none).result = .error failure ↔
      ∃ calls lines message, Breaks client wording o now repo calls lines failure message := by
  refine ⟨?_, fun ⟨_, _, _, breaks⟩ => breaks.shows.result_eq⟩
  intro h
  rcases completes_or_breaks client wording o now repo with
    ⟨report, complete⟩ | ⟨calls, lines, failure', message, breaks⟩
  · cases h.symm.trans complete.shows.result_eq
  · obtain rfl := Except.error.inj (h.symm.trans breaks.shows.result_eq)
    exact ⟨calls, lines, message, breaks⟩

end Entries

end ReleaseSupport.Report
