import ReleaseSupport.Proofs.Policy.Listed
import ReleaseSupport.Proofs.Report.Repository

/-!
The report on some repositories. It succeeds exactly if the report on each of them is complete, and
otherwise ends with the first one that breaks off. Its queries and its text are those of the single
reports in a row; a JSON report writes nothing unless it succeeds.
-/

set_option autoImplicit false
set_option relaxedAutoImplicit false

namespace ReleaseSupport.Report

open ReleaseSupport.Calendar
open ReleaseSupport.Text

variable {κ : Type} {client : Query → Except κ String} {o : Options} {now : Instant}
  {repo : String} {repos : List String}

/-- The releases of a repository are listed, and the minor lines of their tags strictly descend. -/
theorem Supports.lists {p : Policy} {releases : List Release}
    (supports : Supports client p now repo releases) :
    (∃ listing, client (.list repo) = .ok listing ∧
      ∀ release ∈ releases, Lists listing release.tag release.publishedAt) ∧
      TagsDescend (releases.map Release.tag) := by
  obtain ⟨listing, catalog, asked, grouped, supported⟩ := supports
  obtain ⟨listed, descend⟩ := Policy.lists_of_supported grouped supported
  exact ⟨⟨listing, asked, listed⟩, descend⟩

theorem Supports.exists_version {p : Policy} {releases : List Release}
    (supports : Supports client p now repo releases) {release : Release} (h : release ∈ releases) :
    ∃ version, Version.ofTag? release.tag = some version :=
  supports.lists.2.exists_version (List.mem_map_of_mem h)

theorem Completes.lists {report : RepositoryReport}
    (complete : Completes client o now repo report) :
    (∃ listing, client (.list report.repo) = .ok listing ∧
      ∀ e ∈ report.supported, Lists listing e.tag e.publishedAt) ∧
      TagsDescend (report.supported.map Entry.tag) := by
  obtain ⟨rfl, releases, supports, described⟩ := complete
  obtain ⟨⟨listing, asked, listed⟩, descend⟩ := supports.lists
  have sameTags := map_eq_map_of_forall₂ (described.imp fun _ _ h => h.tag_eq.symm)
  refine ⟨⟨listing, asked, ?_⟩, sameTags ▸ descend⟩
  intro e he
  obtain ⟨release, hr, own⟩ := exists_left_of_forall₂ described he
  rw [own.tag_eq, own.publishedAt_eq]
  exact listed release hr

/-- The entries of a complete report have images exactly if images are wanted. -/
theorem Completes.isSome_image_iff {report : RepositoryReport}
    (complete : Completes client o now repo report) {e : Entry} (h : e ∈ report.supported) :
    e.image.isSome = true ↔ o.doc = true := by
  obtain ⟨-, releases, -, described⟩ := complete
  obtain ⟨release, -, own⟩ := exists_left_of_forall₂ described h
  constructor
  · intro present
    by_contra unwanted
    rw [own.no_image (Bool.eq_false_iff.2 unwanted)] at present
    cases present
  · intro wanted
    obtain ⟨image, known, -⟩ := own.image_of_doc wanted
    rw [known]
    rfl

/-- The tags of described releases, which are the ones that are viewed, name versions. -/
theorem exists_version_of_mem_views {p : Policy} {before rest : List Release}
    {entries : List Entry} (supports : Supports client p now repo (before ++ rest))
    (described : List.Forall₂ (Describes client o now repo) before entries) {r tag : String}
    (h : .view r tag ∈ views repo entries) : ∃ version, Version.ofTag? tag = some version := by
  obtain ⟨e, he, same⟩ := List.mem_map.1 h
  obtain ⟨release, hr, own⟩ := exists_left_of_forall₂ described he
  obtain ⟨rfl, rfl⟩ := Query.view.inj same
  rw [own.tag_eq]
  exact supports.exists_version (List.mem_append_left _ hr)

theorem Completes.exists_version_of_view {report : RepositoryReport}
    (complete : Completes client o now repo report) {r tag : String}
    (h : .view r tag ∈ report.calls o) : ∃ version, Version.ofTag? tag = some version := by
  obtain ⟨rfl, releases, supports, described⟩ := complete
  rw [← List.append_nil releases] at supports
  cases wanted : o.doc with
  | true =>
    have member : .view r tag ∈ views report.repo report.supported := by
      simpa [RepositoryReport.calls, wanted] using h
    exact exists_version_of_mem_views supports described member
  | false => simp [RepositoryReport.calls, wanted] at h

theorem Breaks.exists_version_of_view {wording : κ → String} {calls : List Query}
    {lines : List String} {failure : Failure Error κ} {message : String}
    (breaks : Breaks client wording o now repo calls lines failure message) {r tag : String}
    (h : .view r tag ∈ calls) : ∃ version, Version.ofTag? tag = some version := by
  have viewed {before after : List Release} {release : Release} {entries : List Entry}
      (supports : Supports client o.policy now repo (before ++ release :: after))
      (described : List.Forall₂ (Describes client o now repo) before entries)
      (h : .view r tag ∈ .list repo :: views repo entries ++ [.view repo release.tag]) :
      ∃ version, Version.ofTag? tag = some version := by
    rcases List.mem_append.1 h with h | h
    · exact exists_version_of_mem_views supports described (by simpa using h)
    · obtain ⟨rfl, rfl⟩ := Query.view.inj (List.mem_singleton.1 h)
      exact supports.exists_version (List.mem_append_right _ List.mem_cons_self)
  cases breaks with
  | unlisted => simp at h
  | ungrouped => simp at h
  | unsupported => simp at h
  | unviewed _ supports described _ => exact viewed supports described h
  | unillustrated _ supports described _ _ => exact viewed supports described h

theorem all_of_completes {reports : List RepositoryReport}
    (complete : List.Forall₂ (Completes client o now) repos reports) :
    Shows client (all o now repos) (reports.flatMap (RepositoryReport.calls o))
      (if o.json then document reports ++ "\n"
        else unlines (reports.flatMap (RepositoryReport.lines o)))
      (.ok reports) := by
  have each := complete.imp fun _ _ h => h.shows
  refine Shows.congr ((Shows.mapM each).bind <| (Shows.sayIf _ _).bind <|
    (Shows.sayIf _ _).map _) ?_ ?_
  · simp
  · rw [← o.written_flatMap]
    cases json : o.json <;> simp [Options.written, json]

theorem all_of_breaks {wording : κ → String} {before : List String} (after : List String)
    {reports : List RepositoryReport} {calls : List Query} {lines : List String}
    {failure : Failure Error κ} {message : String}
    (complete : List.Forall₂ (Completes client o now) before reports)
    (breaks : Breaks client wording o now repo calls lines failure message) :
    Shows client (all o now (before ++ repo :: after))
      (reports.flatMap (RepositoryReport.calls o) ++ calls)
      (o.written (reports.flatMap (RepositoryReport.lines o) ++ lines)) (.error failure) := by
  have each := complete.imp fun _ _ h => h.shows
  refine Shows.congr (Shows.mapM_error each breaks.shows).bind_error rfl ?_
  rw [o.written_append, o.written_flatMap]

/-- The report on some repositories is complete for each of them, or breaks off at a first one. -/
theorem all_complete_or_breaks (client : Query → Except κ String) (wording : κ → String)
    (o : Options) (now : Instant) (repos : List String) :
    (∃ reports, List.Forall₂ (Completes client o now) repos reports) ∨
      ∃ before repo after reports calls lines failure message,
        repos = before ++ repo :: after ∧ List.Forall₂ (Completes client o now) before reports ∧
          Breaks client wording o now repo calls lines failure message := by
  rcases forall₂_or_first (Completes client o now) repos with
    complete | ⟨before, repo, after, reports, split, complete, missing⟩
  · exact Or.inl complete
  · obtain ⟨calls, lines, failure, message, breaks⟩ :=
      (completes_or_breaks client wording o now repo).resolve_left missing
    exact Or.inr ⟨before, repo, after, reports, calls, lines, failure, message, split, complete,
      breaks⟩

/-- The report on some repositories fails exactly at the first one whose own report fails, with that
failure. Its queries are those of the complete reports before and of the broken one; a text report
keeps all the lines of the former and the lines of the latter, a JSON report has written nothing.
The message is the wording of the client, or names the repository, and the tag for an image. -/
theorem all_eq_error_iff (client : Query → Except κ String) (wording : κ → String) (o : Options)
    (now : Instant) (repos : List String) (failure : Failure Error κ) :
    ((all o now repos).run client none).result = .error failure ↔
      ∃ before repo after reports calls lines message, repos = before ++ repo :: after ∧
        List.Forall₂ (fun r report => Completes client o now r report ∧
          Shows client (repository o now r) (report.calls o) (o.written (report.lines o))
            (.ok report)) before reports ∧
        Breaks client wording o now repo calls lines failure message ∧
        Shows client (repository o now repo) calls (o.written lines) (.error failure) ∧
        failure.message Error.message wording = message ∧
        ((all o now repos).run client none).calls =
          reports.flatMap (RepositoryReport.calls o) ++ calls ∧
        ((all o now repos).run client none).output =
          if o.json then []
          else Utf8.encode (unlines (reports.flatMap (RepositoryReport.lines o) ++ lines)) := by
  constructor
  · intro h
    rcases all_complete_or_breaks client wording o now repos with
      ⟨reports, complete⟩ |
      ⟨before, repo, after, reports, calls, lines, failure', message, rfl, complete, breaks⟩
    · cases h.symm.trans (all_of_completes complete).result_eq
    · have whole := all_of_breaks after complete breaks
      obtain rfl := Except.error.inj (h.symm.trans whole.result_eq)
      refine ⟨before, repo, after, reports, calls, lines, message, rfl,
        complete.imp fun _ _ h => ⟨h, h.shows⟩, breaks, breaks.shows, breaks.message_eq,
        whole.calls_eq, ?_⟩
      rw [whole.output_eq, Options.written]
      split <;> rfl
  · rintro ⟨before, repo, after, reports, calls, lines, message, rfl, complete, breaks, -⟩
    exact (all_of_breaks after (complete.imp fun _ _ h => h.1) breaks).result_eq

theorem exists_version_of_view {tag : String}
    (h : .view repo tag ∈ ((all o now repos).run client none).calls) :
    ∃ version, Version.ofTag? tag = some version := by
  have own {before : List String} {reports : List RepositoryReport}
      (complete : List.Forall₂ (Completes client o now) before reports)
      (h : .view repo tag ∈ reports.flatMap (RepositoryReport.calls o)) :
      ∃ version, Version.ofTag? tag = some version := by
    obtain ⟨report, hr, viewed⟩ := List.mem_flatMap.1 h
    obtain ⟨r, -, complete⟩ := exists_left_of_forall₂ complete hr
    exact complete.exists_version_of_view viewed
  rcases all_complete_or_breaks client (fun _ => "") o now repos with
    ⟨reports, complete⟩ | ⟨before, _, after, reports, calls, _, _, _, rfl, complete, breaks⟩
  · rw [(all_of_completes complete).calls_eq] at h
    exact own complete h
  · rw [(all_of_breaks after complete breaks).calls_eq] at h
    rcases List.mem_append.1 h with h | h
    · exact own complete h
    · exact breaks.exists_version_of_view h

theorem complete_of_all_eq_ok {reports : List RepositoryReport}
    (h : ((all o now repos).run client none).result = .ok reports) :
    List.Forall₂ (Completes client o now) repos reports := by
  rcases all_complete_or_breaks client (fun _ => "") o now repos with
    ⟨reports', complete⟩ | ⟨_, _, after, _, _, _, _, _, rfl, complete, breaks⟩
  · obtain rfl := Except.ok.inj (h.symm.trans (all_of_completes complete).result_eq)
    exact complete
  · cases h.symm.trans (all_of_breaks after complete breaks).result_eq

/-- The report on some repositories succeeds exactly with a complete report on each of them, in
order, which is the one that it has by itself. The queries are one for each listing, and after it
one for each image if images are wanted. A text report has the lines of the single reports, a JSON
report is one document and a newline. All releases are listed by their repository, the minor lines
of their tags strictly descend, and no tag that is no version is ever viewed, none that begins with
a dash among them. -/
theorem all_eq_ok_iff (client : Query → Except κ String) (o : Options) (now : Instant)
    (repos : List String) (reports : List RepositoryReport) :
    (((all o now repos).run client none).result = .ok reports ↔
      List.Forall₂ (Completes client o now) repos reports) ∧
    (((all o now repos).run client none).result = .ok reports →
      List.Forall₂ (fun repo report =>
        ((repository o now repo).run client none).result = .ok report) repos reports ∧
      ((all o now repos).run client none).calls = reports.flatMap (RepositoryReport.calls o) ∧
      ((all o now repos).run client none).output =
        Utf8.encode (if o.json then document reports ++ "\n"
          else unlines (reports.flatMap (RepositoryReport.lines o))) ∧
      ∀ report ∈ reports,
        (∃ listing, client (.list report.repo) = .ok listing ∧
          ∀ e ∈ report.supported, Lists listing e.tag e.publishedAt) ∧
        TagsDescend (report.supported.map Entry.tag)) ∧
    ∀ repo tag, .view repo tag ∈ ((all o now repos).run client none).calls →
      (∃ version, Version.ofTag? tag = some version) ∧ tag.toList.head? ≠ some '-' := by
  refine ⟨⟨complete_of_all_eq_ok, fun complete => (all_of_completes complete).result_eq⟩, ?_, ?_⟩
  · intro h
    have complete := complete_of_all_eq_ok h
    have whole := all_of_completes complete
    refine ⟨complete.imp fun _ _ h => repository_eq_ok_iff.2 h, whole.calls_eq, whole.output_eq, ?_⟩
    intro report hr
    obtain ⟨repo, -, own⟩ := exists_left_of_forall₂ complete hr
    exact own.lists
  · intro repo tag h
    obtain ⟨version, named⟩ := exists_version_of_view h
    refine ⟨⟨version, named⟩, ?_⟩
    rw [Version.head?_of_ofChars? named]
    decide

end ReleaseSupport.Report
