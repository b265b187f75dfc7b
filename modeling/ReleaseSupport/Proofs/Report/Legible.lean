import ReleaseSupport.Proofs.Calendar.Words
import ReleaseSupport.Proofs.Catalog.Rows
import ReleaseSupport.Proofs.Image.Span
import ReleaseSupport.Proofs.Report.All

/-!
Reading a text report. Tags are fields of a listing and images are parts of one line, and neither
dates nor ages have a tab or a newline, so no answer of a client can add a line to a report, take
one away, or move the end of a field. The lines of a report are told apart at its newlines, and
their fields at the tabs.
-/

set_option autoImplicit false
set_option relaxedAutoImplicit false

namespace ReleaseSupport

open ReleaseSupport.Calendar
open ReleaseSupport.Text

namespace Text

theorem mem_of_mem_dropReturn {c : Char} {line : List Char} (h : c ∈ dropReturn line) :
    c ∈ line := by
  unfold dropReturn at h
  split at h
  · exact List.mem_of_mem_dropLast h
  · exact h

theorem newline_not_mem_of_mem_lines {text line : List Char} (h : line ∈ lines text) :
    '\n' ∉ line := by
  induction text using pieces_induction '\n' with
  | last piece inside =>
    rw [lines, List.splitOn_eq_singleton inside, closedLines] at h
    split at h
    · cases h
    · rwa [List.mem_singleton.1 h]
  | more piece rest inside ih =>
    rw [lines_append_newline rest inside] at h
    rcases List.mem_cons.1 h with rfl | later
    · exact fun member => inside (mem_of_mem_dropReturn member)
    · exact ih later

/-- Lines that are written are found again between the newlines. -/
theorem splitOn_unlines {lines : List String} (inside : ∀ line ∈ lines, '\n' ∉ line.toList) :
    (unlines lines).toList.splitOn '\n' = lines.map String.toList ++ [[]] := by
  induction lines with
  | nil => rfl
  | cons line lines ih =>
    have rest := ih fun line' member => inside line' (List.mem_cons_of_mem _ member)
    have written : (unlines (line :: lines)).toList =
        line.toList ++ '\n' :: (unlines lines).toList := by
      rw [unlines_cons, String.toList_append, String.toList_append, List.append_assoc]
      rfl
    rw [written, List.splitOn_append_cons_self_of_not_mem (inside line List.mem_cons_self), rest]
    rfl

end Text

theorem Lists.isField_tag {listing tag : String} {t : Instant} (h : Lists listing tag t) :
    IsField tag := by
  obtain ⟨line, present, -, first, -⟩ := h
  have piece : tag.toList ∈ line.splitOn '\t' := List.mem_of_getElem? first
  refine ⟨not_mem_of_mem_splitOn piece, ?_⟩
  intro member
  exact newline_not_mem_of_mem_lines present (mem_of_mem_splitOn piece member)

namespace Calendar

theorem Instant.isField_date (t : Instant) : IsField t.date.text := by
  have whole := List.all_eq_true.1 t.all_inSeconds
  have absent {c : Char} (h : inSeconds c = false) : c ∉ t.date.text.toList := by
    rw [Date.text, String.toList_ofList]
    intro member
    rw [whole c (List.mem_append_left _ member)] at h
    cases h
  exact ⟨absent (by decide), absent (by decide)⟩

theorem AgeUnit.isField_phrase (unit : AgeUnit) (n : Int) : IsField (unit.phrase n) := by
  have number {c : Char} (digit : c.isDigit = false) (sign : c ≠ '-') :
      c ∉ (toString n).toList := by
    intro member
    rcases isDigit_or_sign_of_mem_toString member with isDigit | isSign
    · rw [digit] at isDigit
      cases isDigit
    · exact sign isSign
  have absent {c : Char} (digit : c.isDigit = false) (sign : c ≠ '-')
      (rest : c ∉ (" " ++ unit.name ++ (if n = 1 then "" else "s") ++ " ago").toList) :
      c ∉ (unit.phrase n).toList := by
    simp only [String.toList_append, List.mem_append, not_or] at rest
    simp only [phrase, String.toList_append, List.mem_append, not_or]
    exact ⟨⟨⟨⟨number digit sign, rest.1.1.1⟩, rest.1.1.2⟩, rest.1.2⟩, rest.2⟩
  constructor
  · apply absent (by decide) (by decide)
    split <;> cases unit <;> decide
  · apply absent (by decide) (by decide)
    split <;> cases unit <;> decide

theorem Instant.isField_ago (start now : Instant) : IsField (start.ago now) := by
  unfold Instant.ago
  rcases Age.shows_or_eq_zero (Age.normal_between start now) with ⟨unit, n, shown⟩ | zero
  · rw [Age.text_of_shows shown]
    exact unit.isField_phrase n
  · rw [zero]
    decide

end Calendar

theorem Image.newline_not_mem_of_ofDescription {description image : String}
    (h : ofDescription description = .ok image) : '\n' ∉ image.toList := by
  obtain ⟨span, same⟩ := ofDescription_eq_ok_iff.1 h
  rw [← same]
  exact span.oneLine

namespace Report

variable {κ : Type} {client : Query → Except κ String} {o : Options} {now : Instant}
  {repo : String} {report : RepositoryReport} {e : Entry}

theorem toList_ageLine (e : Entry) :
    e.ageLine.toList =
      e.tag.toList ++ '\t' :: (e.published.text.toList ++ '\t' :: e.age.toList) := by
  simp [Entry.ageLine]

/-- Whether an entry keeps to its line: what stands before a tab has no tab and no newline, and the
image, which ends its line, has no newline. -/
structure Entry.Legible (e : Entry) : Prop where
  tag : IsField e.tag
  date : IsField e.published.text
  age : IsField e.age
  image : ∀ image, e.image = some image → '\n' ∉ image.toList

namespace Entry.Legible

theorem splitOn_ageLine (h : e.Legible) :
    e.ageLine.toList.splitOn '\t' = [e.tag.toList, e.published.text.toList, e.age.toList] := by
  rw [toList_ageLine, List.splitOn_append_cons_self_of_not_mem h.tag.1,
    List.splitOn_append_cons_self_of_not_mem h.date.1, List.splitOn_eq_singleton h.age.1]

theorem newline_not_mem_ageLine (h : e.Legible) : '\n' ∉ e.ageLine.toList := by
  simp [toList_ageLine, h.tag.2, h.date.2, h.age.2]

/-- The first tab of a line with an image is the one behind the tag. -/
theorem span_imageLine (h : e.Legible) (image : String) :
    (e.tag ++ "\t" ++ image).toList.span (· ≠ '\t') = (e.tag.toList, '\t' :: image.toList) := by
  have written : (e.tag ++ "\t" ++ image).toList = e.tag.toList ++ '\t' :: image.toList := by
    simp
  have first := takeWhile_append_separator h.tag.1 image.toList
  have whole := List.takeWhile_append_dropWhile (p := (· ≠ '\t'))
    (l := e.tag.toList ++ '\t' :: image.toList)
  rw [first] at whole
  rw [written, List.span_eq_takeWhile_dropWhile, first, List.append_cancel_left whole]

theorem newline_not_mem_imageLine (h : e.Legible) {line : String} (own : line ∈ e.imageLines) :
    '\n' ∉ line.toList := by
  rw [Entry.imageLines, Option.mem_toList, Option.map_eq_some_iff] at own
  obtain ⟨image, known, rfl⟩ := own
  simp [h.tag.2, h.image image known]

end Entry.Legible

section Lines

variable {entries : List Entry} {line : String}

theorem newline_not_mem_displayHeading (oneLine : '\n' ∉ repo.toList) :
    '\n' ∉ (displayHeading repo).toList := by
  unfold displayHeading
  rw [String.toList_append, String.toList_append, List.mem_append, List.mem_append, not_or, not_or]
  refine ⟨⟨?_, oneLine⟩, ?_⟩
  · decide +kernel
  · decide

theorem newline_not_mem_displayLines (oneLine : '\n' ∉ repo.toList)
    (legible : ∀ e ∈ entries, e.Legible) (h : line ∈ displayLines o repo entries) :
    '\n' ∉ line.toList := by
  unfold displayLines at h
  split at h
  · simp only [List.mem_cons, List.mem_map] at h
    rcases h with rfl | rfl | ⟨e, he, rfl⟩
    · exact newline_not_mem_displayHeading oneLine
    · decide
    · exact (legible e he).newline_not_mem_ageLine
  · cases h

theorem newline_not_mem_docLines (legible : ∀ e ∈ entries, e.Legible)
    (h : line ∈ docLines o entries) : '\n' ∉ line.toList := by
  unfold docLines at h
  split at h
  · simp only [List.mem_cons, List.mem_flatMap] at h
    rcases h with rfl | rfl | rfl | ⟨e, he, own⟩
    · decide
    · decide
    · decide
    · exact (legible e he).newline_not_mem_imageLine own
  · cases h

/-- Entries that all have images have one line each, with the tag and the image. -/
theorem forall₂_imageLines (legible : ∀ e ∈ entries, e.Legible)
    (known : ∀ e ∈ entries, ∃ image, e.image = some image) :
    List.Forall₂
      (fun line e => ∃ image, e.image = some image ∧
        line.toList.span (· ≠ '\t') = (e.tag.toList, '\t' :: image.toList))
      (entries.flatMap Entry.imageLines) entries := by
  induction entries with
  | nil => exact .nil
  | cons e entries ih =>
    have rest := ih (fun e' he => legible e' (List.mem_cons_of_mem _ he))
      fun e' he => known e' (List.mem_cons_of_mem _ he)
    obtain ⟨image, same⟩ := known e List.mem_cons_self
    have own : e.imageLines = [e.tag ++ "\t" ++ image] := by
      rw [Entry.imageLines, same]
      rfl
    rw [List.flatMap_cons, own]
    exact .cons ⟨image, same, (legible e List.mem_cons_self).span_imageLine image⟩ rest

end Lines

namespace Completes

/-- What a complete report shows of a release is legible, whatever the client answers. -/
theorem legible (complete : Completes client o now repo report) (he : e ∈ report.supported) :
    e.Legible := by
  obtain ⟨⟨listing, -, listed⟩, -⟩ := complete.lists
  obtain ⟨-, releases, -, described⟩ := complete
  obtain ⟨release, -, own⟩ := exists_left_of_forall₂ described he
  refine ⟨(listed e he).isField_tag, e.publishedAt.isField_date, ?_, ?_⟩
  · rw [own.age_eq]
    exact Instant.isField_ago _ now
  · intro image known
    cases wanted : o.doc with
    | true =>
      obtain ⟨image', same, description, -, found⟩ := own.image_of_doc wanted
      obtain rfl := Option.some.inj (known.symm.trans same)
      exact Image.newline_not_mem_of_ofDescription found
    | false =>
      rw [own.no_image wanted] at known
      cases known

/-- No line of a complete report has a newline, unless the name of the repository has one. -/
theorem newline_not_mem_lines (complete : Completes client o now repo report)
    (oneLine : '\n' ∉ repo.toList) {line : String} (h : line ∈ report.lines o) :
    '\n' ∉ line.toList := by
  have legible : ∀ e ∈ report.supported, e.Legible := fun _ => complete.legible
  rw [RepositoryReport.lines, List.append_assoc, List.mem_append, List.mem_append,
    complete.repo_eq] at h
  rcases h with displayed | imaged | last
  · exact newline_not_mem_displayLines oneLine legible displayed
  · exact newline_not_mem_docLines legible imaged
  · rw [List.mem_singleton.1 last]
    decide

/-- The lines of a complete report are the pieces of its text, with an empty one after the last
newline. -/
theorem splitOn_lines (complete : Completes client o now repo report)
    (oneLine : '\n' ∉ repo.toList) :
    (unlines (report.lines o)).toList.splitOn '\n' =
      (if o.display then
        (displayHeading repo).toList :: [] ::
          report.supported.map (String.toList ∘ Entry.ageLine)
      else []) ++
      (if o.doc then
        [] :: docHeading.toList :: [] ::
          (report.supported.flatMap Entry.imageLines).map String.toList
      else []) ++ [[], []] := by
  rw [splitOn_unlines fun _ => complete.newline_not_mem_lines oneLine]
  rw [RepositoryReport.lines, displayLines, docLines, complete.repo_eq]
  cases o.display <;> cases o.doc <;> simp

end Completes

/-- A text report that succeeds is complete, and no answer of a client garbles it. Whatever the
listing and the descriptions are, its newlines end the lines that it is meant to have and no others.
The tabs of a line with an age part its three fields, and the first tab of a line with an image
stands between the tag and the image. -/
theorem repository_legible (client : Query → Except κ String) (o : Options) (now : Instant)
    (repo : String) (oneLine : '\n' ∉ repo.toList) (text : o.json = false)
    (report : RepositoryReport)
    (h : ((repository o now repo).run client none).result = .ok report) :
    Completes client o now repo report ∧
    ∃ written aged imaged,
      ((repository o now repo).run client none).output = Utf8.encode written ∧
      written.toList.splitOn '\n' =
        (if o.display then (displayHeading repo).toList :: [] :: aged else []) ++
        (if o.doc then [] :: docHeading.toList :: [] :: imaged else []) ++ [[], []] ∧
      List.Forall₂
        (fun line e => line.splitOn '\t' =
          [e.tag.toList, e.published.text.toList, e.age.toList]) aged report.supported ∧
      (o.doc = true → List.Forall₂
        (fun line e => ∃ image, e.image = some image ∧
          line.span (· ≠ '\t') = (e.tag.toList, '\t' :: image.toList))
        imaged report.supported) := by
  have complete := repository_eq_ok_iff.1 h
  have legible : ∀ e ∈ report.supported, e.Legible := fun _ => complete.legible
  refine ⟨complete, unlines (report.lines o), _, _, ?_, complete.splitOn_lines oneLine, ?_, ?_⟩
  · rw [complete.shows.output_eq, Options.written, if_neg (by simp [text])]
  · rw [List.forall₂_map_left_iff, List.forall₂_same]
    exact fun e he => (legible e he).splitOn_ageLine
  · intro wanted
    rw [List.forall₂_map_left_iff]
    apply forall₂_imageLines legible
    intro e he
    exact Option.isSome_iff_exists.1 ((complete.isSome_image_iff he).2 wanted)

/-- A tag with a line break of another kind and a quote, and an image with a tab, a backtick and a
carriage return. -/
theorem repository_legible_hostile :
    let client : Query → Except Unit String := fun
      | .list _ => .ok "v1.0.0\u2028\"\ta\r\tb\t2023-01-01T00:00:00Z\r\n"
      | .view _ _ => .ok "\n\x60docker pull x\ty\x60\r:\x60\n"
    let o : Options := { doc := true, policy := ⟨⟨0⟩, ⟨0⟩⟩ }
    let now : Instant := { date := { year := 2023, month := 3, day := 1 }, second := 0, nanos := 0 }
    ∃ report written aged imaged,
      ((repository o now "a/b").run client none).result = .ok report ∧
      ((repository o now "a/b").run client none).output = Utf8.encode written ∧
      written.toList.splitOn '\n' =
        [(displayHeading "a/b").toList, [], aged, [], docHeading.toList, [], imaged, [], []] ∧
      aged.splitOn '\t' =
        ["v1.0.0\u2028\"".toList, "2023-01-01".toList, "2 months ago".toList] ∧
      imaged.span (· ≠ '\t') = ("v1.0.0\u2028\"".toList, '\t' :: "x\ty\x60\r:".toList) := by
  intro client o now
  let report : RepositoryReport :=
    ⟨"a/b", [⟨"v1.0.0\u2028\"",
      { date := { year := 2023, month := 1, day := 1 }, second := 0, nanos := 0 },
      "2 months ago", some "x\ty\x60\r:"⟩]⟩
  have reported : ((repository o now "a/b").run client none).result = .ok report := by
    decide +kernel
  obtain ⟨-, written, aged, imaged, encoded, lines, ages, images⟩ :=
    repository_legible client o now "a/b" (by decide) rfl report reported
  obtain ⟨age, _, age_eq, none, rfl⟩ := List.forall₂_cons_right_iff.1 ages
  obtain rfl := List.forall₂_nil_right_iff.1 none
  obtain ⟨image, _, ⟨_, known, image_eq⟩, none, rfl⟩ := List.forall₂_cons_right_iff.1 (images rfl)
  obtain rfl := List.forall₂_nil_right_iff.1 none
  obtain rfl := Option.some.inj known
  exact ⟨report, written, age, image, reported, encoded, lines, age_eq, image_eq⟩

end Report

end ReleaseSupport
