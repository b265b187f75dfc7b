import ReleaseSupport.Proofs.Calendar.Stamp
import ReleaseSupport.Proofs.Json.Printed
import ReleaseSupport.Proofs.Report.All
import ReleaseSupport.Proofs.Text.Utf8

/-!
The JSON report. What it writes is the text of one document and a newline, and the document has one
reading, which shows every report in order with nothing lost: reports that differ have documents
that differ.
-/

set_option autoImplicit false
set_option relaxedAutoImplicit false

namespace ReleaseSupport.Report

open ReleaseSupport.Calendar
open ReleaseSupport.Json
open ReleaseSupport.Text

/-- The members of an object that shows an entry: its tag, its date, its stamp, its age, and an
image exactly if the entry has one. -/
structure Entry.ShownBy (e : Entry) (members : List (String × Value)) : Prop where
  keys_eq : members.map Prod.fst =
    ["tag", "published", "published_at", "age"] ++ if e.image.isSome then ["image"] else []
  tag_eq : members.lookup "tag" = some (.text e.tag)
  published_eq : members.lookup "published" = some (.text e.published.text)
  publishedAt_eq : members.lookup "published_at" = some (.text e.publishedAt.stamp)
  age_eq : members.lookup "age" = some (.text e.age)
  image_eq : members.lookup "image" = e.image.map Value.text

/-- A value that shows a report: the repository and the list of the supported releases. -/
def RepositoryReport.ShownBy (r : RepositoryReport) (document : Value) : Prop :=
  ∃ supported, List.Forall₂ Entry.ShownBy r.supported supported ∧
    document = .object
      [("repo", .text r.repo), ("supported", .list (supported.map Value.object))]

namespace Entry

def members (e : Entry) : List (String × Value) :=
  [("tag", .text e.tag), ("published", .text e.published.text),
    ("published_at", .text e.publishedAt.stamp), ("age", .text e.age)] ++
    (e.image.map fun image => ("image", Value.text image)).toList

theorem value_toJson (e : Entry) : e.toJson.value = .object e.members := by
  unfold toJson members
  cases e.image <;> rfl

theorem shownBy_members (e : Entry) : e.ShownBy e.members := by
  obtain ⟨tag, publishedAt, age, image⟩ := e
  cases image with
  | none => exact ⟨rfl, rfl, rfl, rfl, rfl, rfl⟩
  | some image => exact ⟨rfl, rfl, rfl, rfl, rfl, rfl⟩

/-- No two entries are shown alike. -/
theorem shownBy_leftUnique : Relator.LeftUnique Entry.ShownBy := by
  intro e e' members h h'
  have tag : e.tag = e'.tag := by
    have same := h.tag_eq.symm.trans h'.tag_eq
    simpa using same
  have publishedAt : e.publishedAt = e'.publishedAt := by
    have same := h.publishedAt_eq.symm.trans h'.publishedAt_eq
    apply Instant.stamp_injective
    simpa using same
  have age : e.age = e'.age := by
    have same := h.age_eq.symm.trans h'.age_eq
    simpa using same
  have image : e.image = e'.image := by
    have same := h.image_eq.symm.trans h'.image_eq
    have injective : Function.Injective Value.text := fun _ _ => Value.text.inj
    exact Option.map_injective injective same
  obtain ⟨_, _, _, _⟩ := e
  obtain ⟨_, _, _, _⟩ := e'
  rw [Entry.mk.injEq]
  exact ⟨tag, publishedAt, age, image⟩

end Entry

namespace RepositoryReport

theorem shownBy_value_toJson (r : RepositoryReport) : r.ShownBy r.toJson.value := by
  refine ⟨r.supported.map Entry.members, ?_, ?_⟩
  · rw [List.forall₂_map_right_iff, List.forall₂_same]
    exact fun e _ => e.shownBy_members
  · have listed : Json.itemValues (r.supported.map Entry.toJson) =
        (r.supported.map Entry.members).map Value.object := by
      rw [Json.itemValues_eq, List.map_map, List.map_map]
      exact List.map_congr_left fun e _ => e.value_toJson
    rw [← listed]
    rfl

/-- No two reports are shown alike. -/
theorem shownBy_leftUnique : Relator.LeftUnique RepositoryReport.ShownBy := by
  rintro r r' _ ⟨supported, each, rfl⟩ ⟨supported', each', same⟩
  simp only [Value.object.injEq, List.cons.injEq, Prod.mk.injEq, Value.text.injEq,
    Value.list.injEq, true_and, and_true] at same
  obtain ⟨repo, entries⟩ := same
  have injective : Function.Injective Value.object := fun _ _ => Value.object.inj
  obtain rfl := List.map_injective_iff.2 injective entries
  obtain ⟨_, _⟩ := r
  obtain ⟨_, _⟩ := r'
  rw [RepositoryReport.mk.injEq]
  exact ⟨repo, Entry.shownBy_leftUnique.forall₂ each each'⟩

end RepositoryReport

/-- The value of a document: one object for each report, in order. -/
def values (reports : List RepositoryReport) : List Value := reports.map fun r => r.toJson.value

theorem shownBy_values (reports : List RepositoryReport) :
    List.Forall₂ RepositoryReport.ShownBy reports (values reports) := by
  rw [values, List.forall₂_map_right_iff, List.forall₂_same]
  exact fun r _ => r.shownBy_value_toJson

theorem denotes_document (reports : List RepositoryReport) :
    Denotes (document reports) (.list (values reports)) := by
  have whole := denotes_render (Json.list (reports.map RepositoryReport.toJson))
  rwa [Json.value, itemValues_eq, List.map_map] at whole

/-- Different reports have different documents. -/
theorem document_injective : Function.Injective document := by
  intro reports reports' same
  have own := denotes_document reports
  rw [same] at own
  have listed := Value.list.inj (own.unique (denotes_document reports'))
  have shown := shownBy_values reports
  rw [listed] at shown
  exact RepositoryReport.shownBy_leftUnique.forall₂ shown (shownBy_values reports')

section

variable {κ : Type} {client : Query → Except κ String} {o : Options} {now : Instant}

/-- A JSON report that succeeds writes one document and a newline in UTF-8. The document denotes
exactly one value, which is the one that is read from it: a list with one object for each report in
order, which shows the repository, the supported releases in order, and all strings as they are,
with an image exactly if images are wanted. No other reports have the same document. -/
theorem all_json_read_back {repos : List String} {reports : List RepositoryReport}
    (json : o.json = true) (h : ((all o now repos).run client none).result = .ok reports) :
    ((all o now repos).run client none).output = Utf8.encode (document reports ++ "\n") ∧
    Utf8.decode ((all o now repos).run client none).output = document reports ++ "\n" ∧
    (∃ values,
      (∀ value, Denotes (document reports) value ↔ value = .list values) ∧
      Json.read (document reports) = some (.list values) ∧
      List.Forall₂ RepositoryReport.ShownBy reports values) ∧
    (∀ report ∈ reports, ∀ e ∈ report.supported, e.image.isSome = true ↔ o.doc = true) ∧
    ∀ reports', document reports' = document reports → reports' = reports := by
  have complete := complete_of_all_eq_ok h
  have written : ((all o now repos).run client none).output =
      Utf8.encode (document reports ++ "\n") := by
    rw [(all_of_completes complete).output_eq, if_pos json]
  have denoted := denotes_document reports
  refine ⟨written, ?_, ⟨values reports, ?_, read_eq_some_iff.2 denoted, shownBy_values reports⟩,
    ?_, ?_⟩
  · rw [written, Utf8.decode_encode]
  · intro value
    constructor
    · intro other
      exact other.unique denoted
    · rintro rfl
      exact denoted
  · intro report hr e he
    obtain ⟨repo, -, own⟩ := exists_left_of_forall₂ complete hr
    exact own.isSome_image_iff he
  · intro reports' same
    exact document_injective same

end

/-- A repository with a newline, a tag with a quote, an image with a backslash and a letter beyond
ASCII. -/
theorem all_json_read_back_escapes :
    let client : Query → Except Unit String := fun
      | .list _ => .ok "v1.0.0\"\t\t\t2023-01-01T00:00:00Z\n"
      | .view _ _ => .ok "\x60docker pull im\\äge:v1\x60"
    let o : Options := { doc := true, json := true, policy := ⟨⟨0⟩, ⟨0⟩⟩ }
    let now : Instant := { date := { year := 2023, month := 3, day := 1 }, second := 0, nanos := 0 }
    ∃ report values, ((all o now ["a\n/b"]).run client none).result = .ok [report] ∧
      Json.read (document [report]) = some (.list values) ∧
      List.Forall₂ RepositoryReport.ShownBy [report] values ∧
      Utf8.decode ((all o now ["a\n/b"]).run client none).output = document [report] ++ "\n" := by
  intro client o now
  let report : RepositoryReport :=
    ⟨"a\n/b", [⟨"v1.0.0\"",
      { date := { year := 2023, month := 1, day := 1 }, second := 0, nanos := 0 },
      "2 months ago", some "im\\äge:v1"⟩]⟩
  have reported : ((all o now ["a\n/b"]).run client none).result = .ok [report] := by decide +kernel
  obtain ⟨-, decoded, ⟨values, -, read, shown⟩, -, -⟩ := all_json_read_back (by decide) reported
  exact ⟨report, values, reported, read, shown, decoded⟩

end ReleaseSupport.Report
