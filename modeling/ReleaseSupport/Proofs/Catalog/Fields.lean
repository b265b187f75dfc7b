import ReleaseSupport.Gh
import ReleaseSupport.Proofs.Catalog.Table
import ReleaseSupport.Proofs.Catalog.VersionedLines
import ReleaseSupport.Proofs.Pairing
import ReleaseSupport.Proofs.Text.Numeral
import ReleaseSupport.Proofs.Text.Separated

/-!
Fields of a listing. A catalog depends on nothing but the first and the fourth field of the lines,
and a field of a listing on nothing but the bytes of that field, so whatever bytes stand in the
other fields make no difference to the catalog.
-/

set_option autoImplicit false
set_option relaxedAutoImplicit false

namespace ReleaseSupport

open ReleaseSupport.Calendar
open ReleaseSupport.Text

/-- Whether two lines, given by their fields, differ at most in fields that say nothing of a
release. -/
structure SameRelease {α : Type} (fields fields' : List α) : Prop where
  length_eq : fields'.length = fields.length
  first_eq : fields'[0]? = fields[0]?
  fourth_eq : fields'[3]? = fields[3]?

theorem SameRelease.symm {α : Type} {fields fields' : List α} (same : SameRelease fields fields') :
    SameRelease fields' fields :=
  ⟨same.length_eq.symm, same.first_eq.symm, same.fourth_eq.symm⟩

theorem SameRelease.map {α β : Type} {fields fields' : List α} (same : SameRelease fields fields')
    (f : α → β) : SameRelease (fields.map f) (fields'.map f) where
  length_eq := by rw [List.length_map, List.length_map, same.length_eq]
  first_eq := by rw [List.getElem?_map, List.getElem?_map, same.first_eq]
  fourth_eq := by rw [List.getElem?_map, List.getElem?_map, same.fourth_eq]

namespace Text

theorem dropReturn_append_tab (field rest : List Char) :
    dropReturn (field ++ '\t' :: rest) = field ++ '\t' :: dropReturn rest := by
  unfold dropReturn
  by_cases last : rest = []
  · simp [last]
  · have returned : (field ++ '\t' :: rest).getLast? = rest.getLast? := by
      rw [List.getLast?_append_of_ne_nil _ (List.cons_ne_nil _ _),
        List.getLast?_cons_of_ne_nil last]
    rw [returned]
    split
    · rw [List.dropLast_append_of_ne_nil (List.cons_ne_nil _ _), List.dropLast_cons_of_ne_nil last]
    · rfl

/-- A carriage return at the end of a line belongs to its last field. -/
theorem exists_splitOn_dropReturn (line : List Char) :
    ∃ fields last, line.splitOn '\t' = fields ++ [last] ∧
      (dropReturn line).splitOn '\t' = fields ++ [dropReturn last] := by
  induction line using pieces_induction '\t' with
  | last field inside =>
    have inside' : '\t' ∉ dropReturn field := by
      unfold dropReturn
      split
      · exact fun member => inside (List.mem_of_mem_dropLast member)
      · exact inside
    exact ⟨[], field, List.splitOn_eq_singleton inside, List.splitOn_eq_singleton inside'⟩
  | more field rest inside ih =>
    obtain ⟨fields, last, split, split'⟩ := ih
    refine ⟨field :: fields, last, ?_, ?_⟩
    · rw [List.splitOn_append_cons_self_of_not_mem inside, split, List.cons_append]
    · rw [dropReturn_append_tab, List.splitOn_append_cons_self_of_not_mem inside, split',
        List.cons_append]

theorem forall₂_closedLines {R : List Char → List Char → Prop}
    (returned : ∀ piece piece', R piece piece' → R (dropReturn piece) (dropReturn piece'))
    (empty : ∀ piece piece', R piece piece' → (piece = [] ↔ piece' = []))
    {pieces pieces' : List (List Char)} (h : List.Forall₂ R pieces pieces') :
    List.Forall₂ R (closedLines pieces) (closedLines pieces') := by
  induction h with
  | nil => exact List.Forall₂.nil
  | @cons piece piece' pieces pieces' first rest ih =>
    cases rest with
    | nil =>
      have both := empty piece piece' first
      simp only [closedLines, List.isEmpty_iff]
      by_cases last : piece = []
      · rw [if_pos last, if_pos (both.1 last)]
        exact List.Forall₂.nil
      · rw [if_neg last, if_neg (mt both.2 last)]
        exact List.Forall₂.cons first List.Forall₂.nil
    | cons second rest => exact List.Forall₂.cons (returned _ _ first) ih

end Text

namespace SameRelease

/-- What is done to the last field of both lines makes no difference. -/
theorem append_last {α : Type} {fields fields' : List α} {last last' : α}
    (same : SameRelease (fields ++ [last]) (fields' ++ [last'])) (f : α → α) :
    SameRelease (fields ++ [f last]) (fields' ++ [f last']) := by
  have length := same.length_eq
  rw [List.length_append, List.length_append] at length
  have lengths : fields'.length = fields.length := Nat.add_right_cancel length
  have field {i : Nat} (h : (fields' ++ [last'])[i]? = (fields ++ [last])[i]?) :
      (fields' ++ [f last'])[i]? = (fields ++ [f last])[i]? := by
    rw [List.getElem?_append, List.getElem?_append, lengths] at h ⊢
    by_cases before : i < fields.length
    · rwa [if_pos before, if_pos before] at h ⊢
    · rw [if_neg before, if_neg before] at h ⊢
      rw [← List.map_singleton, ← List.map_singleton, List.getElem?_map, List.getElem?_map, h]
  refine ⟨?_, field same.first_eq, field same.fourth_eq⟩
  rw [List.length_append, List.length_append, lengths]
  rfl

theorem eq_nil {line line' : List Char}
    (same : SameRelease (line.splitOn '\t') (line'.splitOn '\t')) (h : line = []) : line' = [] := by
  obtain ⟨length, first, -⟩ := same
  rw [h, List.splitOn_nil] at length first
  obtain ⟨field, split⟩ := List.length_eq_one_iff.1 length
  rw [split] at first
  obtain rfl : field = [] := Option.some.inj first
  have joined : ['\t'].intercalate (line'.splitOn '\t') = line' := List.intercalate_splitOn _
  rw [split, List.intercalate_singleton] at joined
  exact joined.symm

/-- Lines of a text that differ in such fields are lines with the same endings. -/
theorem forall₂_lines {text text' : List Char}
    (h : List.Forall₂ SameRelease (cells '\n' '\t' text) (cells '\n' '\t' text')) :
    List.Forall₂ SameRelease ((lines text).map (List.splitOn '\t'))
      ((lines text').map (List.splitOn '\t')) := by
  rw [cells, cells, List.forall₂_map_left_iff, List.forall₂_map_right_iff] at h
  rw [List.forall₂_map_left_iff, List.forall₂_map_right_iff]
  refine forall₂_closedLines ?_ ?_ h
  · intro line line' same
    obtain ⟨fields, last, split, dropped⟩ := exists_splitOn_dropReturn line
    obtain ⟨fields', last', split', dropped'⟩ := exists_splitOn_dropReturn line'
    rw [split, split'] at same
    rw [dropped, dropped']
    exact same.append_last dropReturn
  · intro line line' same
    exact ⟨same.eq_nil, same.symm.eq_nil⟩

end SameRelease

namespace VersionedLine

/-- What a line says of a release stands in its first and its fourth field. -/
theorem arrival?_of_sameRelease {line line' : List Char}
    (same : SameRelease (line.splitOn '\t') (line'.splitOn '\t')) :
    (of? line).map arrival? = (of? line').map arrival? := by
  have first : firstField line' = firstField line := by
    have heads : (line'.splitOn '\t').headD [] = (line.splitOn '\t').headD [] := by
      rw [List.headD_eq_head?_getD, List.head?_eq_getElem?, same.first_eq,
        ← List.head?_eq_getElem?, ← List.headD_eq_head?_getD]
    rwa [Catalog.headD_splitOn, Catalog.headD_splitOn] at heads
  unfold of?
  rw [first, Option.map_map, Option.map_map]
  congr 1
  funext version
  simp only [Function.comp_apply, arrival?, release?, publishedAt?, fields, tag, first,
    same.fourth_eq, VersionedLine.line]

theorem timed_iff_isSome {v : VersionedLine} : v.Timed ↔ v.arrival? ≠ none := by
  rw [timed_iff, ← Option.isSome_iff_ne_none, arrival?, release?, Option.isSome_map,
    Option.isSome_map, Option.isSome_iff_exists]

theorem arrivalsOf_of_map {vs vs' : List VersionedLine}
    (same : vs'.map arrival? = vs.map arrival?) : arrivalsOf vs' = arrivalsOf vs := by
  have both := congrArg (List.filterMap id) same
  rwa [List.filterMap_map, List.filterMap_map] at both

/-- Lines that say the same of releases are acceptable together. -/
theorem acceptable_of_arrivals {vs vs' : List VersionedLine}
    (same : vs'.map arrival? = vs.map arrival?) (accepted : Acceptable vs) : Acceptable vs' := by
  rw [acceptable_iff] at accepted ⊢
  rw [arrivalsOf_of_map same]
  refine ⟨?_, accepted.2⟩
  intro v' hv'
  rw [timed_iff_isSome]
  have member : v'.arrival? ∈ vs.map arrival? := same ▸ List.mem_map_of_mem hv'
  obtain ⟨v, hv, own⟩ := List.mem_map.1 member
  rw [← own]
  exact timed_iff_isSome.1 (accepted.1 v hv)

end VersionedLine

namespace Catalog

/-- Lines that say the same of releases have the same catalog. -/
theorem ofListing_of_arrivals {listing listing' : String} {c : Catalog}
    (same : (versionedLines listing').map VersionedLine.arrival? =
      (versionedLines listing).map VersionedLine.arrival?)
    (h : ofListing listing = .ok c) : ofListing listing' = .ok c := by
  have accepted := acceptable_of_foldlM ((ofListing_eq listing).symm.trans h)
  obtain ⟨c', run⟩ := exists_foldlM_of_acceptable
    (VersionedLine.acceptable_of_arrivals same accepted)
  have read : ofListing listing' = .ok c' := (ofListing_eq listing').trans run
  obtain ⟨-, held⟩ := holds_of_ofListing h
  obtain ⟨-, held'⟩ := holds_of_ofListing read
  have equal : c' = c := by
    apply eq_of_get?
    intro line
    rw [held'.get?_eq, held.get?_eq, VersionedLine.arrivalsOf_of_map same]
  rw [read, equal]

/-- Fields that say nothing of a release make no difference to a catalog, or to whether there is
one. -/
theorem toOption_ofListing_of_sameRelease {listing listing' : String}
    (h : List.Forall₂ SameRelease (cells '\n' '\t' listing.toList)
      (cells '\n' '\t' listing'.toList)) :
    (ofListing listing').toOption = (ofListing listing).toOption := by
  have arrivals : (versionedLines listing').map VersionedLine.arrival? =
      (versionedLines listing).map VersionedLine.arrival? := by
    have lines := SameRelease.forall₂_lines h
    rw [List.forall₂_map_left_iff, List.forall₂_map_right_iff] at lines
    have said := map_eq_map_of_forall₂
      (f := fun line => (VersionedLine.of? line).map VersionedLine.arrival?)
      (g := fun line => (VersionedLine.of? line).map VersionedLine.arrival?)
      (lines.imp fun _ _ same => VersionedLine.arrival?_of_sameRelease same)
    have both := congrArg (List.filterMap id) said.symm
    rw [List.filterMap_map, List.filterMap_map] at both
    rw [versionedLines, versionedLines, List.map_filterMap, List.map_filterMap]
    exact both
  cases read : ofListing listing with
  | ok c => rw [ofListing_of_arrivals arrivals read]
  | error e =>
    cases read' : ofListing listing' with
    | ok c' =>
      rw [ofListing_of_arrivals arrivals.symm read'] at read
      cases read
    | error e' => rfl

end Catalog

namespace Gh

open ReleaseSupport.Report

theorem nul_not_mem_toString (n : UInt32) : '\x00' ∉ (toString n).toList := by
  intro member
  exact absurd (isDigit_of_mem_repr (n := n.toNat) member) (by decide)

/-- A listing can be asked for if the name of the repository can be an argument. -/
theorem request_list {repo : String} (plain : '\x00' ∉ repo.toList) (limit : Option UInt32) :
    request limit (.list repo) = .ok (arguments limit (.list repo)) := by
  have noNul : (arguments limit (.list repo)).any (fun arg => '\x00' ∈ arg.toList) = false := by
    cases limit with
    | none => simp [arguments, plain]
    | some n => simp [arguments, plain, nul_not_mem_toString]
  rw [request, noNul]
  rfl

theorem client_list {repo : String} (plain : '\x00' ∉ repo.toList) (limit : Option UInt32)
    {process : List String → Outcome} {stdout stderr : List UInt8}
    (succeeds : process (arguments limit (.list repo)) = .ended (.exited 0) stdout stderr) :
    client limit process (.list repo) = .ok (Utf8.decode stdout) := by
  rw [client, request_list plain]
  exact answer_eq_ok_iff.2 ⟨stdout, stderr, succeeds, rfl⟩

/-- What `gh` writes when it succeeds is read field by field: the text of a listing has the lines
and fields of the bytes, and in each field what is read from the bytes of that field alone, which is
the field itself if that is UTF-8. Other bytes in place of fields that say nothing of a release give
the same catalog, or none again. -/
theorem list_fieldwise {repo : String} (plain : '\x00' ∉ repo.toList) (limit : Option UInt32)
    {process : List String → Outcome} {stdout stderr : List UInt8}
    (succeeds : process (arguments limit (.list repo)) = .ended (.exited 0) stdout stderr) :
    ∃ listing, client limit process (.list repo) = .ok listing ∧
      cells '\n' '\t' listing.toList =
        (cells 0x0A 0x09 stdout).map (List.map fun field => (Utf8.decode field).toList) ∧
      (∀ (i j : Nat) (field : String),
        (cells 0x0A 0x09 stdout)[i]?.bind (·[j]?) = some (Utf8.encode field) →
        (cells '\n' '\t' listing.toList)[i]?.bind (·[j]?) = some field.toList) ∧
      ∀ (rows : List (List (List UInt8))) (process' : List String → Outcome) (stderr' : List UInt8),
        List.Forall₂ SameRelease (cells 0x0A 0x09 stdout) rows →
        (∀ row ∈ rows, ∀ field ∈ row, 0x0A ∉ field ∧ 0x09 ∉ field) →
        process' (arguments limit (.list repo)) =
          .ended (.exited 0) (joinCells 0x0A 0x09 rows) stderr' →
        ∃ listing', client limit process' (.list repo) = .ok listing' ∧
          (Catalog.ofListing listing').toOption = (Catalog.ofListing listing).toOption := by
  have fieldwise := Utf8.cells_decode stdout
  refine ⟨Utf8.decode stdout, client_list plain limit succeeds, fieldwise, ?_, ?_⟩
  · intro i j field found
    obtain ⟨row, hr, hf⟩ := Option.bind_eq_some_iff.1 found
    rw [fieldwise, List.getElem?_map, hr, Option.map_some, Option.bind_some, List.getElem?_map, hf,
      Option.map_some, Utf8.decode_encode]
  · intro rows process' stderr' same inside succeeds'
    refine ⟨_, client_list plain limit succeeds', ?_⟩
    have present : rows ≠ [] := by
      rintro rfl
      exact cells_ne_nil (List.forall₂_nil_right_iff.1 same)
    have filled : ∀ row ∈ rows, row ≠ [] := by
      intro row hr
      obtain ⟨fields, hf, own⟩ := exists_left_of_forall₂ same hr
      have some : 0 < fields.length := List.length_pos_iff.2 (ne_nil_of_mem_cells hf)
      exact List.length_pos_iff.1 (own.length_eq ▸ some)
    have replaced := cells_joinCells (by decide) present filled inside
    apply Catalog.toOption_ofListing_of_sameRelease
    rw [fieldwise, Utf8.cells_decode, replaced, List.forall₂_map_left_iff,
      List.forall₂_map_right_iff]
    exact same.imp fun _ _ alike => alike.map _

/-- A sequence that breaks off before a tab, and another one that breaks off before a newline in its
place. -/
theorem list_fieldwise_broken_sequences :
    let time := Utf8.encode "2023-01-01T00:00:00Z"
    let stdout := joinCells 0x0A 0x09 [[Utf8.encode "v1.0.0", [0xE2, 0x82], [], time, []], [[]]]
    let rows := [[Utf8.encode "v1.0.0", [], [0xC3, 0x28], time, [0xF0, 0x9F, 0x92]], [[]]]
    let process : List String → Outcome := fun _ => .ended (.exited 0) stdout []
    let process' : List String → Outcome := fun _ =>
      .ended (.exited 0) (joinCells 0x0A 0x09 rows) []
    ∃ listing', client none process (.list "a/b") =
        .ok "v1.0.0\t\uFFFD\t\t2023-01-01T00:00:00Z\t\n" ∧
      client none process' (.list "a/b") = .ok listing' ∧
      (Catalog.ofListing listing').toOption =
        (Catalog.ofListing "v1.0.0\t\uFFFD\t\t2023-01-01T00:00:00Z\t\n").toOption ∧
      (Catalog.ofListing listing').toOption.map Catalog.releaseCount = some 1 := by
  intro time stdout rows process process'
  have plain : '\x00' ∉ "a/b".toList := by decide
  have split : cells 0x0A 0x09 stdout =
      [[Utf8.encode "v1.0.0", [0xE2, 0x82], [], time, []], [[]]] := by decide +kernel
  have same : List.Forall₂ SameRelease (cells 0x0A 0x09 stdout) rows := by
    rw [split]
    exact .cons ⟨rfl, rfl, rfl⟩ (.cons ⟨rfl, rfl, rfl⟩ .nil)
  have inside : ∀ row ∈ rows, ∀ field ∈ row, 0x0A ∉ field ∧ 0x09 ∉ field := by decide +kernel
  have read : client none process (.list "a/b") =
      .ok "v1.0.0\t\uFFFD\t\t2023-01-01T00:00:00Z\t\n" := by decide +kernel
  have succeeds : process (arguments none (.list "a/b")) = .ended (.exited 0) stdout [] := rfl
  obtain ⟨listing, found, -, -, others⟩ := list_fieldwise plain none succeeds
  obtain rfl := Except.ok.inj (read.symm.trans found)
  obtain ⟨listing', found', equal⟩ := others rows process' [] same inside rfl
  refine ⟨listing', read, found', equal, ?_⟩
  rw [equal]
  decide +kernel

end Gh

end ReleaseSupport
