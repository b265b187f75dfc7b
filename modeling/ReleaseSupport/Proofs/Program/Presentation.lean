import ReleaseSupport.Program
import ReleaseSupport.Proofs.Report.All
import ReleaseSupport.Proofs.Report.Stripped

/-!
Presentation makes no difference to what is reported. Whether a report displays dates, is JSON or is
watched changes neither its queries nor its result, and whether it is watched does not change what
it writes. A report that looks up no images is the one that does, without them. The program writes
the same to the standard output and exits the same way whether it is watched or not.
-/

set_option autoImplicit false
set_option relaxedAutoImplicit false

namespace ReleaseSupport.Report

open ReleaseSupport.Calendar
open ReleaseSupport.CommandLine

variable {κ : Type} {client : Query → Except κ String} {o : Options} {now : Instant}

def Entry.withoutImage (e : Entry) : Entry := { e with image := none }

def RepositoryReport.withoutImages (r : RepositoryReport) : RepositoryReport :=
  { r with supported := r.supported.map Entry.withoutImage }

/-- What is left without images of a complete report is complete if none are wanted. -/
theorem Completes.withoutImages {repo : String} {report : RepositoryReport}
    (complete : Completes client o now repo report) :
    Completes client { o with doc := false } now repo report.withoutImages := by
  obtain ⟨named, releases, supports, described⟩ := complete
  refine ⟨named, releases, supports, List.forall₂_map_right_iff.2 (described.imp ?_)⟩
  intro release e own
  exact ⟨own.tag_eq, own.publishedAt_eq, own.published_eq, own.age_eq, by simp, fun _ => rfl⟩

theorem all_withoutImages {repos : List String} {reports : List RepositoryReport}
    (h : ((all o now repos).run client none).result = .ok reports) :
    ((all { o with doc := false } now repos).run client none).result =
      .ok (reports.map RepositoryReport.withoutImages) := by
  have complete := complete_of_all_eq_ok h
  have without : List.Forall₂ (Completes client { o with doc := false } now) repos
      (reports.map RepositoryReport.withoutImages) :=
    List.forall₂_map_right_iff.2 (complete.imp fun _ _ own => own.withoutImages)
  exact (all_of_completes without).result_eq

/-- How a report is presented changes neither its queries nor its result. -/
theorem all_presented (client : Query → Except κ String) (o : Options) (now : Instant)
    (repos : List String) (display json verbose : Bool) :
    ((all { o with display, json, verbose } now repos).run client none).calls =
        ((all o now repos).run client none).calls ∧
      ((all { o with display, json, verbose } now repos).run client none).result =
        ((all o now repos).run client none).result := by
  have stripped := Script.run_stripped_false client (all o now repos)
  have presented := Script.run_stripped_false client
    (all { o with display, json, verbose } now repos)
  rw [stripped_all] at presented
  exact ⟨presented.1.symm.trans stripped.1, presented.2.symm.trans stripped.2⟩

/-- A report that is watched is like one that is not, in whatever room. -/
theorem all_watched (client : Query → Except κ String) (o : Options) (now : Instant)
    (repos : List String) (verbose : Bool) (room : Option Nat) :
    ((all { o with verbose } now repos).run client room).Alike
      ((all o now repos).run client room) := by
  have stripped := Script.alike_run_stripped_true client (all o now repos) room
  have watched := Script.alike_run_stripped_true client
    (all { o with verbose } now repos) room
  rw [stripped_all_verbose] at watched
  exact watched.symm.trans stripped

end ReleaseSupport.Report

namespace ReleaseSupport.Program

open ReleaseSupport.Calendar
open ReleaseSupport.CommandLine
open ReleaseSupport.Report

theorem stripped_script (gh : String) (s : Settings) (now : Instant) :
    (script gh s now).stripped true = (all (options s) now s.repos).stripped true := by
  unfold script
  split
  · exact Script.stripped_announced _ _
  · rfl

/-- The report of the program is like one that is not watched. -/
theorem script_watched (client : Query → Except Gh.Error String) (gh : String) (s : Settings)
    (now : Instant) (verbose : Bool) :
    ((script gh { s with verbose } now).run client none).Alike
      ((script gh s now).run client none) := by
  have plain := Script.alike_run_stripped_true client (script gh s now) none
  have watched := Script.alike_run_stripped_true client
    (script gh { s with verbose } now) none
  have same : ((all (options { s with verbose }) now s.repos).stripped true) =
      (all (options s) now s.repos).stripped true := stripped_all_verbose (options s) now _ _
  rw [stripped_script] at plain watched
  exact (same ▸ watched).symm.trans plain

theorem reported_of_alike {a b : Run Report.Error Gh.Error (List RepositoryReport)}
    (h : a.Alike b) :
    (reported a).stdout = (reported b).stdout ∧ (reported a).exitCode = (reported b).exitCode := by
  unfold reported
  rw [h.result_eq, h.output_eq]
  cases b.result <;> exact ⟨rfl, rfl⟩

theorem run_of_parse_ok {args : List String} {s : Settings} (h : parse args = .ok s)
    (around : Surroundings) :
    run around args =
      match around.gh with
      | none => withoutGh
      | some path =>
        reported ((script path s around.now).run (Gh.client s.limit around.process) none) := by
  unfold run plan
  rw [h]
  cases around.gh <;> rfl

end ReleaseSupport.Program

namespace ReleaseSupport.Report

open ReleaseSupport.Calendar
open ReleaseSupport.CommandLine

variable {κ : Type}

/-- Whether a report displays dates, is JSON or is watched changes neither its queries nor its
result; whether it is watched does not change what it writes either, in whatever room. If it
succeeds with images, it succeeds without them, with the same reports but for the images. Argument
lists that differ only in whether the program is watched give the same output and exit code. -/
theorem all_however_presented (client : Query → Except κ String) (o : Options) (now : Instant)
    (repos : List String) (display json verbose : Bool) :
    ((all { o with display, json, verbose } now repos).run client none).result =
      ((all o now repos).run client none).result ∧
    ((all { o with display, json, verbose } now repos).run client none).calls =
      ((all o now repos).run client none).calls ∧
    (∀ room, ((all { o with verbose } now repos).run client room).Alike
      ((all o now repos).run client room)) ∧
    (∀ reports, ((all { o with doc := true } now repos).run client none).result = .ok reports →
      ((all { o with doc := false, display, json, verbose } now repos).run client none).result =
        .ok (reports.map RepositoryReport.withoutImages)) ∧
    ∀ (around : Program.Surroundings) (args args' : List String) (s : Settings),
      parse args = .ok s → parse args' = .ok { s with verbose } →
      (Program.run around args').stdout = (Program.run around args).stdout ∧
        (Program.run around args').exitCode = (Program.run around args).exitCode := by
  obtain ⟨calls, result⟩ := all_presented client o now repos display json verbose
  refine ⟨result, calls, all_watched client o now repos verbose, ?_, ?_⟩
  · intro reports h
    have without := all_withoutImages h
    have presented := all_presented client { o with doc := false } now repos display json verbose
    exact presented.2.trans without
  · intro around args args' s plain watched
    rw [Program.run_of_parse_ok plain, Program.run_of_parse_ok watched]
    cases around.gh with
    | none => exact ⟨rfl, rfl⟩
    | some path =>
      exact Program.reported_of_alike (Program.script_watched _ path s around.now verbose)

/-- A repository with an image is reported without it, as JSON, and by a program that is watched. -/
theorem all_however_presented_with_image :
    let client : Query → Except Unit String := fun
      | .list _ => .ok "v1.0.0\t\t\t2023-01-01T00:00:00Z\n"
      | .view _ _ => .ok "\x60docker pull image:v1\x60"
    let o : Options := { doc := true, policy := ⟨⟨0⟩, ⟨0⟩⟩ }
    let now : Instant := { date := { year := 2023, month := 3, day := 1 }, second := 0, nanos := 0 }
    let around : Program.Surroundings := ⟨some "gh", fun _ => .ended (.exited 1) [] [], now⟩
    ∃ report s, ((all o now ["a/b"]).run client none).result = .ok [report] ∧
      report.withoutImages ≠ report ∧
      ((all { o with doc := false, json := true } now ["a/b"]).run client none).result =
        .ok [report.withoutImages] ∧
      parse ["-R", "a/b"] = .ok s ∧ parse ["-vR", "a/b"] = .ok { s with verbose := true } ∧
      (Program.run around ["-vR", "a/b"]).exitCode = (Program.run around ["-R", "a/b"]).exitCode ∧
      (Program.run around ["-vR", "a/b"]).stderr ≠ (Program.run around ["-R", "a/b"]).stderr := by
  intro client o now around
  let report : RepositoryReport :=
    ⟨"a/b", [⟨"v1.0.0", { date := { year := 2023, month := 1, day := 1 }, second := 0, nanos := 0 },
      "2 months ago", some "image:v1"⟩]⟩
  let s : Settings := ⟨["a/b"], false, false, false, false, none, 365, 90⟩
  have reported : ((all o now ["a/b"]).run client none).result = .ok [report] := by decide +kernel
  have plain : parse ["-R", "a/b"] = .ok s := by decide +kernel
  have watched : parse ["-vR", "a/b"] = .ok { s with verbose := true } := by decide +kernel
  obtain ⟨-, -, -, without, -⟩ := all_however_presented client o now ["a/b"] true true false
  obtain ⟨-, -, -, -, same⟩ := all_however_presented client o now ["a/b"] true true true
  have imageless : report.withoutImages ≠ report := by decide
  have alike := (same around _ _ s plain watched).2
  have noted : (Program.run around ["-vR", "a/b"]).stderr ≠
      (Program.run around ["-R", "a/b"]).stderr := by decide +kernel
  exact ⟨report, s, reported, imageless, without [report] reported, plain, watched, alike, noted⟩

end ReleaseSupport.Report
