import ParserTables.Proofs.Command.Changes
import ParserTables.Proofs.Command.Effects

/-!
# Reporting and results

How a run reports has no influence on what it does. The course of a run depends on its job and on
the files alone (`perform_run`), and the format and the wish for a quiet run are looked at when
all is done. So the exit code, the files and the source are the same with every format, and in a
quiet run (`ending_alike`). The streams take everything here, and then a run is what
`runOn_of_takesAll` says it is.

A quiet run has no diagnostics. But the error stream is a file as well, so source can be put
there; nothing else appears on it (`errorText_ending_quiet`).
-/

namespace ParserTables.Command

/-! ### Files and streams -/

/-- The text in the file at a path. A file that is missing, or cannot be read, has no text. -/
def FileTree.textAt (t : FileTree) (path : List String) : String :=
  match t.files.lookup path with
  | some (.bytes content) => (String.fromUTF8? content).getD ""
  | _ => ""

/-- The stream for errors, as a file. -/
def errorStream : List String := ["dev", "stderr"]

/-- The text on the error stream after a run: what has been put into it as a file, and then the
diagnostics. -/
def errorText (r : Outcome × FileTree) : String := r.2.textAt errorStream ++ r.1.diagnostics

/-- The file that a text goes to when it is written to a path, if there can be one. -/
def FileTree.destination? (t : FileTree) (path : String) : Option (List String) :=
  (t.destination path).toOption

/-- When a process starts there is an error stream, with nothing on it. -/
theorem lookup_errorStream_ofFiles (files : List (List String × ByteArray)) :
    (FileTree.ofFiles files).files.lookup errorStream = some (.bytes .empty) := by
  have hfiles : (files.map fun f => (["tmp", "work"] ++ f.1, Content.bytes f.2)).lookup
      errorStream = none := by
    refine List.lookup_eq_none_iff.2 fun f hf => ?_
    obtain ⟨g, -, rfl⟩ := List.mem_map.1 hf
    exact bne_iff_ne.2 (by simp [errorStream])
  have hdevices : FileTree.usualDevices.lookup errorStream = some (.bytes .empty) := by
    simp [FileTree.usualDevices, errorStream, List.lookup_cons]
  rw [FileTree.ofFiles, List.lookup_append, hfiles, hdevices]
  rfl

section Writing

variable {file other : List String} {text path : String} {t : FileTree}

theorem fromUTF8?_toUTF8 (s : String) : String.fromUTF8? s.toUTF8 = some s := by
  simp only [String.fromUTF8?, String.toUTF8_eq_toByteArray, dif_pos s.isValidUTF8]
  rfl

/-- What is written to a path changes no other file than the one that the path leads to. -/
theorem textAt_write_of_ne (hother : t.destination? path ≠ some other) :
    (t.write path text).2.textAt other = t.textAt other := by
  rw [FileTree.write]
  cases hdestination : t.destination path with
  | error e => rfl
  | ok file =>
      have hne : other ≠ file := by
        rintro rfl
        exact hother (by rw [FileTree.destination?, hdestination]; rfl)
      rw [FileTree.textAt, FileTree.textAt]
      dsimp only
      rw [FileTree.lookup_put_of_ne hne]

/-- A text that is written to a path appears in the file that the path leads to. -/
theorem textAt_write {content : ByteArray} (h : t.destination? path = some file)
    (hfile : t.files.lookup file = some (.bytes content)) (text : String) :
    (t.write path text).2.textAt file = text := by
  have hdestination : t.destination path = .ok file := by
    rw [FileTree.destination?] at h
    cases hpath : t.destination path with
    | error e => rw [hpath] at h; cases h
    | ok other => rw [hpath] at h; cases h; rfl
  have hheld := (FileTree.put_spec t.fresh file text t.files).2
  rw [hfile, Option.getD_some, Content.write] at hheld
  rw [FileTree.write_of_destination hdestination, FileTree.textAt]
  dsimp only
  rw [hheld]
  simp only [fromUTF8?_toUTF8, Option.getD_some]

end Writing

/-! ### Runs on streams that take everything -/

/-- How a run with the files of a tree ends, and the tree that it leaves behind. -/
def runIn (t : FileTree) (name : String) (args : List String) : Outcome × FileTree :=
  (run FileTree.access name args).run t

/-- How a run on this course ends. Only here the ways of reporting are looked at. -/
def Course.ending (t : FileTree) (i : Invocation) : Course → Outcome × FileTree
  | .failed message => (Command.failed i message, t)
  | .source _ none text => ({ code := 0, output := text }, t)
  | .source target (some path) text =>
    (afterWriting i target path (t.write path text).1, (t.write path text).2)
  | .checked input document => ({ code := 0, output := report i input document }, t)

theorem finish_access_run (t : FileTree) (i : Invocation) (course : Course) :
    (course.finish FileTree.access i).run t = course.ending t i := by
  cases course with
  | failed message => rfl
  | source target out text => cases out <;> rfl
  | checked input document =>
      rw [Course.finish, Course.ending]
      by_cases htext : report i input document = ""
      · rw [announce, if_pos htext, htext]
        rfl
      · rw [announce_run htext rfl]
        rfl

/-- A run takes the course of its job, and that the diagnostics are put on the error stream does
not change how it ends. -/
theorem runIn_of_request {args : List String} {i : Invocation} (h : request args = .run i)
    (t : FileTree) (name : String) : runIn t name args = (courseIn t i.job).ending t i := by
  have hconclude (o : Outcome) (t : FileTree) : (conclude FileTree.access o).run t = (o, t) := by
    rw [conclude]
    split <;> rfl
  have hperform : (perform FileTree.access i).run t = (courseIn t i.job).ending t i :=
    (perform_run readsTree_access i t).trans (finish_access_run t i _)
  rw [runIn, run, h]
  exact (run_bind_of_run_eq hperform _).trans (hconclude _ _)

/-- On streams that take everything, a run ends in the same way and leaves the same files behind. -/
theorem runOn_of_takesAll {σ τ : Type} {streams : Streams σ τ}
    (houtput : streams.output.TakesAll) (herrors : streams.errors.TakesAll) (t : FileTree) (o : σ)
    (e : τ) (name : String) (args : List String) :
    (runOn streams t o e name args).1 = (runIn t name args).1 ∧
      (runOn streams t o e name args).2.tree = (runIn t name args).2 := by
  cases hrequest : request args with
  | run i =>
      obtain ⟨r, hr, hend, htree, -⟩ := runOn_of_request hrequest name
      rw [hend, htree, concluded_of_takesAll herrors, runIn_of_request hrequest]
      cases hr with
      | failed hcourse => rw [hcourse]; exact ⟨rfl, rfl⟩
      | silent hcourse htext => rw [hcourse, Course.ending, htext]; exact ⟨rfl, rfl⟩
      | written hcourse => rw [hcourse]; exact ⟨rfl, rfl⟩
      | printed hcourse hw =>
          subst hw
          rw [hcourse, Written.success_eq_ok_of_failure (houtput _ _)]
          exact ⟨rfl, rfl⟩
      | reported hcourse htext hw =>
          subst hw
          rw [hcourse, Written.success_eq_ok_of_failure (houtput _ _)]
          exact ⟨rfl, rfl⟩
  | _ =>
      rw [runOn, runIn, run, run, hrequest]
      exact ⟨rfl, rfl⟩

/-! ### Results -/

/-- Two runs end alike, the ways of reporting apart: with the same code and the same files, and
with the same source on the output stream if source is asked for. -/
structure SameResults (job : Job) (r r' : Outcome × FileTree) : Prop where
  code : r'.1.code = r.1.code
  files : r'.2 = r.2
  output : job.Generates → r'.1.output = r.1.output

variable (t : FileTree) (job : Job)

/-- How a run reports has no influence on its results. -/
theorem ending_alike (format format' : Format) (quiet quiet' : Bool) :
    SameResults job ((courseIn t job).ending t ⟨job, format, quiet⟩)
      ((courseIn t job).ending t ⟨job, format', quiet'⟩) := by
  cases hcourse : courseIn t job with
  | failed message => exact ⟨rfl, rfl, fun _ => rfl⟩
  | source target out text =>
      cases out with
      | none => exact ⟨rfl, rfl, fun _ => rfl⟩
      | some path =>
          rw [Course.ending, Course.ending]
          cases (t.write path text).1 <;> exact ⟨rfl, rfl, fun _ => rfl⟩
  | checked input document =>
      exact ⟨rfl, rfl, fun hjob => absurd hjob (courseIn_eq_checked hcourse)⟩

/-- Command lines that ask for the same work have the same results. -/
theorem runIn_alike {args args' : List String} {i i' : Invocation} (h : request args = .run i)
    (h' : request args' = .run i') (hjob : i'.job = i.job) (name : String) :
    SameResults i.job (runIn t name args) (runIn t name args') := by
  rw [runIn_of_request h, runIn_of_request h']
  obtain ⟨job, format, quiet⟩ := i
  obtain ⟨job', format', quiet'⟩ := i'
  obtain rfl := hjob
  exact ending_alike t _ format format' quiet quiet'

/-- A quiet run has no diagnostics. -/
theorem ending_quiet_diagnostics (format : Format) (course : Course) :
    (course.ending t ⟨job, format, true⟩).1.diagnostics = "" := by
  cases course with
  | source target out text =>
      cases out with
      | none => rfl
      | some path =>
          rw [Course.ending]
          cases (t.write path text).1 <;> rfl
  | _ => rfl

/-- The file that the source of a job goes to shows up in its course. -/
theorem courseIn_of_out {path : String} (h : job.out? = some path) :
    (∃ message, courseIn t job = .failed message) ∨
      ∃ target text, courseIn t job = .source target (some path) text := by
  cases hcourse : courseIn t job with
  | failed message => exact .inl ⟨message, rfl⟩
  | source target out text =>
      obtain ⟨-, hout, -⟩ := courseIn_eq_source hcourse
      exact .inr ⟨target, text, by rw [← h, hout]⟩
  | checked input document =>
      cases job with
      | check input config => cases h
      | generate input target out config =>
          exact absurd ⟨_, _, _, _, rfl⟩ (courseIn_eq_checked hcourse)

/-- In a quiet run nothing appears on the error stream, unless the source goes there. -/
theorem errorText_ending_quiet (ht : t.files.lookup errorStream = some (.bytes .empty))
    (format : Format) :
    let r := (courseIn t job).ending t ⟨job, format, true⟩
    (job.out?.bind t.destination? ≠ some errorStream → errorText r = "") ∧
    (job.out?.bind t.destination? = some errorStream →
      errorText r = (sourceIn t job).getD "") := by
  have hempty : t.textAt errorStream = "" := by
    rw [FileTree.textAt, ht]
    rfl
  dsimp only
  rw [errorText, ending_quiet_diagnostics, String.append_empty]
  refine ⟨fun hout => ?_, fun hout => ?_⟩
  · cases hcourse : courseIn t job with
    | failed message => exact hempty
    | checked input document => exact hempty
    | source target out text =>
        cases out with
        | none => exact hempty
        | some path =>
            rw [(courseIn_eq_source hcourse).2.1, Option.bind_some] at hout
            exact (textAt_write_of_ne hout).trans hempty
  · obtain ⟨path, hpath, hstream⟩ := Option.bind_eq_some_iff.1 hout
    obtain ⟨message, hcourse⟩ | ⟨target, text, hcourse⟩ := courseIn_of_out t job hpath
    · rw [sourceIn_eq_none hcourse, hcourse]
      exact hempty
    · rw [(courseIn_eq_source hcourse).2.2, hcourse]
      exact textAt_write hstream ht text

/-! ### Command lines -/

/-- The options about reporting do not affect the results of a command line that is accepted.

A run can be kept quiet by an option before the command. Then nothing appears on the error
stream, unless the path for the source leads to this very stream, where the source then is all
that appears. And an option for the format can be given another value, be written in another way
or be left out, and it can be added where it is accepted. -/
theorem reporting_options_keep_results (t : FileTree)
    (ht : t.files.lookup errorStream = some (.bytes .empty)) (name : String) :
    (∀ before after i, request (before ++ after) = .run i → i.quiet = false →
      "generate" ∉ before → "check" ∉ before → before.getLast? ≠ some "--output" →
      let r' := runIn t name (before ++ "--quiet" :: after)
      request (before ++ "--quiet" :: after) = .run { i with quiet := true } ∧
      SameResults i.job (runIn t name (before ++ after)) r' ∧
      (i.job.out?.bind t.destination? ≠ some errorStream → errorText r' = "") ∧
      (i.job.out?.bind t.destination? = some errorStream →
        errorText r' = (sourceIn t i.job).getD "")) ∧
    ∀ before after o o' i, "--" ∉ before →
      request (before ++ (formatArguments o ++ after)) = .run i →
      (o = none → ¬ (request (before ++ (formatArguments o' ++ after))).IsAnswer) →
      (∃ format, request (before ++ (formatArguments o' ++ after)) = .run { i with format }) ∧
      SameResults i.job (runIn t name (before ++ (formatArguments o ++ after)))
        (runIn t name (before ++ (formatArguments o' ++ after))) := by
  refine ⟨fun before after i h hi hgenerate hcheck hlast => ?_,
    fun before after o o' i hescape h haccepted => ?_⟩
  · have hquiet := request_quiet h hi hgenerate hcheck hlast
    refine ⟨hquiet, runIn_alike t h hquiet rfl name, ?_⟩
    rw [runIn_of_request hquiet]
    exact errorText_ending_quiet t i.job ht i.format
  · have hformat :
        ∃ format, request (before ++ (formatArguments o' ++ after)) = .run { i with format } := by
      cases o with
      | some o => exact request_format h hescape o'
      | none =>
          -- The longer command line is accepted as well, and the shorter one leaves it out.
          have hlonger := haccepted rfl
          cases hrequest : request (before ++ (formatArguments o' ++ after)) with
          | run i' =>
              cases o' with
              | none => exact ⟨i.format, hrequest.symm.trans h⟩
              | some o' =>
                  obtain ⟨format, hshorter⟩ := request_format hrequest hescape none
                  obtain rfl := Request.run.inj (h.symm.trans hshorter)
                  exact ⟨i'.format, rfl⟩
          | _ => rw [hrequest] at hlonger; exact absurd trivial hlonger
    obtain ⟨format, hrequest⟩ := hformat
    exact ⟨⟨format, hrequest⟩, runIn_alike t h hrequest rfl name⟩

/-- Source for a document, to be put on the error stream. -/
def sourceForErrors : Job := .generate "doc" .interpreted (some "/dev/stderr") none

theorem destination?_sourceForErrors :
    sourceForErrors.out?.bind furnished.destination? = some errorStream := by
  decide +kernel

/-- A document that is missing is not complained about in a quiet run, source that is put on the
error stream is all that appears there, and a check ends with the same code when the format of
its report is given in another way. -/
theorem reporting_options_keep_results_furnished :
    errorText (runIn furnished "lrgen"
      ["--quiet", "generate", "missing", "--target", "rust"]) = "" ∧
    errorText (runIn furnished "lrgen"
      ["--quiet", "generate", "doc", "--target", "python", "--out", "/dev/stderr"]) =
      (sourceIn furnished sourceForErrors).getD "" ∧
    (runIn furnished "lrgen" ["check", "--output=text", "doc"]).1.code =
      (runIn furnished "lrgen" ["check", "--output", "json", "doc"]).1.code := by
  have hstream : furnished.files.lookup errorStream = some (.bytes .empty) :=
    lookup_errorStream_ofFiles _
  obtain ⟨hquiet, hformat⟩ := reporting_options_keep_results furnished hstream "lrgen"
  refine ⟨?_, ?_, ?_⟩
  · obtain ⟨-, -, hempty, -⟩ := hquiet [] ["generate", "missing", "--target", "rust"]
      ⟨.generate "missing" .compiled none none, .text, false⟩ rfl rfl nofun nofun nofun
    exact hempty nofun
  · obtain ⟨-, -, -, hsource⟩ := hquiet []
      ["generate", "doc", "--target", "python", "--out", "/dev/stderr"]
      ⟨sourceForErrors, .text, false⟩ rfl rfl nofun nofun nofun
    exact hsource destination?_sourceForErrors
  · have hjoined : formatArguments (some ⟨.text, true⟩) = ["--output=text"] := by decide
    have happart : formatArguments (some ⟨.json, false⟩) = ["--output", "json"] := by decide
    obtain ⟨-, hsame⟩ := hformat ["check"] ["doc"] (some ⟨.json, false⟩) (some ⟨.text, true⟩)
      ⟨.check "doc" none, .json, false⟩ (by decide) rfl nofun
    simp only [hjoined, happart, List.cons_append, List.nil_append] at hsame
    exact hsame.code

/-- A quiet run does put something on the error stream if it is told to put the source there. -/
theorem quiet_run_fills_error_stream :
    ¬ ∀ (t : FileTree) (name : String) (args : List String) (i : Invocation),
      t.files.lookup errorStream = some (.bytes .empty) → request args = .run i →
      i.quiet = false → errorText (runIn t name ("--quiet" :: args)) = "" := by
  intro h
  have hstream : furnished.files.lookup errorStream = some (.bytes .empty) :=
    lookup_errorStream_ofFiles _
  have hrequest : request ["--quiet", "generate", "doc", "--target", "python", "--out",
      "/dev/stderr"] = .run ⟨sourceForErrors, .text, true⟩ := rfl
  have hempty := h furnished "lrgen"
    ["generate", "doc", "--target", "python", "--out", "/dev/stderr"]
    ⟨sourceForErrors, .text, false⟩ hstream rfl rfl
  rw [runIn_of_request hrequest] at hempty
  have htext := (errorText_ending_quiet furnished sourceForErrors hstream .text).2
    destination?_sourceForErrors
  have hsource : (sourceIn furnished sourceForErrors).getD "" = "" := htext.symm.trans hempty
  revert hsource
  decide +kernel

end ParserTables.Command
