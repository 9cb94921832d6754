import ParserTables.Proofs.Command.Course
import ParserTables.Proofs.Command.Files
import ParserTables.Proofs.Sink

/-!
# What a run does to the files

A run can fail in two ways. It finds a fault in its arguments or its inputs, or source cannot be
generated: then nothing has been done yet. Or a file or a stream refuses what is put there. A
refusal can leave something behind: the beginning of the text, or source in a file that could not
be announced (`FailsInWriting`). Where there is room and the streams take everything, every
failure is of the first kind, so it leaves the files as they were and prints nothing.

A check reads the same inputs as generating does and goes through the same work for every target,
so it succeeds exactly if generating does for each of them (`check_code_eq_zero_iff_generate`).
-/

namespace ParserTables

theorem Written.success_eq_ok_of_failure {σ : Type} {w : Written σ} (h : w.failure = none) :
    w.success = .ok () := by
  rw [success, h]

theorem Written.success_eq_error_of_failure {σ : Type} {w : Written σ} {reason : String}
    (h : w.failure = some reason) : w.success = .error reason := by
  rw [success, h]

namespace Command

/-! ### The work -/

section Work

variable {σ τ : Type}

/-- How work ends that is done in the session `s`, and the session that it leaves behind. -/
inductive Performs (streams : Streams σ τ) (s : Session σ τ) (i : Invocation) :
    Outcome × Session σ τ → Prop
  | failed {message : String} : courseIn s.tree i.job = .failed message →
      Performs streams s i (failed i message, s)
  | printed {target : Target} {text : String} {w : Written σ} :
      courseIn s.tree i.job = .source target none text →
      streams.output.writeAndFlush s.output text.toUTF8.toList = w →
      Performs streams s i (afterPrinting i text w.success,
        { s with output := w.state, printed := s.printed ++ w.taken })
  | written {target : Target} {path text : String} :
      courseIn s.tree i.job = .source target (some path) text →
      Performs streams s i (afterWriting i target path (s.tree.write path text).1,
        { s with tree := (s.tree.write path text).2 })
  | silent {input : String} {document : Automaton} :
      courseIn s.tree i.job = .checked input document → report i input document = "" →
      Performs streams s i ({ code := 0 }, s)
  | reported {input : String} {document : Automaton} {w : Written σ} :
      courseIn s.tree i.job = .checked input document → report i input document ≠ "" →
      streams.output.writeAndFlush s.output (report i input document).toUTF8.toList = w →
      Performs streams s i (afterReport (report i input document) w.success,
        { s with output := w.state, printed := s.printed ++ w.taken })

theorem performs_perform (streams : Streams σ τ) (s : Session σ τ) (i : Invocation) :
    Performs streams s i ((perform streams.access i).run s) := by
  rw [perform_run (readsTree_streams streams)]
  cases hcourse : courseIn s.tree i.job with
  | failed message => exact .failed hcourse
  | source target out text =>
      cases out with
      | none =>
          rw [finish_source_none_run rfl]
          exact .printed hcourse rfl
      | some path =>
          rw [finish_source_some_run rfl]
          exact .written hcourse
  | checked input document =>
      rw [Course.finish]
      by_cases htext : report i input document = ""
      · rw [announce, if_pos htext]
        exact .silent hcourse htext
      · rw [announce_run htext rfl]
        exact .reported hcourse htext rfl

/-- What becomes of the end of a run with diagnostics for the error stream, which is in the
state `e`. -/
def Streams.concluded (streams : Streams σ τ) (e : τ) (o : Outcome) : Outcome :=
  if o.diagnostics = "" then o
  else afterComplaint o (streams.errors.writeAndFlush e o.diagnostics.toUTF8.toList).success

theorem concluded_of_diagnostics_eq_nil (streams : Streams σ τ) (e : τ) {o : Outcome}
    (h : o.diagnostics = "") : streams.concluded e o = o :=
  if_pos h

theorem concluded_of_takesAll {streams : Streams σ τ} (h : streams.errors.TakesAll) (e : τ)
    (o : Outcome) : streams.concluded e o = o := by
  rw [Streams.concluded, Written.success_eq_ok_of_failure (h _ _)]
  split <;> rfl

theorem concluded_code_ne_zero (streams : Streams σ τ) (e : τ) {o : Outcome} (h : o.code ≠ 0) :
    (streams.concluded e o).code ≠ 0 := by
  rw [Streams.concluded]
  split
  · exact h
  · cases (streams.errors.writeAndFlush e o.diagnostics.toUTF8.toList).success with
    | error reason => exact Nat.succ_ne_zero 100
    | ok _ => exact h

theorem concluded_code_eq_brokenOff (streams : Streams σ τ) (e : τ) {o : Outcome}
    (h : o.code = brokenOff) : (streams.concluded e o).code = brokenOff := by
  rw [Streams.concluded]
  split
  · exact h
  · cases (streams.errors.writeAndFlush e o.diagnostics.toUTF8.toList).success with
    | error reason => rfl
    | ok _ => exact h

/-- After source has been written to a file, a run fails only if the error stream refuses the
note on it. -/
theorem concluded_afterWriting_ok {streams : Streams σ τ} {e : τ} {i : Invocation}
    {target : Target} {path : String}
    (hcode : (streams.concluded e (afterWriting i target path (.ok ()))).code ≠ 0) :
    (∃ reason, (streams.errors.writeAndFlush e
      ("Generated " ++ target.name ++ " parser: " ++ path ++ "\n").toUTF8.toList).failure =
        some reason) ∧
    (streams.concluded e (afterWriting i target path (.ok ()))).code = brokenOff := by
  rw [afterWriting, Streams.concluded] at hcode ⊢
  dsimp only at hcode ⊢
  by_cases hnote : i.quiet = false ∧ i.format = .text
  · rw [if_pos hnote] at hcode ⊢
    split at hcode
    · exact absurd rfl hcode
    · next htext =>
        rw [if_neg htext]
        cases hfailure : (streams.errors.writeAndFlush e ("Generated " ++ target.name ++
            " parser: " ++ path ++ "\n").toUTF8.toList).failure with
        | none =>
            rw [Written.success_eq_ok_of_failure hfailure] at hcode
            exact absurd rfl hcode
        | some reason =>
            rw [Written.success_eq_error_of_failure hfailure]
            exact ⟨⟨reason, rfl⟩, rfl⟩
  · rw [if_neg hnote, if_pos rfl] at hcode
    exact absurd rfl hcode

/-- Diagnostics touch no file and do not go to the output stream. -/
theorem conclude_access_run (streams : Streams σ τ) (o : Outcome) (s : Session σ τ) :
    ((conclude streams.access o).run s).1 = streams.concluded s.errors o ∧
      ((conclude streams.access o).run s).2.tree = s.tree ∧
      ((conclude streams.access o).run s).2.printed = s.printed := by
  by_cases hdiagnostics : o.diagnostics = ""
  · rw [conclude, if_pos hdiagnostics, concluded_of_diagnostics_eq_nil streams _ hdiagnostics]
    exact ⟨rfl, rfl, rfl⟩
  · rw [conclude_run hdiagnostics rfl, Streams.concluded, if_neg hdiagnostics]
    exact ⟨rfl, rfl, rfl⟩

end Work

/-! ### Runs -/

section Runs

variable {σ τ : Type}

/-- How a run ends that starts with the files of a tree and with streams in the states `o` and
`e`, and the session that it leaves behind. -/
def runOn (streams : Streams σ τ) (t : FileTree) (o : σ) (e : τ) (name : String)
    (args : List String) : Outcome × Session σ τ :=
  (run streams.access name args).run { tree := t, output := o, errors := e }

variable {streams : Streams σ τ} {t : FileTree} {o : σ} {e : τ} {name : String}
  {args : List String}

/-- A run that has work to do ends as the work does, and changes and prints the same. -/
theorem runOn_of_request {i : Invocation} (h : request args = .run i) (name : String) :
    ∃ r, Performs streams { tree := t, output := o, errors := e } i r ∧
      (runOn streams t o e name args).1 = streams.concluded r.2.errors r.1 ∧
      (runOn streams t o e name args).2.tree = r.2.tree ∧
      (runOn streams t o e name args).2.printed = r.2.printed := by
  refine ⟨_, performs_perform streams _ i, ?_⟩
  rw [runOn, run, h]
  exact conclude_access_run streams _ _

/-- A run without work answers, or it complains about its arguments. -/
theorem runOn_of_isAnswer (h : (request args).IsAnswer) :
    (runOn streams t o e name args).2.tree = t ∧
      ((runOn streams t o e name args).1.code = 0 ↔ request args ≠ .misuse) ∧
      ((runOn streams t o e name args).1.code ≠ 0 →
        (runOn streams t o e name args).2.printed = []) := by
  rw [runOn, run]
  cases hrequest : request args with
  | run i => rw [hrequest] at h; exact h.elim
  | help topic full => exact ⟨rfl, ⟨fun _ => nofun, fun _ => rfl⟩, fun hcode => absurd rfl hcode⟩
  | version => exact ⟨rfl, ⟨fun _ => nofun, fun _ => rfl⟩, fun hcode => absurd rfl hcode⟩
  | misuse =>
      exact ⟨rfl, ⟨fun hcode => absurd hcode (Nat.succ_ne_zero 1), fun h => absurd rfl h⟩,
        fun _ => rfl⟩

/-- A run fails because something is refused that it puts into a file or on a stream.

The files stay as they were if the output stream refuses source or a report, of which the
beginning has then been printed. If a file refuses source, it is emptied for it, and there was
room for the beginning only. If the error stream refuses the note on source that has been written
to a file, the source is there. -/
inductive FailsInWriting (streams : Streams σ τ) (t : FileTree) (o : σ) (e : τ) (i : Invocation)
    (r : Outcome × Session σ τ) : Prop
  | source {target : Target} {text reason : String} :
      courseIn t i.job = .source target none text →
      (streams.output.writeAndFlush o text.toUTF8.toList).failure = some reason →
      r.1 = streams.concluded e (failed i ("error writing output: " ++ reason)) →
      r.2.tree = t → r.2.printed <+: text.toUTF8.toList →
      FailsInWriting streams t o e i r
  | report {input reason : String} {document : Automaton} :
      courseIn t i.job = .checked input document →
      (streams.output.writeAndFlush o (report i input document).toUTF8.toList).failure =
        some reason →
      r.1.code = brokenOff →
      r.2.tree = t → r.2.printed <+: (report i input document).toUTF8.toList →
      FailsInWriting streams t o e i r
  | file {target : Target} {path text : String} {error : FileError} {file : List String} :
      courseIn t i.job = .source target (some path) text →
      (t.write path text).1 = .error error → ¬ t.HasRoom →
      r.1 = streams.concluded e
        (failed i ("error writing '" ++ path ++ "': " ++ error.message)) →
      t.destination path = .ok file → t.CutAt file text r.2.tree → r.2.printed = [] →
      FailsInWriting streams t o e i r
  | note {target : Target} {path text reason : String} :
      courseIn t i.job = .source target (some path) text →
      t.write path text = (.ok (), r.2.tree) →
      (streams.errors.writeAndFlush e
        ("Generated " ++ target.name ++ " parser: " ++ path ++ "\n").toUTF8.toList).failure =
        some reason →
      r.1.code = brokenOff → r.2.printed = [] →
      FailsInWriting streams t o e i r

/-- Work that fails has changed nothing and printed nothing, unless it fails in writing. -/
theorem Performs.unchanged_or_failsInWriting {i : Invocation} {r final : Outcome × Session σ τ}
    (h : Performs streams { tree := t, output := o, errors := e } i r)
    (hend : final.1 = streams.concluded r.2.errors r.1) (htree : final.2.tree = r.2.tree)
    (hprinted : final.2.printed = r.2.printed) (hcode : final.1.code ≠ 0) :
    (final.2.tree = t ∧ final.2.printed = []) ∨ FailsInWriting streams t o e i final := by
  cases h with
  | failed hcourse => exact .inl ⟨htree, hprinted⟩
  | silent hcourse htext => exact .inl ⟨htree, hprinted⟩
  | @printed target text w hcourse hw =>
      cases hfailure : w.failure with
      | none =>
          rw [hend, Written.success_eq_ok_of_failure hfailure, afterPrinting,
            concluded_of_diagnostics_eq_nil streams _ rfl] at hcode
          exact absurd rfl hcode
      | some reason =>
          rw [Written.success_eq_error_of_failure hfailure, afterPrinting] at hend
          subst hw
          exact .inr (.source hcourse hfailure hend htree
            (hprinted ▸ Sink.writeAndFlush_taken_prefix o _))
  | @reported input document w hcourse htext hw =>
      cases hfailure : w.failure with
      | none =>
          rw [hend, Written.success_eq_ok_of_failure hfailure, afterReport,
            concluded_of_diagnostics_eq_nil streams _ rfl] at hcode
          exact absurd rfl hcode
      | some reason =>
          rw [Written.success_eq_error_of_failure hfailure, afterReport] at hend
          subst hw
          exact .inr (.report hcourse hfailure
            (hend ▸ concluded_code_eq_brokenOff streams _ rfl) htree
            (hprinted ▸ Sink.writeAndFlush_taken_prefix o _))
  | @written target path text hcourse =>
      dsimp only at htree hend
      cases hresult : (t.write path text).1 with
      | error error =>
          rw [hresult] at hend
          obtain hsame | ⟨hroom, file, hfile, hcut⟩ := FileTree.write_error_cases hresult
          · exact .inl ⟨htree.trans hsame, hprinted⟩
          · rw [← htree] at hcut
            exact .inr (.file hcourse hresult hroom hend hfile hcut hprinted)
      | ok _ =>
          rw [hresult] at hend
          rw [hend] at hcode
          obtain ⟨⟨reason, hfailure⟩, hbroken⟩ := concluded_afterWriting_ok hcode
          exact .inr (.note hcourse (Prod.ext hresult htree.symm) hfailure (hend ▸ hbroken)
            hprinted)

/-- A run that fails has changed nothing and printed nothing, unless it fails in writing. -/
theorem unchanged_or_failsInWriting (hcode : (runOn streams t o e name args).1.code ≠ 0) :
    ((runOn streams t o e name args).2.tree = t ∧
      (runOn streams t o e name args).2.printed = []) ∨
    ∃ i, request args = .run i ∧
      FailsInWriting streams t o e i (runOn streams t o e name args) := by
  cases hrequest : request args with
  | run i =>
      obtain ⟨r, hr, hend, htree, hprinted⟩ := runOn_of_request hrequest name
      exact (hr.unchanged_or_failsInWriting hend htree hprinted hcode).imp id
        fun hfails => ⟨i, rfl, hfails⟩
  | _ =>
      have hanswer : (request args).IsAnswer := hrequest ▸ trivial
      obtain ⟨htree, -, hprinted⟩ := runOn_of_isAnswer hanswer
      exact .inl ⟨htree, hprinted hcode⟩

/-- Where there is room and the streams take everything, no run fails in writing. -/
theorem not_failsInWriting (houtput : streams.output.TakesAll) (herrors : streams.errors.TakesAll)
    (ht : t.HasRoom) {i : Invocation} {r : Outcome × Session σ τ} :
    ¬ FailsInWriting streams t o e i r := by
  intro h
  cases h with
  | source _ hfailure => rw [houtput] at hfailure; cases hfailure
  | report _ hfailure => rw [houtput] at hfailure; cases hfailure
  | file _ _ hroom => exact hroom ht
  | note _ _ hfailure => rw [herrors] at hfailure; cases hfailure

/-- A run that does not generate source changes no file. -/
theorem tree_of_not_generates (hargs : ¬ (request args).Generates) :
    (runOn streams t o e name args).2.tree = t := by
  cases hrequest : request args with
  | run i =>
      rw [hrequest] at hargs
      obtain ⟨r, hr, -, htree, -⟩ := runOn_of_request hrequest name
      rw [htree]
      cases hr with
      | written hcourse => exact absurd (courseIn_eq_source hcourse).1 hargs
      | _ => rfl
  | _ =>
      have hanswer : (request args).IsAnswer := hrequest ▸ trivial
      exact (runOn_of_isAnswer hanswer).1

/-! ### Checking and generating -/

theorem firstFault_eq_none_iff (inputs : Inputs) :
    firstFault inputs = none ↔
      ∀ target, ∃ text, render inputs.settings target inputs.document = .ok text := by
  have htarget (target : Target) : target ∈ Target.all := by cases target <;> decide
  rw [firstFault, List.findSome?_eq_none_iff]
  refine ⟨fun h target => ?_, fun h target _ => ?_⟩
  · have hnone := h target (htarget target)
    split at hnone
    · cases hnone
    · exact ⟨_, ‹_›⟩
  · obtain ⟨text, htext⟩ := h target
    rw [htext]

/-- A check finds a fault exactly if generating for some target does. -/
theorem courseIn_check_not_failed_iff (t : FileTree) (input : String) (config : Option String) :
    (∀ message, courseIn t (.check input config) ≠ .failed message) ↔
      ∀ target message, courseIn t (.generate input target none config) ≠ .failed message := by
  simp only [courseIn]
  cases inputsIn t input config with
  | error message => exact ⟨fun h => absurd rfl (h _), fun h => absurd rfl (h .compiled _)⟩
  | ok inputs =>
      dsimp only
      constructor
      · intro h target message
        have hnone : firstFault inputs = none := by
          cases hfault : firstFault inputs with
          | none => rfl
          | some fault => rw [hfault] at h; exact absurd rfl (h _)
        obtain ⟨text, htext⟩ := (firstFault_eq_none_iff inputs).1 hnone target
        rw [htext]
        intro hfailed
        cases hfailed
      · intro h message
        have hnone : firstFault inputs = none := by
          refine (firstFault_eq_none_iff inputs).2 fun target => ?_
          have htarget := h target
          cases hrender : render inputs.settings target inputs.document with
          | error fault => rw [hrender] at htarget; exact absurd rfl (htarget _)
          | ok text => exact ⟨text, rfl⟩
        rw [hnone]
        intro hfailed
        cases hfailed

/-- A run that puts nothing into a file succeeds exactly if it finds no fault, if the output
stream takes everything. -/
theorem runOn_code_eq_zero_iff (houtput : streams.output.TakesAll) {i : Invocation}
    (hargs : request args = .run i) (hout : i.job.out? = none) :
    (runOn streams t o e name args).1.code = 0 ↔
      ∀ message, courseIn t i.job ≠ .failed message := by
  have hfine {c : Course} (hcourse : courseIn t i.job = c) (hc : ∀ message, c ≠ .failed message) :
      ∀ message, courseIn t i.job ≠ .failed message := hcourse.symm ▸ hc
  obtain ⟨r, hr, hend, -, -⟩ := runOn_of_request hargs name
  rw [hend]
  cases hr with
  | failed hcourse =>
      exact ⟨fun hcode => absurd hcode (concluded_code_ne_zero streams _ Nat.one_ne_zero),
        fun h => absurd hcourse (h _)⟩
  | silent hcourse htext =>
      rw [concluded_of_diagnostics_eq_nil streams _ rfl]
      exact iff_of_true rfl (hfine hcourse (by simp))
  | printed hcourse hw =>
      subst hw
      rw [Written.success_eq_ok_of_failure (houtput _ _), afterPrinting,
        concluded_of_diagnostics_eq_nil streams _ rfl]
      exact iff_of_true rfl (hfine hcourse (by simp))
  | reported hcourse htext hw =>
      subst hw
      rw [Written.success_eq_ok_of_failure (houtput _ _), afterReport,
        concluded_of_diagnostics_eq_nil streams _ rfl]
      exact iff_of_true rfl (hfine hcourse (by simp))
  | written hcourse =>
      rw [(courseIn_eq_source hcourse).2.1] at hout
      cases hout

/-- A check succeeds exactly if generating source for the output stream does for every target. The
error stream may refuse what it likes. -/
theorem check_code_eq_zero_iff_generate (houtput : streams.output.TakesAll) (t : FileTree) (o : σ)
    (e : τ) (name input : String) (config : Option String) :
    (runOn streams t o e name (checkArguments input config)).1.code = 0 ↔
      ∀ target, (runOn streams t o e name (generateArguments input target config)).1.code = 0 := by
  cases request_alike input config with
  | run hcheck hgenerate =>
      have hgenerates (target : Target) :
          (runOn streams t o e name (generateArguments input target config)).1.code = 0 ↔
            ∀ message, courseIn t (.generate input target none config) ≠ .failed message :=
        runOn_code_eq_zero_iff houtput (hgenerate target) rfl
      rw [runOn_code_eq_zero_iff houtput hcheck rfl, forall_congr' hgenerates]
      exact courseIn_check_not_failed_iff t input config
  | help full hcheck hgenerate =>
      have hcode (args : List String) {topic : Topic} (h : request args = .help topic full) :
          (runOn streams t o e name args).1.code = 0 :=
        (runOn_of_isAnswer (h ▸ trivial)).2.1.2 (by rw [h]; nofun)
      exact ⟨fun _ target => hcode _ (hgenerate target), fun _ => hcode _ hcheck⟩
  | misuse hcheck hgenerate =>
      have hcode (args : List String) (h : request args = .misuse) :
          (runOn streams t o e name args).1.code ≠ 0 :=
        fun hzero => (runOn_of_isAnswer (h ▸ trivial)).2.1.1 hzero h
      exact ⟨fun h => absurd h (hcode _ hcheck),
        fun h => absurd (h .compiled) (hcode _ (hgenerate .compiled))⟩

end Runs

/-- Where there is room and the streams take everything, a run that fails changes no file and
prints nothing. Only a run that generates source changes files, so none does on whose command line
the command to check stands first. And a check succeeds exactly if generating source for the
output stream does for every target, whatever texts stand for the document and the settings.

Without room, or if a stream refuses something, a run that fails and has changed or printed
something has failed in writing. -/
theorem runs_fail_cleanly_and_check_predicts {σ τ : Type} (streams : Streams σ τ) (t : FileTree)
    (o : σ) (e : τ) (name : String) :
    (streams.output.TakesAll → streams.errors.TakesAll → t.HasRoom →
      ∀ args, (runOn streams t o e name args).1.code ≠ 0 →
        (runOn streams t o e name args).2.tree = t ∧
        (runOn streams t o e name args).2.printed = []) ∧
    (∀ args, (runOn streams t o e name args).1.code ≠ 0 →
      ((runOn streams t o e name args).2.tree = t ∧
        (runOn streams t o e name args).2.printed = []) ∨
      ∃ i, request args = .run i ∧
        FailsInWriting streams t o e i (runOn streams t o e name args)) ∧
    (∀ args, ¬ (request args).Generates → (runOn streams t o e name args).2.tree = t) ∧
    (∀ before after, "generate" ∉ before →
      (runOn streams t o e name (before ++ "check" :: after)).2.tree = t) ∧
    (streams.output.TakesAll → ∀ input config,
      (runOn streams t o e name (checkArguments input config)).1.code = 0 ↔
        ∀ target,
          (runOn streams t o e name (generateArguments input target config)).1.code = 0) := by
  refine ⟨fun houtput herrors ht args hcode => ?_, fun args => unchanged_or_failsInWriting,
    fun args => tree_of_not_generates, fun before after h => ?_, fun houtput => ?_⟩
  · obtain hunchanged | ⟨i, -, hfails⟩ := unchanged_or_failsInWriting hcode
    · exact hunchanged
    · exact absurd hfails (not_failsInWriting houtput herrors ht)
  · exact tree_of_not_generates (request_check_not_generates h after)
  · exact check_code_eq_zero_iff_generate houtput t o e name

/-- A sink that takes whatever it is offered at once. -/
def roomy : Sink Unit where
  offer _ bytes := (.taken bytes.length, ())
  flush _ := (none, ())

theorem takesAll_roomy : roomy.TakesAll := by
  intro s bytes
  cases bytes with
  | nil => rfl
  | cons b bytes =>
      have hrest : (b :: bytes).drop (bytes.length + 1) = [] := List.drop_length
      have hall : roomy.writeAll (b :: bytes).length s (b :: bytes) = ⟨b :: bytes, (), none⟩ := by
        rw [List.length_cons, Sink.writeAll]
        · simp [roomy, Sink.writeAll]
        · intro hnil
          cases hnil
      rw [Sink.writeAndFlush, hall]
      rfl

/-- A tree with a document that has no states, next to a text that holds no settings. -/
def furnished : FileTree :=
  FileTree.ofFiles [
    (["doc"], (Document.save ⟨⟨.empty, .empty, []⟩, [], [], .empty⟩).toUTF8),
    (["settings"], "=".toUTF8)]

/-- The same tree on a disk that is nearly full. -/
def crowded : FileTree := { furnished with room := some 16 }

/-- Streams that take everything. -/
def ample : Streams Unit Unit := ⟨roomy, roomy⟩

/-- Streams of which the one for output has room for a number of bytes. -/
def clipped : Streams Nat Unit := ⟨cramped, roomy⟩

/-- Source for a document is not put in the place of a directory, settings that cannot be read
are found by a check, and without settings both targets can be generated. An output stream with
room for 40 bytes has taken these when the run fails in writing, and a disk with room for 16 bytes
is left with a file that was not there. -/
theorem runs_fail_cleanly_and_check_predicts_furnished :
    let source path := ["generate", "doc", "--target", "python", "--out", path]
    let onDirectory := runOn ample furnished () () "lrgen" (source "/tmp")
    let toStream :=
      runOn clipped furnished 40 () "lrgen" (generateArguments "doc" .interpreted none)
    let toFile := runOn ample crowded () () "lrgen" (source "source")
    (onDirectory.1.code ≠ 0 ∧ onDirectory.2.tree = furnished ∧ onDirectory.2.printed = []) ∧
    (runOn ample furnished () () "lrgen" (checkArguments "doc" (some "settings"))).1.code ≠ 0 ∧
    (runOn ample furnished () () "lrgen" (checkArguments "doc" none)).1.code = 0 ∧
    (∀ target, (runOn ample furnished () () "lrgen"
      (generateArguments "doc" target none)).1.code = 0) ∧
    (toStream.2.printed.length = 40 ∧ ∃ i, FailsInWriting clipped furnished 40 () i toStream) ∧
    crowded.files.lookup ["tmp", "work", "source"] = none ∧
    (toFile.2.tree.files.lookup ["tmp", "work", "source"]).isSome ∧
    ∃ i, FailsInWriting ample crowded () () i toFile := by
  obtain ⟨hclean, -, -, -, hpredicts⟩ :=
    runs_fail_cleanly_and_check_predicts ample furnished () () "lrgen"
  obtain ⟨-, hclipped, -⟩ := runs_fail_cleanly_and_check_predicts clipped furnished 40 () "lrgen"
  obtain ⟨-, hcrowded, -⟩ := runs_fail_cleanly_and_check_predicts ample crowded () () "lrgen"
  refine ⟨?_, by decide +kernel, by decide +kernel, ?_, ?_, ?_⟩
  · have hcode : (runOn ample furnished () () "lrgen"
        ["generate", "doc", "--target", "python", "--out", "/tmp"]).1.code ≠ 0 := by
      decide +kernel
    exact ⟨hcode, hclean takesAll_roomy takesAll_roomy (FileTree.hasRoom_ofFiles _) _ hcode⟩
  · have hcheck :
        (runOn ample furnished () () "lrgen" (checkArguments "doc" none)).1.code = 0 := by
      decide +kernel
    exact (hpredicts takesAll_roomy "doc" none).1 hcheck
  · have hlength : (runOn clipped furnished 40 () "lrgen"
        (generateArguments "doc" .interpreted none)).2.printed.length = 40 := by
      decide +kernel
    refine ⟨hlength, ?_⟩
    obtain ⟨-, hprinted⟩ | ⟨i, -, hfails⟩ :=
      hclipped (generateArguments "doc" .interpreted none) (by decide +kernel)
    · rw [hprinted] at hlength
      cases hlength
    · exact ⟨i, hfails⟩
  · have hbefore : crowded.files.lookup ["tmp", "work", "source"] = none := by decide +kernel
    have hafter : ((runOn ample crowded () () "lrgen" ["generate", "doc", "--target", "python",
        "--out", "source"]).2.tree.files.lookup ["tmp", "work", "source"]).isSome := by
      decide +kernel
    refine ⟨hbefore, hafter, ?_⟩
    obtain ⟨htree, -⟩ | ⟨i, -, hfails⟩ :=
      hcrowded ["generate", "doc", "--target", "python", "--out", "source"] (by decide +kernel)
    · rw [htree, hbefore] at hafter
      cases hafter
    · exact ⟨i, hfails⟩

end Command

end ParserTables
