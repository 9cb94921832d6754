import ParserTables.Command.Run
import ParserTables.Command.Session
import ParserTables.Proofs.Command.Requests
import ParserTables.Proofs.Failure

/-!
# The course of a run

A run reads its inputs, and all work is done before anything is put into a file or on a stream.
So the course of a run up to this point depends on the job and on the files alone, whatever the
streams are (`perform_run`). How it goes on from there is `Course.finish`.
-/

namespace ParserTables.Command

/-! ### Reading -/

/-- The settings at a path of a tree, or a message. -/
def settingsIn (t : FileTree) : Option String → Except String Settings
  | none => .ok {}
  | some path => settingsOf path (t.read path)

/-- What is read for a job from the files of a tree, or a message. -/
def inputsIn (t : FileTree) (input : String) (config : Option String) : Except String Inputs :=
  match documentOf input (t.read input) with
  | .error message => .error message
  | .ok document => (settingsIn t config).map (⟨document, ·⟩)

/-- Reading gives what the files of a tree hold, and changes nothing. -/
def ReadsTree {S : Type} (system : Access (StateM S)) (tree : S → FileTree) : Prop :=
  ∀ path s, (system.read path).run s = ((tree s).read path, s)

theorem readsTree_access : ReadsTree FileTree.access id := fun _ _ => rfl

theorem readsTree_streams {σ τ : Type} (streams : Streams σ τ) :
    ReadsTree streams.access Session.tree := fun _ _ => rfl

/-- A step goes on from where the step before it has led. -/
theorem run_bind_of_run_eq {S α β : Type} {x : StateM S α} {a : α} {s s' : S}
    (h : x.run s = (a, s')) (f : α → StateM S β) : (x >>= f).run s = (f a).run s' := by
  have hstep : (x >>= f).run s = (f (x.run s).1).run (x.run s).2 := rfl
  rw [hstep, h]

section Reading

variable {S : Type} {system : Access (StateM S)} {tree : S → FileTree}

theorem readSettings_run (h : ReadsTree system tree) (config : Option String) (s : S) :
    (readSettings system config).run s = (settingsIn (tree s) config, s) := by
  cases config with
  | none => rfl
  | some path =>
      rw [readSettings, run_bind_of_run_eq (h path s)]
      rfl

theorem readInputs_run (h : ReadsTree system tree) (input : String) (config : Option String)
    (s : S) : (readInputs system input config).run s = (inputsIn (tree s) input config, s) := by
  rw [readInputs, run_bind_of_run_eq (h input s), inputsIn]
  cases documentOf input ((tree s).read input) with
  | error message => rfl
  | ok document =>
      dsimp only
      rw [run_bind_of_run_eq (readSettings_run h config s)]
      cases settingsIn (tree s) config <;> rfl

end Reading

/-! ### From the inputs to the end -/

/-- What a job comes to before anything is put into a file or on a stream. -/
inductive Course where
  | failed (message : String)
  /-- Source is to be put into a file or on the output stream. -/
  | source (target : Target) (out : Option String) (text : String)
  /-- Source can be generated for every target. -/
  | checked (input : String) (document : Automaton)

/-- The course of a job with the files of a tree. -/
def courseIn (t : FileTree) : Job → Course
  | .generate input target out config =>
    match inputsIn t input config with
    | .error message => .failed message
    | .ok inputs =>
      match render inputs.settings target inputs.document with
      | .error fault =>
        .failed ("error generating " ++ target.name ++ " parser: " ++ fault.message)
      | .ok text => .source target out text
  | .check input config =>
    match inputsIn t input config with
    | .error message => .failed message
    | .ok inputs =>
      match firstFault inputs with
      | some (target, fault) =>
        .failed (input ++ ": " ++ target.name ++ " target: " ++ fault.message)
      | none => .checked input inputs.document

/-- What is still to be done on a course. -/
def Course.finish {m : Type → Type} [Monad m] (system : Access m) (i : Invocation) :
    Course → m Outcome
  | .failed message => return Command.failed i message
  | .source target out text => deliver system i target out text
  | .checked input document => announce system (report i input document)

/-- A run takes the course of its job, which depends on the files alone. -/
theorem perform_run {S : Type} {system : Access (StateM S)} {tree : S → FileTree}
    (h : ReadsTree system tree) (i : Invocation) (s : S) :
    (perform system i).run s = ((courseIn (tree s) i.job).finish system i).run s := by
  rw [perform]
  cases i.job with
  | generate input target out config =>
      dsimp only [courseIn]
      rw [run_bind_of_run_eq (readInputs_run h input config s)]
      cases inputsIn (tree s) input config with
      | error message => rfl
      | ok inputs =>
          dsimp only [generate]
          cases render inputs.settings target inputs.document <;> rfl
  | check input config =>
      dsimp only [courseIn]
      rw [run_bind_of_run_eq (readInputs_run h input config s)]
      cases inputsIn (tree s) input config with
      | error message => rfl
      | ok inputs =>
          dsimp only [check]
          cases firstFault inputs <;> rfl

/-! ### How a run goes on from its course -/

theorem finish_source_none_run {S : Type} {system : Access (StateM S)} {i : Invocation}
    {target : Target} {text : String} {result : Except String Unit} {s s' : S}
    (h : (system.print text).run s = (result, s')) :
    ((Course.source target none text).finish system i).run s =
      (afterPrinting i text result, s') :=
  run_bind_of_run_eq h fun result => return afterPrinting i text result

theorem finish_source_some_run {S : Type} {system : Access (StateM S)} {i : Invocation}
    {target : Target} {path text : String} {result : Except FileError Unit} {s s' : S}
    (h : (system.write path text).run s = (result, s')) :
    ((Course.source target (some path) text).finish system i).run s =
      (afterWriting i target path result, s') :=
  run_bind_of_run_eq h fun result => return afterWriting i target path result

theorem announce_run {S : Type} {system : Access (StateM S)} {text : String}
    {result : Except String Unit} {s s' : S} (htext : text ≠ "")
    (h : (system.print text).run s = (result, s')) :
    (announce system text).run s = (afterReport text result, s') := by
  rw [announce, if_neg htext]
  exact run_bind_of_run_eq h fun result => return afterReport text result

theorem conclude_run {S : Type} {system : Access (StateM S)} {o : Outcome}
    {result : Except String Unit} {s s' : S} (hdiagnostics : o.diagnostics ≠ "")
    (h : (system.complain o.diagnostics).run s = (result, s')) :
    (conclude system o).run s = (afterComplaint o result, s') := by
  rw [conclude, if_neg hdiagnostics]
  exact run_bind_of_run_eq h fun result => return afterComplaint o result

/-! ### Source -/

/-- The job is to generate source, into a file or to the output stream. -/
def Job.Generates (job : Job) : Prop :=
  ∃ input target out config, job = .generate input target out config

/-- The path that source is put into, if there is one. -/
def Job.out? : Job → Option String
  | .generate _ _ out _ => out
  | .check _ _ => none

/-- The source that a job generates with the files of a tree, if it gets so far. -/
def sourceIn (t : FileTree) : Job → Option String
  | .generate input target _ config =>
    match inputsIn t input config with
    | .error _ => none
    | .ok inputs => (render inputs.settings target inputs.document).toOption
  | .check _ _ => none

variable {t : FileTree} {job : Job}

/-- The source of a job goes where the job says. -/
theorem courseIn_eq_source {target : Target} {out : Option String} {text : String}
    (h : courseIn t job = .source target out text) :
    job.Generates ∧ job.out? = out ∧ sourceIn t job = some text := by
  cases job with
  | check input config =>
      rw [courseIn] at h
      repeat' split at h
      all_goals cases h
  | generate input target out config =>
      rw [courseIn] at h
      split at h
      · cases h
      · next inputs hinputs =>
          split at h
          · cases h
          · next text hrender =>
              cases h
              exact ⟨⟨_, _, _, _, rfl⟩, rfl, by simp [sourceIn, hinputs, hrender, Except.toOption]⟩

theorem courseIn_eq_checked {input : String} {document : Automaton}
    (h : courseIn t job = .checked input document) : ¬ job.Generates := by
  rintro ⟨input, target, out, config, rfl⟩
  rw [courseIn] at h
  repeat' split at h
  all_goals cases h

/-- A job without source fails or is no job to generate source. -/
theorem sourceIn_eq_none {message : String} (h : courseIn t job = .failed message) :
    sourceIn t job = none := by
  cases job with
  | check input config => rfl
  | generate input target out config =>
      rw [courseIn] at h
      rw [sourceIn]
      split at h
      · rfl
      · split at h
        · next hrender => simp [hrender, Except.toOption]
        · cases h

end ParserTables.Command
