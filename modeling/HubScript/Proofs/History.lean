import HubScript.Proofs.WorkSteps

/-!
# Programs do not remember

A workbench keeps a level and the comments of a script from one task to the next, and a task that
fails leaves them as they are at that moment. A program reads neither before it has set both, so
what came before makes no difference to it. The settings are never changed, and a program that is
made leaves the level of its main function, because writing is steady.
-/
namespace HubScript.Hub.Workbench

/-- The workbench after a row of tasks, whether they fail or not. -/
def after (bench : Workbench) : List Task → Workbench
  | [] => bench
  | task :: rest => (bench.run task).2.after rest

/-- The attempts of a row end with the last task, made on what the others leave. -/
theorem runAll_concat (bench : Workbench) (tasks : List Task) (task : Task) :
    bench.runAll (tasks ++ [task]) = bench.runAll tasks ++ [(bench.after tasks).run task] := by
  induction tasks generalizing bench with
  | nil => rfl
  | cons first rest ih =>
    rw [List.cons_append, runAll, ih, runAll, after, List.cons_append]

section Settings

variable {α β : Type}

/-- Work that does not change the settings. -/
def KeepsSettings (x : Work α) : Prop := ∀ bench, (x bench).2.settings = bench.settings

theorem keepsSettings_of_steady {x : Work α} (h : Work.Steady x) : KeepsSettings x := by
  intro bench
  rcases h bench with ⟨a, ha⟩ | ⟨setback, depth, hset⟩
  · rw [ha]
  · rw [hset]

theorem KeepsSettings.bind {x : Work α} {f : α → Work β} (hx : KeepsSettings x)
    (hf : ∀ a, KeepsSettings (f a)) : KeepsSettings (x >>= f) := by
  intro bench
  have hnext := hx bench
  cases hresult : x bench with
  | mk result next =>
    rw [hresult] at hnext
    cases result with
    | ok a => rw [Work.bind_of_ok hresult, hf a next, hnext]
    | error setback => rw [Work.bind_of_error hresult, hnext]

theorem keepsSettings_pure (a : α) : KeepsSettings (pure a) := fun _ => rfl

theorem keepsSettings_load (script : String) : KeepsSettings (Work.load script) :=
  (keepsSettings_of_steady (Work.steady_comments script)).bind fun _ _ => rfl

theorem keepsSettings_take (result : Except Failure α) : KeepsSettings (Work.take result) :=
  keepsSettings_of_steady (Work.steady_take result)

theorem keepsSettings_writeProgram (forms : List Form) (script : String) :
    KeepsSettings (writeProgram forms script) := by
  refine (keepsSettings_load script).bind fun _ => ?_
  refine (keepsSettings_of_steady (Work.steady_ask _)).bind fun settings => ?_
  refine (keepsSettings_take _).bind fun opening => ?_
  have hlevel : KeepsSettings (Work.setLevel 1) := fun _ => rfl
  exact hlevel.bind fun _ => keepsSettings_of_steady (writeBody_steady opening forms)

/-- No task changes the settings. -/
theorem work_keepsSettings (task : Task) : KeepsSettings (work task) := by
  cases task with
  | program forms script =>
    exact (keepsSettings_writeProgram forms script).bind fun _ => keepsSettings_pure _
  | comments script =>
    exact (keepsSettings_of_steady (Work.steady_comments script)).bind fun _ => keepsSettings_pure _
  | load script => exact (keepsSettings_load script).bind fun _ => keepsSettings_pure _
  | setLevel level => exact fun _ => rfl
  | lines form =>
    exact (keepsSettings_of_steady (writeForm_steady form)).bind fun _ => keepsSettings_pure _
  | block header form field =>
    have hblock := writeBlock_steady header form fun inner start =>
      writeSuite_steady inner start (suiteOf form field)
    exact (keepsSettings_of_steady hblock).bind fun _ => keepsSettings_pure _
  | commentsBetween start stop indentation =>
    exact (keepsSettings_of_steady (writeComments_steady _ _ _)).bind fun _ => keepsSettings_pure _
  | child form =>
    exact (keepsSettings_of_steady (writeChild_steady form)).bind fun _ => keepsSettings_pure _
  | phrase expression => exact (keepsSettings_take _).bind fun _ => keepsSettings_pure _
  | motors forms =>
    exact (keepsSettings_take _).bind fun _ => (keepsSettings_take _).bind fun _ =>
      keepsSettings_pure _
  | awaits forms => exact (keepsSettings_take _).bind fun _ => keepsSettings_pure _
  | uses forms sensor => exact (keepsSettings_take _).bind fun _ => keepsSettings_pure _

theorem after_settings (bench : Workbench) (tasks : List Task) :
    (bench.after tasks).settings = bench.settings := by
  induction tasks generalizing bench with
  | nil => rfl
  | cons task rest ih => rw [after, ih, run, work_keepsSettings task bench]

end Settings

section Programs

variable (bench : Workbench) (forms : List Form) (script : String)

/-- The settings alone decide on a program; the level and the comments at hand do not. -/
theorem writeProgram_fst :
    (writeProgram forms script bench).1 = generate bench.settings forms script := by
  rw [generate, writeProgram_eq, writeProgram_eq]
  cases CommentTable.ofScript script with
  | error fault => rfl
  | ok table =>
    dsimp only [new]
    cases prelude bench.settings forms with
    | error failure => rfl
    | ok opening => rfl

theorem run_program : bench.run (.program forms script) =
    ((writeProgram forms script bench).1.map .text, (writeProgram forms script bench).2) := by
  rw [run, work]
  cases hprogram : writeProgram forms script bench with
  | mk result next =>
    cases result with
    | ok text => exact Work.bind_of_ok hprogram
    | error setback => exact Work.bind_of_error hprogram

end Programs

/-- A program that ends a row of tasks is the one that a new workbench makes, or fails as it does
there, whatever the tasks before it were and however they went. When it is made, the level is one
and the comments at hand are those of its script; when the comments of its script cannot be told,
the level and the comments at hand stay. The settings stay in any case. -/
theorem program_forgets_history (overrides : List (String × Value)) (tasks : List Task)
    (forms : List Form) (script : String) :
    let settings := Settings.ofOverrides overrides
    let bench := (new settings).after tasks
    ∃ next : Workbench,
      (new settings).runAll (tasks ++ [.program forms script]) =
        (new settings).runAll tasks ++ [((generate settings forms script).map .text, next)] ∧
      next.settings = settings ∧
      (∀ text, generate settings forms script = .ok text →
        next.level = 1 ∧ CommentTable.ofScript script = .ok next.comments) ∧
      ∀ fault, CommentTable.ofScript script = .error fault →
        next.level = bench.level ∧ next.comments = bench.comments := by
  intro settings bench
  have hsettings : bench.settings = settings := (new settings).after_settings tasks
  have hresult : (writeProgram forms script bench).1 = generate settings forms script := by
    rw [writeProgram_fst, hsettings]
  refine ⟨(writeProgram forms script bench).2, ?_, ?_, fun text htext => ?_, fun fault hfault => ?_⟩
  · rw [runAll_concat, run_program, ← hresult]
  · rw [keepsSettings_writeProgram forms script bench, hsettings]
  · obtain ⟨table, -, htable, -, -, hnext⟩ := writeProgram_of_ok (hresult.trans htext)
    rw [hnext]
    exact ⟨rfl, htable⟩
  · rw [writeProgram_eq, hfault]
    exact ⟨rfl, rfl⟩

/-- Tasks that leave the comments of another script and, by a failure in a block, a deep level. -/
def strayTasks : List Task :=
  [.load "# old\n# older\n", .setLevel 7,
    .block "if x:" (.record [] (.forms [.other .none]) .absent) "body"]

/-- A loop with a comment in it. -/
def watchForms : List Form :=
  [.record [("type", .str "while"), ("condition", .str "True"), ("lineno", .int 1),
      ("end_lineno", .int 3)]
    (.forms [.record [("type", .str "break"), ("lineno", .int 3), ("end_lineno", .int 3)] .absent
      .absent]) .absent]

def watchScript : String := "while True:\n  # new\n  break\n"

theorem program_forgets_history_strayTasks :
    let settings := Settings.ofOverrides []
    let bench := (new settings).after strayTasks
    (bench.level = 8 ∧ bench.comments.alone = [1, 2]) ∧
    (generate settings watchForms watchScript).toOption = some (assembled
      (["from hub import light_matrix, port", "import runloop", "import motor", ""] ++ portNotes ++
        ["", "# Motor configuration", ""])
      ["    while True:", "        # new", "        break"]) ∧
    ∃ next : Workbench,
      (new settings).runAll (strayTasks ++ [.program watchForms watchScript]) =
        (new settings).runAll strayTasks ++
          [((generate settings watchForms watchScript).map .text, next)] ∧
      next.settings = settings ∧
      (∀ text, generate settings watchForms watchScript = .ok text →
        next.level = 1 ∧ CommentTable.ofScript watchScript = .ok next.comments) ∧
      ∀ fault, CommentTable.ofScript watchScript = .error fault →
        next.level = bench.level ∧ next.comments = bench.comments :=
  ⟨by decide +kernel, by decide +kernel,
    program_forgets_history [] strayTasks watchForms watchScript⟩

end HubScript.Hub.Workbench
