import HubScript.Hub.Workbench
import HubScript.Proofs.Except

/-!
# What work leaves behind

Work goes on with what it has been given, and stops where it is set back. Writing is steady: it
leaves the workbench as it was, and if it is set back, only the level is different, and no lower
than before. This comes from the two places where the level is raised and lowered again, and goes
through all instructions by their structure.
-/
namespace HubScript.Hub

variable {α β : Type}

/-- The workbench one level deeper. -/
def Workbench.deeper (bench : Workbench) : Workbench := { bench with level := bench.level + 1 }

namespace Work

theorem pure_apply (a : α) (bench : Workbench) : (pure a : Work α) bench = (.ok a, bench) := rfl

theorem bind_of_ok {x : Work α} {f : α → Work β} {bench next : Workbench} {a : α}
    (h : x bench = (.ok a, next)) : (x >>= f) bench = f a next := by
  simp only [bind, h]

theorem bind_of_error {x : Work α} {f : α → Work β} {bench next : Workbench} {setback : Setback}
    (h : x bench = (.error setback, next)) : (x >>= f) bench = (.error setback, next) := by
  simp only [bind, h]

theorem bind_eq_ok {x : Work α} {f : α → Work β} {bench last : Workbench} {b : β}
    (h : (x >>= f) bench = (.ok b, last)) :
    ∃ a next, x bench = (.ok a, next) ∧ f a next = (.ok b, last) := by
  rcases hx : x bench with ⟨setback | a, next⟩
  · rw [bind_of_error hx] at h
    cases (Prod.mk.inj h).1
  · exact ⟨a, next, rfl, (bind_of_ok hx).symm.trans h⟩

theorem take_ok (a : α) (bench : Workbench) : take (.ok a) bench = (.ok a, bench) := rfl

theorem take_error (failure : Failure) (bench : Workbench) :
    take (.error failure : Except Failure α) bench = (.error (.failed failure), bench) := rfl

theorem comments_of_ok {script : String} {table : CommentTable}
    (h : CommentTable.ofScript script = .ok table) (bench : Workbench) :
    Work.comments script bench = (.ok table, bench) := by
  rw [Work.comments, h]
  rfl

theorem comments_of_error {script : String} {fault : CommentFault}
    (h : CommentTable.ofScript script = .error fault) (bench : Workbench) :
    Work.comments script bench = (.error (.comments fault), bench) := by
  rw [Work.comments, h]
  rfl

theorem ask_bind (g : Workbench → α) (f : α → Work β) (bench : Workbench) :
    (ask g >>= f) bench = f (g bench) bench := rfl

theorem indent_bind (f : String → Work β) (bench : Workbench) :
    (indent >>= f) bench = f (margin bench.level) bench := rfl

instance : LawfulMonad Work := LawfulMonad.mk' Work
  (fun x => by
    funext bench
    have hmap : (id <$> x) bench = (x >>= pure) bench := rfl
    rw [hmap]
    rcases hx : x bench with ⟨setback | a, next⟩
    · exact bind_of_error hx
    · exact bind_of_ok hx)
  (fun _ _ => rfl)
  (fun x f g => by
    funext bench
    rcases hx : x bench with ⟨setback | a, next⟩ <;> simp only [bind, hx])

theorem bind_eq_bind {x y : Work α} {bench : Workbench} (h : x bench = y bench) (f : α → Work β) :
    (x >>= f) bench = (y >>= f) bench := by
  simp only [bind, h]

theorem take_ok_eq (a : α) : take (.ok a) = (pure a : Work α) := rfl

/-- Work that leaves the workbench as it was, but for a deeper level where it is set back. -/
def Steady (x : Work α) : Prop :=
  ∀ bench, (∃ a, x bench = (.ok a, bench)) ∨
    ∃ setback, ∃ depth : Nat,
      x bench = (.error setback, { bench with level := bench.level + depth })

theorem steady_pure (a : α) : Steady (pure a) := fun _ => .inl ⟨a, rfl⟩

theorem steady_ask (f : Workbench → α) : Steady (ask f) := fun _ => .inl ⟨_, rfl⟩

theorem steady_take (result : Except Failure α) : Steady (take result) := by
  intro bench
  cases result with
  | ok a => exact .inl ⟨a, rfl⟩
  | error failure => exact .inr ⟨.failed failure, 0, by simp [take_error]⟩

theorem steady_comments (script : String) : Steady (Work.comments script) := by
  intro bench
  cases htable : CommentTable.ofScript script with
  | ok table => exact .inl ⟨table, comments_of_ok htable bench⟩
  | error fault => exact .inr ⟨.comments fault, 0, by simp [comments_of_error htable]⟩

theorem Steady.bind {x : Work α} {f : α → Work β} (hx : Steady x) (hf : ∀ a, Steady (f a)) :
    Steady (x >>= f) := by
  intro bench
  rcases hx bench with ⟨a, ha⟩ | ⟨setback, depth, hset⟩
  · rw [bind_of_ok ha]
    exact hf a bench
  · rw [bind_of_error hset]
    exact .inr ⟨setback, depth, rfl⟩

theorem Steady.eq_of_ok {x : Work α} {bench next : Workbench} {a : α} (hx : Steady x)
    (h : x bench = (.ok a, next)) : next = bench := by
  rcases hx bench with ⟨b, hb⟩ | ⟨setback, depth, hset⟩
  · exact (Prod.mk.inj (h.symm.trans hb)).2
  · cases (Prod.mk.inj (h.symm.trans hset)).1

theorem Steady.bind_congr {x : Work α} {f g : α → Work β} {bench : Workbench} (hx : Steady x)
    (h : ∀ a, f a bench = g a bench) : (x >>= f) bench = (x >>= g) bench := by
  rcases hx bench with ⟨a, ha⟩ | ⟨setback, depth, hset⟩
  · rw [bind_of_ok ha, bind_of_ok ha, h]
  · rw [bind_of_error hset, bind_of_error hset]

/-- Going in and out again, where what is done inside ends well. -/
theorem inside_of_ok {x : Work α} {f : α → Work β} {bench : Workbench} {a : α}
    (h : x bench.deeper = (.ok a, bench.deeper)) :
    (do
      enter
      let a ← x
      leave
      f a) bench = f a bench := by
  have hleave : leave bench.deeper = (.ok (), bench) := by
    simp only [leave, Workbench.deeper, Int.add_sub_cancel]
  rw [bind_of_ok (show enter bench = (.ok (), bench.deeper) from rfl), bind_of_ok h,
    bind_of_ok hleave]

/-- What sets work back between going in and out again leaves the level one deeper than it is
counted inside. -/
theorem inside_of_error {x : Work α} {f : α → Work β} {bench : Workbench} {setback : Setback}
    {depth : Nat} (h : x bench.deeper =
      (.error setback, { bench.deeper with level := bench.deeper.level + depth })) :
    (do
      enter
      let a ← x
      leave
      f a) bench = (.error setback, { bench with level := bench.level + (depth + 1 : Nat) }) := by
  have hlevel : bench.deeper.level + (depth : Int) = bench.level + ((depth + 1 : Nat) : Int) := by
    simp only [Workbench.deeper]
    omega
  rw [bind_of_ok (show enter bench = (.ok (), bench.deeper) from rfl), bind_of_error h, hlevel]
  rfl

/-- Going in and out again is steady if what is done inside is. -/
theorem Steady.inside {x : Work α} {f : α → Work β} (hx : Steady x) (hf : ∀ a, Steady (f a)) :
    Steady (do
      enter
      let a ← x
      leave
      f a) := by
  intro bench
  rcases hx bench.deeper with ⟨a, ha⟩ | ⟨setback, depth, hset⟩
  · rw [inside_of_ok ha]
    exact hf a bench
  · rw [inside_of_error hset]
    exact .inr ⟨setback, depth + 1, rfl⟩

end Work

open Work

theorem writeComments_steady (indentation : String) (start stop : Value) :
    Steady (writeComments indentation start stop) :=
  (steady_ask _).bind fun _ => (steady_take _).bind fun _ => steady_pure _

theorem addRemarksOf_steady (line : Value) (lines : List String) :
    Steady (addRemarksOf line lines) := by
  unfold addRemarksOf
  split
  · exact steady_pure _
  · refine (steady_ask _).bind fun _ => (steady_take _).bind fun remarks => ?_
    cases remarks with
    | none => exact steady_pure _
    | some remarks => exact steady_pure _

theorem settle_steady (fields : Fields) (lines : List String) : Steady (settle fields lines) :=
  (addRemarksOf_steady _ _).bind fun _ => (steady_take _).bind fun _ => steady_pure _

theorem writeBlock_steady (header : String) (owner : Form)
    {children : String → Value → Work (List String × Value)}
    (h : ∀ inner start, Steady (children inner start)) :
    Steady (writeBlock header owner children) := by
  have hbelow : Steady (writeBelow owner children) :=
    (steady_ask _).bind fun inner => (steady_take _).bind fun _ => (steady_take _).bind fun start =>
      (h inner start).bind fun _ => (steady_take _).bind fun _ =>
        (writeComments_steady _ _ _).bind fun _ => steady_pure _
  exact (steady_ask _).bind fun _ => hbelow.inside fun _ => steady_pure _

mutual

theorem writeForm_steady : (form : Form) → Steady (writeForm form)
  | .other v => by
    rw [writeForm]
    exact steady_take _
  | .record fields body orelse => by
    rw [writeForm]
    refine (steady_ask _).bind fun outer => (steady_take _).bind fun header => ?_
    cases header with
    | none => exact (steady_ask _).bind fun _ => (steady_take _).bind fun _ => steady_pure _
    | some header =>
      refine (writeBlock_steady _ _ fun inner start => writeSuite_steady inner start body).bind
        fun main => ?_
      cases header with
      | loop text => exact steady_pure _
      | branch text => exact (writeElse_steady outer orelse).bind fun _ => steady_pure _
      | function text => exact steady_pure _

theorem writeSuite_steady (inner : String) (start : Value) : (suite : Suite) →
    Steady (writeSuite inner start suite)
  | .absent => by
    rw [writeSuite]
    exact steady_pure _
  | .forms items => by
    rw [writeSuite]
    exact writeChildren_steady inner start items
  | .other v => by
    rw [writeSuite]
    exact steady_take _

theorem writeChildren_steady (inner : String) (line : Value) : (items : List Form) →
    Steady (writeChildren inner line items)
  | [] => by
    rw [writeChildren]
    exact steady_pure _
  | form :: rest => by
    rw [writeChildren]
    refine (steady_take _).bind fun fields => (writeComments_steady _ _ _).bind fun before => ?_
    refine (writeForm_steady form).bind fun own => (settle_steady fields own).bind fun settled => ?_
    exact (writeChildren_steady inner settled.2 rest).bind fun _ => steady_pure _

theorem writeElse_steady (outer : String) : (suite : Suite) → Steady (writeElse outer suite)
  | .absent => by
    rw [writeElse]
    exact steady_pure _
  | .forms [] => by
    rw [writeElse]
    exact steady_pure _
  | .forms (form :: rest) => by
    rw [writeElse]
    exact (writePlain_steady (form :: rest)).inside fun _ => steady_pure _
  | .other v => by
    rw [writeElse]
    split
    · exact (steady_take _).inside fun _ => steady_pure _
    · exact steady_pure _

theorem writePlain_steady : (items : List Form) → Steady (writePlain items)
  | [] => by
    rw [writePlain]
    exact steady_pure _
  | form :: rest => by
    rw [writePlain]
    exact (writeForm_steady form).bind fun _ => (writePlain_steady rest).bind fun _ => steady_pure _

end

theorem writeChild_steady (form : Form) : Steady (writeChild form) :=
  (steady_take _).bind fun fields =>
    (writeForm_steady form).bind fun own => settle_steady fields own

theorem writeCommentsUpTo_steady (indentation : String) (line stop : Value) :
    Steady (writeCommentsUpTo indentation line stop) :=
  (steady_ask _).bind fun _ => (steady_take _).bind fun _ => steady_pure _

theorem writeMain_steady (inner : String) (line : Value) (forms : List Form) :
    Steady (writeMain inner line forms) := by
  induction forms generalizing line with
  | nil => exact (steady_ask _).bind fun _ => (writeCommentsUpTo_steady _ _ _).bind fun _ =>
      steady_pure _
  | cons form rest ih =>
    rw [writeMain]
    refine (steady_take _).bind fun fields => (writeCommentsUpTo_steady _ _ _).bind fun before => ?_
    refine (writeForm_steady form).bind fun own => (addRemarksOf_steady _ own).bind fun own => ?_
    refine (steady_take _).bind fun next => (steady_take _).bind fun next => ?_
    exact (ih next).bind fun _ => steady_pure _

/-- Writes the main function of a program, in the order of the script, behind what comes before. -/
def writeBody (opening : List String) (forms : List Form) : Work String := do
  let inner ← indent
  let body ← writeMain inner (.int 1) (← take (arranged forms))
  return assembled opening body

theorem writeBody_steady (opening : List String) (forms : List Form) :
    Steady (writeBody opening forms) :=
  (steady_ask _).bind fun _ => (steady_take _).bind fun _ => (writeMain_steady _ _ _).bind fun _ =>
    steady_pure _

/-- A program sets the comments at hand and the level before anything reads them. -/
theorem writeProgram_eq (forms : List Form) (script : String) (bench : Workbench) :
    writeProgram forms script bench =
      match CommentTable.ofScript script with
      | .error fault => (.error (.comments fault), bench)
      | .ok comments =>
        match prelude bench.settings forms with
        | .error failure => (.error (.failed failure), { bench with comments })
        | .ok opening => writeBody opening forms ⟨bench.settings, 1, comments⟩ := by
  cases htable : CommentTable.ofScript script with
  | error fault => exact bind_of_error (bind_of_error (comments_of_error htable bench))
  | ok comments =>
    have hload : load script bench = (.ok (), { bench with comments }) :=
      bind_of_ok (comments_of_ok htable bench)
    rw [writeProgram, bind_of_ok hload, ask_bind]
    dsimp only
    cases prelude bench.settings forms with
    | error failure => rfl
    | ok opening => rfl

/-- A program that is made has comments, an opening and a main function, which is written at level
one, and it leaves that level and the comments of its script. -/
theorem writeProgram_of_ok {forms : List Form} {script text : String} {bench : Workbench}
    (h : (writeProgram forms script bench).1 = .ok text) :
    ∃ table opening, CommentTable.ofScript script = .ok table ∧
      prelude bench.settings forms = .ok opening ∧
      writeBody opening forms ⟨bench.settings, 1, table⟩ =
        (.ok text, ⟨bench.settings, 1, table⟩) ∧
      (writeProgram forms script bench).2 = ⟨bench.settings, 1, table⟩ := by
  rw [writeProgram_eq] at h ⊢
  cases htable : CommentTable.ofScript script with
  | error fault =>
    rw [htable] at h
    cases h
  | ok table =>
    rw [htable] at h
    dsimp only at h ⊢
    cases hopening : prelude bench.settings forms with
    | error failure =>
      rw [hopening] at h
      cases h
    | ok opening =>
      rw [hopening] at h
      dsimp only at h ⊢
      rcases hbody : writeBody opening forms ⟨bench.settings, 1, table⟩ with ⟨result, next⟩
      rw [hbody] at h
      obtain rfl : result = .ok text := h
      obtain rfl := (writeBody_steady opening forms).eq_of_ok hbody
      exact ⟨table, opening, rfl, rfl, hbody, rfl⟩

end HubScript.Hub
