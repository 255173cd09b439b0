import HubScript.Proofs.Simulation

/-!
# How deep a failure leaves the workbench

Instructions are visited one after the other, those of a body and of an `else` part one step deeper
than the instruction they belong to. The first one that fails by itself ends the run, and the level
of the workbench then stays as deep as that instruction stands. A run that ends well leaves the
workbench as it was.
-/
namespace HubScript.Hub

/-- An instruction that is come to, with its depth below the one at the start. -/
structure Visit where
  depth : Nat
  fields : Fields

def Visit.deeper (visit : Visit) : Visit := { visit with depth := visit.depth + 1 }

mutual

/-- The instructions in the order in which they are come to if none of them fails. -/
def formVisits : Form → List Visit
  | .other _ => []
  | .record fields body orelse =>
    let others := if Fields.hasType fields ["if"] then suiteVisits orelse else []
    let inside := if Fields.isCompound fields then suiteVisits body ++ others else []
    ⟨0, fields⟩ :: inside.map Visit.deeper

def suiteVisits : Suite → List Visit
  | .absent => []
  | .forms items => visitsOf items
  | .other _ => []

def visitsOf : List Form → List Visit
  | [] => []
  | form :: rest => formVisits form ++ visitsOf rest

end

mutual

/-- Whether a form is a record whose parts, where they are given, are lists of such records. -/
def formIsTree : Form → Bool
  | .record _ body orelse => suiteIsTree body && suiteIsTree orelse
  | .other _ => false

def suiteIsTree : Suite → Bool
  | .absent => true
  | .forms items => areTrees items
  | .other _ => false

def areTrees : List Form → Bool
  | [] => true
  | form :: rest => formIsTree form && areTrees rest

end

/-- Why an instruction fails by itself: its header cannot be written, or its statement. -/
def ownFailure? (settings : Settings) (fields : Fields) : Option Failure :=
  match header? fields with
  | .error failure => some failure
  | .ok (some _) => none
  | .ok none =>
    match statements settings fields with
    | .error failure => some failure
    | .ok _ => none

/-- The kinds of headers by the types of the instructions that have them. -/
inductive Headed (fields : Fields) : Option Header → Prop
  | step (htype : Fields.isCompound fields = false) : Headed fields none
  | loop (text : String) (htype : fields.type? = some "for" ∨ fields.type? = some "while") :
      Headed fields (some (.loop text))
  | branch (text : String) (htype : fields.type? = some "if") : Headed fields (some (.branch text))
  | function (text : String) (htype : fields.type? = some "function_def") :
      Headed fields (some (.function text))

theorem headed_of_header {fields : Fields} {result : Option Header}
    (h : header? fields = .ok result) : Headed fields result := by
  unfold header? at h
  split at h
  · rename_i htype
    obtain ⟨_, _, h⟩ := bind_eq_ok.mp h
    obtain ⟨_, _, h⟩ := bind_eq_ok.mp h
    obtain ⟨_, _, h⟩ := bind_eq_ok.mp h
    obtain rfl := Except.ok.inj h
    exact .loop _ (.inl htype)
  · rename_i htype
    obtain ⟨_, _, h⟩ := bind_eq_ok.mp h
    obtain rfl := Except.ok.inj h
    exact .loop _ (.inr htype)
  · rename_i htype
    obtain ⟨_, _, h⟩ := bind_eq_ok.mp h
    obtain rfl := Except.ok.inj h
    exact .branch _ htype
  · rename_i htype
    obtain ⟨_, _, h⟩ := bind_eq_ok.mp h
    obtain ⟨_, _, h⟩ := bind_eq_ok.mp h
    obtain ⟨_, _, h⟩ := bind_eq_ok.mp h
    obtain ⟨_, _, h⟩ := bind_eq_ok.mp h
    obtain rfl := Except.ok.inj h
    exact .function _ htype
  · rename_i hfor hwhile hif hdef
    obtain rfl := Except.ok.inj h
    refine .step ?_
    rw [Fields.isCompound, Fields.hasType]
    cases htype : fields.type? with
    | none => rfl
    | some name =>
      simp only [htype, Option.some.injEq, imp_false] at hfor hwhile hif hdef
      simp [hfor, hwhile, hif, hdef]

/-- The visits of what an instruction holds, by its header. -/
def visitsInside (body orelse : Suite) : Option Header → List Visit
  | none => []
  | some (.branch _) => suiteVisits body ++ suiteVisits orelse
  | some _ => suiteVisits body

theorem formVisits_of_headed {fields : Fields} {result : Option Header}
    (h : Headed fields result) (body orelse : Suite) :
    formVisits (.record fields body orelse) =
      ⟨0, fields⟩ :: (visitsInside body orelse result).map Visit.deeper := by
  rw [formVisits]
  cases h with
  | step htype => simp [htype, visitsInside]
  | loop text htype =>
    rcases htype with htype | htype <;>
      simp [Fields.isCompound, Fields.hasType, htype, visitsInside]
  | branch text htype => simp [Fields.isCompound, Fields.hasType, htype, visitsInside]
  | function text htype => simp [Fields.isCompound, Fields.hasType, htype, visitsInside]

/-- A run goes through visits in their order: it ends well if none of them fails by itself, and
else it fails as the first one that does, at the depth of that one. -/
inductive Tracks {α : Type} (settings : Settings) (visits : List Visit) : Made α → Prop
  | made {a : α} (clean : ∀ visit ∈ visits, ownFailure? settings visit.fields = none) :
      Tracks settings visits (.ok a)
  | stopped {before after : List Visit} {visit : Visit} {failure : Failure}
      (split : visits = before ++ visit :: after)
      (clean : ∀ earlier ∈ before, ownFailure? settings earlier.fields = none)
      (own : ownFailure? settings visit.fields = some failure) :
      Tracks settings visits (.error ⟨failure, visit.depth⟩)

namespace Tracks

variable {α β : Type} {settings : Settings} {visits later : List Visit} {x : Made α}

theorem nothing (a : α) : Tracks settings [] (.ok a) := .made nofun

theorem bind {f : α → Made β} (hx : Tracks settings visits x)
    (hf : ∀ a, Tracks settings later (f a)) : Tracks settings (visits ++ later) (x >>= f) := by
  cases hx with
  | @made a clean =>
    rw [ok_bind]
    have hlater := hf a
    generalize f a = y at hlater ⊢
    cases hlater with
    | made others => exact .made (List.forall_mem_append.mpr ⟨clean, others⟩)
    | @stopped before after visit failure split others own =>
      have hsplit : visits ++ later = visits ++ before ++ visit :: after := by
        rw [split, List.append_assoc]
      exact .stopped hsplit (List.forall_mem_append.mpr ⟨clean, others⟩) own
  | @stopped before after visit failure split clean own =>
    rw [error_bind]
    have hsplit : visits ++ later = before ++ visit :: (after ++ later) := by
      rw [split, List.append_assoc, List.cons_append]
    exact .stopped hsplit clean own

theorem map (hx : Tracks settings visits x) (f : α → β) :
    Tracks settings visits (x >>= fun a => .ok (f a)) := by
  have hbind := hx.bind fun a => (nothing (f a) : Tracks settings [] _)
  rwa [List.append_nil] at hbind

theorem exceptMap (hx : Tracks settings visits x) (f : α → β) :
    Tracks settings visits (x.map f) := by
  rw [map_eq_bind]
  exact hx.map f

theorem within (hx : Tracks settings visits x) :
    Tracks settings (visits.map Visit.deeper) (within x) := by
  cases hx with
  | made clean => exact .made (List.forall_mem_map.mpr clean)
  | @stopped before after visit failure split clean own =>
    have hsplit : visits.map Visit.deeper =
        before.map Visit.deeper ++ visit.deeper :: after.map Visit.deeper := by
      rw [split, List.map_append, List.map_cons]
    exact .stopped hsplit (List.forall_mem_map.mpr clean) own

/-- An instruction that does not fail by itself, before what it holds. -/
theorem cons {fields : Fields} (hown : ownFailure? settings fields = none)
    (hx : Tracks settings visits x) : Tracks settings (⟨0, fields⟩ :: visits) x := by
  have hfirst : Tracks settings [⟨0, fields⟩] (.ok () : Made Unit) :=
    .made (List.forall_mem_singleton.mpr hown)
  exact hfirst.bind fun _ => hx

/-- An instruction that fails by itself, whatever it holds. -/
theorem stop {fields : Fields} {failure : Failure}
    (hown : ownFailure? settings fields = some failure) :
    Tracks settings (⟨0, fields⟩ :: visits) (.error ⟨failure, 0⟩ : Made α) :=
  .stopped (List.nil_append _).symm nofun hown

end Tracks

section Lines

variable (scene : Scene)

/-- A step fails by itself or not at all. -/
theorem tracks_step {fields : Fields} (h : header? fields = .ok none) :
    Tracks scene.settings [⟨0, fields⟩] (here (statements scene.settings fields)) := by
  cases hstep : statements scene.settings fields with
  | ok texts =>
    have hown : ownFailure? scene.settings fields = none := by
      simp only [ownFailure?, h, hstep]
    exact (Tracks.nothing texts).cons hown
  | error failure =>
    have hown : ownFailure? scene.settings fields = some failure := by
      simp only [ownFailure?, h, hstep]
    exact .stop hown

mutual

theorem formLines_tracks : (form : Form) → formIsTree form = true →
    Tracks scene.settings (formVisits form) (formLines scene form)
  | .other _, h => by cases h
  | .record fields body orelse, h => by
    rw [formIsTree, Bool.and_eq_true] at h
    have hbody (header : Header) := blockLines_tracks header.text (Fields.line? fields)
      (Fields.lastLine? fields) body h.1
    cases hheader : header? fields with
    | error failure =>
      have hown : ownFailure? scene.settings fields = some failure := by
        simp only [ownFailure?, hheader]
      rw [formLines_of_header_error scene body orelse hheader, formVisits]
      exact .stop hown
    | ok result =>
      have hheaded := headed_of_header hheader
      rw [formVisits_of_headed hheaded]
      cases result with
      | none =>
        rw [formLines_of_header_none scene body orelse hheader]
        exact (tracks_step scene hheader).map _
      | some header =>
        have hown : ownFailure? scene.settings fields = none := by
          simp only [ownFailure?, hheader]
        rw [formLines_of_header_some scene body orelse hheader]
        refine Tracks.cons hown ?_
        cases header with
        | loop text => exact (hbody (.loop text)).map _
        | branch text =>
          rw [visitsInside, List.map_append]
          exact (hbody (.branch text)).bind fun main => (elseLines_tracks orelse h.2).map _
        | function text => exact (hbody (.function text)).map _

theorem blockLines_tracks (header : String) (first last : Option Int) : (suite : Suite) →
    suiteIsTree suite = true →
    Tracks scene.settings ((suiteVisits suite).map Visit.deeper)
      (blockLines scene header first last suite)
  | .absent, _ => by
    rw [blockLines]
    exact .nothing _
  | .forms items, h => by
    rw [blockLines]
    exact (childrenLines_tracks (first.getD 0 + 1) items h).within.map _
  | .other _, h => by cases h

theorem childrenLines_tracks (cursor : Int) : (items : List Form) → areTrees items = true →
    Tracks scene.settings (visitsOf items) (childrenLines scene cursor items)
  | [], _ => by
    rw [childrenLines]
    exact .nothing _
  | .other _ :: _, h => by cases h
  | .record fields body orelse :: rest, h => by
    rw [areTrees, Bool.and_eq_true] at h
    rw [childrenLines, visitsOf]
    refine (formLines_tracks (.record fields body orelse) h.1).bind fun own => ?_
    exact (childrenLines_tracks _ rest h.2).map _

theorem elseLines_tracks : (suite : Suite) → suiteIsTree suite = true →
    Tracks scene.settings ((suiteVisits suite).map Visit.deeper) (elseLines scene suite)
  | .absent, _ => by
    rw [elseLines]
    exact .nothing _
  | .forms [], _ => by
    rw [elseLines]
    exact .nothing _
  | .forms (form :: rest), h => by
    rw [elseLines]
    exact (plainLines_tracks (form :: rest) h).within.map _
  | .other _, h => by cases h

theorem plainLines_tracks : (items : List Form) → areTrees items = true →
    Tracks scene.settings (visitsOf items) (plainLines scene items)
  | [], _ => by
    rw [plainLines]
    exact .nothing _
  | form :: rest, h => by
    rw [areTrees, Bool.and_eq_true] at h
    rw [plainLines, visitsOf]
    exact (formLines_tracks form h.1).bind fun own => (plainLines_tracks rest h.2).map _

end

end Lines

namespace Workbench

/-- An attempt that goes through visits: it gives something and leaves the workbench as it was, if
none of them fails by itself; else it fails as the first one that does, and leaves the level deeper
by the depth of that one. -/
inductive Balanced (bench : Workbench) (visits : List Visit) : Attempt → Prop
  | returned {outcome : Outcome}
      (clean : ∀ visit ∈ visits, ownFailure? bench.settings visit.fields = none) :
      Balanced bench visits (.ok outcome, bench)
  | failed {before after : List Visit} {visit : Visit} {failure : Failure}
      (split : visits = before ++ visit :: after)
      (clean : ∀ earlier ∈ before, ownFailure? bench.settings earlier.fields = none)
      (own : ownFailure? bench.settings visit.fields = some failure) :
      Balanced bench visits
        (.error (.failed failure), { bench with level := bench.level + visit.depth })

theorem made_balanced {bench : Workbench} {visits : List Visit} {result : Made Outcome}
    (h : Tracks bench.settings visits result) : Balanced bench visits (bench.made result) := by
  cases h with
  | made clean => exact .returned clean
  | stopped split clean own => exact .failed split clean own

theorem Balanced.level_le {bench : Workbench} {visits : List Visit} {attempt : Attempt}
    (h : Balanced bench visits attempt) : bench.level ≤ attempt.2.level := by
  cases h with
  | returned clean => exact Int.le_refl _
  | failed split clean own => exact Int.le_add_of_nonneg_right (Int.natCast_nonneg _)

theorem childLines_tracks (scene : Scene) {form : Form} (htree : formIsTree form = true) :
    Tracks scene.settings (formVisits form) (childLines scene form) := by
  cases form with
  | other v => cases htree
  | record fields body orelse => exact (formLines_tracks scene _ htree).map _

/-- Making an instruction, a block from the body of one, or an instruction as one of a block, from
any level and with any comments: the level is the same afterwards unless an instruction fails, and
then it is deeper by as much as that instruction stands below the one at the start. Line numbers are
whole where they are given. -/
theorem level_balanced (bench : Workbench) (header : String) {form : Form}
    (htree : formIsTree form = true) (hnumbered : formIsNumbered form = true) :
    Balanced bench (formVisits form) (bench.run (.lines form)) ∧
    Balanced bench ((suiteVisits (suiteOf form "body")).map Visit.deeper)
      (bench.run (.block header form "body")) ∧
    Balanced bench (formVisits form) (bench.run (.child form)) ∧
    ∀ task ∈ [Task.lines form, .block header form "body", .child form],
      bench.level ≤ (bench.run task).2.level := by
  have hlines : Balanced bench (formVisits form) (bench.run (.lines form)) := by
    rw [run_lines bench hnumbered]
    exact made_balanced ((formLines_tracks bench.scene form htree).exceptMap _)
  have hblock : Balanced bench ((suiteVisits (suiteOf form "body")).map Visit.deeper)
      (bench.run (.block header form "body")) := by
    cases form with
    | other v => cases htree
    | record fields body orelse =>
      rw [formIsTree, Bool.and_eq_true] at htree
      rw [run_block bench header hnumbered]
      exact made_balanced ((blockLines_tracks bench.scene header _ _ body htree.1).exceptMap _)
  have hchild : Balanced bench (formVisits form) (bench.run (.child form)) := by
    rw [run_child bench hnumbered]
    exact made_balanced ((childLines_tracks bench.scene htree).exceptMap _)
  refine ⟨hlines, hblock, hchild, ?_⟩
  simp only [List.forall_mem_cons, List.not_mem_nil, false_imp_iff, implies_true, and_true]
  exact ⟨hlines.level_le, hblock.level_le, hchild.level_le⟩

/-- A loop over a branch whose other part waits for something that is no number. -/
def stuckForm : Form :=
  .record [("type", .str "while"), ("condition", .str "True"), ("lineno", .int 1),
      ("end_lineno", .none)]
    (.forms [.record [("type", .str "if"), ("condition", .str "x")]
      (.forms [.record [("type", .str "break")] .absent .absent])
      (.forms [.record [("type", .str "wait"), ("seconds", .none)] .absent .absent])]) .absent

theorem level_balanced_stuckForm :
    let bench : Workbench := ⟨Settings.standard, -3, .empty⟩
    formIsTree stuckForm = true ∧ formIsNumbered stuckForm = true ∧
    (formVisits stuckForm).map (·.depth) = [0, 1, 2, 2] ∧
    [Task.lines stuckForm, .block "while True:" stuckForm "body", .child stuckForm].map
      (fun task => (bench.run task).2.level) = [-1, -1, -1] ∧
    Balanced bench (formVisits stuckForm) (bench.run (.lines stuckForm)) ∧
    Balanced bench ((suiteVisits (suiteOf stuckForm "body")).map Visit.deeper)
      (bench.run (.block "while True:" stuckForm "body")) ∧
    Balanced bench (formVisits stuckForm) (bench.run (.child stuckForm)) := by
  intro bench
  have htree : formIsTree stuckForm = true := by decide
  have hnumbered : formIsNumbered stuckForm = true := by decide
  obtain ⟨hlines, hblock, hchild, -⟩ := level_balanced bench "while True:" htree hnumbered
  exact ⟨htree, hnumbered, by decide, by decide +kernel, hlines, hblock, hchild⟩

end Workbench

end HubScript.Hub
