import HubScript.Proofs.Layout
import HubScript.Proofs.LineOrigins

/-!
# Where remarks go

A remark goes with the instruction that starts on its line, to the last of the lines made from it:
the only line of a step, but the end of the body of a loop, the gap after a function, or the end of
the other part of a branch. An instruction that stands in such a part loses its remarks.
-/
namespace HubScript

open Hub

namespace Instruction

def startsAt (l : Nat) (i : Instruction) : Bool := i.info.span.any (·.first == l)

/-- Whether an instruction starts on a line of the script and has lines in the program. -/
def opensAt (scene : Scene) (l : Nat) (i : Instruction) : Bool :=
  i.startsAt l && !(i.trace scene).isEmpty

theorem line?_getD (i : Instruction) :
    (Fields.line? i.fields).getD 0 = ((i.info.span.map Span.first).getD 0 : Nat) := by
  cases hspan : i.info.span with
  | some span =>
    rw [Fields.line?, lineField?, (lookup_line hspan).1]
    by_cases hzero : span.first = 0
    · simp [Value.asInt?, Option.filter, hzero]
    · simp [Value.asInt?, Option.filter, hzero]
  | none =>
    have hinfo : i.info.fields.lookup "lineno" = none := by
      unfold Info.fields
      rw [hspan]
      cases i.info.awaited <;> rfl
    rw [Fields.line?, lineField?, fields, List.lookup_append, i.lookup_ownFields_line (.inl rfl),
      hinfo]
    rfl

theorem line?_eq_iff {l : Nat} (hl : 0 < l) (i : Instruction) :
    (Fields.line? i.fields).getD 0 = (l : Int) ↔ i.startsAt l = true := by
  rw [line?_getD, startsAt]
  cases i.info.span with
  | none =>
    simp only [Option.map_none, Option.getD_none, Option.any_none, Bool.false_eq_true, iff_false]
    omega
  | some span =>
    simp only [Option.map_some, Option.getD_some, Option.any_some, beq_iff_eq]
    omega

end Instruction

/-- Whether an instruction in the other part of a branch opens at a line. -/
def elseOpensAt (scene : Scene) (l : Nat) (instrs : List Instruction) : Bool :=
  (nestedAll instrs).any fun i => i.orelse.any (·.opensAt scene l)

@[simp] theorem elseOpensAt_nil (scene : Scene) (l : Nat) : elseOpensAt scene l [] = false := rfl

theorem elseOpensAt_cons (scene : Scene) (l : Nat) (i : Instruction) (rest : List Instruction) :
    elseOpensAt scene l (i :: rest) =
      (i.orelse.any (·.opensAt scene l) || elseOpensAt scene l i.body ||
        elseOpensAt scene l i.orelse || elseOpensAt scene l rest) := by
  simp [elseOpensAt, nestedAll, Instruction.nested_eq, Bool.or_assoc]

/-- How often the remarks of a line of the script follow each line of a program. -/
def bearings (l : Nat) (marks : List Mark) : List (Origin × Nat) :=
  marks.map fun m => (m.origin, m.remarks.count (l : Int))

/-- Lines that bear no remarks. -/
def bare (origins : List Origin) : List (Origin × Nat) := origins.map (·, 0)

@[simp] theorem bare_nil : bare [] = [] := rfl

@[simp] theorem bare_cons (o : Origin) (others : List Origin) :
    bare (o :: others) = (o, 0) :: bare others := rfl

@[simp] theorem bare_append (a b : List Origin) : bare (a ++ b) = bare a ++ bare b :=
  List.map_append

/-- No line bears the remarks of a line of the script. -/
def Free (l : Nat) (marks : List Mark) : Prop := bearings l marks = bare (origins marks)

/-- The last one of some lines that stand together bears the remarks of a line so many times, and no
other line does. -/
def Bears (l : Nat) (marks : List Mark) (own : List Origin) (n : Nat) : Prop :=
  ∃ before init last after, own = init ++ [last] ∧
    bearings l marks = bare (before ++ init) ++ (last, n) :: bare after

section Bearings

variable {l : Nat} {marks others : List Mark} {own : List Origin} {n : Nat}

@[simp] theorem bearings_append (a b : List Mark) :
    bearings l (a ++ b) = bearings l a ++ bearings l b := List.map_append

@[simp] theorem bearings_deeper (marks : List Mark) :
    bearings l (marks.map Mark.deeper) = bearings l marks := by
  simp [bearings, Mark.deeper, Function.comp_def]

theorem bearings_annotate {line : Int} (h : line ≠ l) (marks : List Mark) :
    bearings l (annotate line marks) = bearings l marks := by
  rcases marks.eq_nil_or_concat with rfl | ⟨others, last, rfl⟩
  · rfl
  · simp [annotate_concat, bearings, h]

theorem Free.of_bare (h : ∀ m ∈ marks, m.remarks = []) : Free l marks := by
  rw [Free, bearings, bare, origins, List.map_map]
  refine List.map_congr_left fun m hm => ?_
  simp [h m hm]

theorem Free.append (h : Free l marks) (hothers : Free l others) : Free l (marks ++ others) := by
  rw [Free, bearings_append, h, hothers, origins_append, bare_append]

theorem Free.deeper (h : Free l marks) : Free l (marks.map Mark.deeper) := by
  rw [Free, bearings_deeper, h, origins_deeper]

theorem Bears.append (h : Bears l marks own n) (hothers : Free l others) :
    Bears l (marks ++ others) own n := by
  obtain ⟨before, init, last, after, hown, hbears⟩ := h
  exact ⟨before, init, last, after ++ origins others, hown, by
    rw [bearings_append, hbears, hothers]; simp⟩

theorem Bears.after (h : Bears l marks own n) (hothers : Free l others) :
    Bears l (others ++ marks) own n := by
  obtain ⟨before, init, last, after, hown, hbears⟩ := h
  exact ⟨origins others ++ before, init, last, after, hown, by
    rw [bearings_append, hbears, hothers]; simp⟩

theorem Bears.congr (h : Bears l marks own n) (hsame : bearings l others = bearings l marks) :
    Bears l others own n := by
  obtain ⟨before, init, last, after, hown, hbears⟩ := h
  exact ⟨before, init, last, after, hown, hsame.trans hbears⟩

theorem Free.bears (h : Free l marks) (hne : marks ≠ []) : Bears l marks (origins marks) 0 := by
  rcases marks.eq_nil_or_concat with rfl | ⟨init, last, rfl⟩
  · exact absurd rfl hne
  · exact ⟨[], origins init, last.origin, [], by simp [origins], by rw [h]; simp [origins]⟩

/-- Lines without the remarks of a line bear them once they are added, on the last one. -/
theorem Free.annotate (h : Free l marks) (hne : marks ≠ []) :
    Bears l (Hub.annotate l marks) (origins marks) 1 := by
  rcases marks.eq_nil_or_concat with rfl | ⟨init, last, rfl⟩
  · exact absurd rfl hne
  · rw [List.concat_eq_append] at h ⊢
    rw [Free, bearings_append, origins_append, bare_append] at h
    obtain ⟨hinit, hlast⟩ := List.append_inj h (by simp [bearings, bare, origins])
    have hcount : last.remarks.count (l : Int) = 0 := by
      simpa [bearings, origins] using hlast
    refine ⟨[], origins init, last.origin, [], by simp, ?_⟩
    rw [annotate_concat, bearings_append, hinit]
    simp [bearings, hcount]

end Bearings

section Parts

variable {scene : Scene} {l : Nat} {i j : Instruction} {marks : List Mark}

theorem free_commentMarks (table : CommentTable) (start stop : Int) :
    Free l (commentMarks table start stop) :=
  .of_bare fun m hm => by
    obtain ⟨_, -, rfl⟩ := List.mem_map.mp hm
    rfl

theorem free_ownMarks (scene : Scene) (i : Instruction) : Free l (ownMarks scene i) :=
  .of_bare fun m hm => by
    obtain ⟨_, -, rfl⟩ := List.mem_map.mp hm
    rfl

theorem free_blockMarks {body : List Mark × Int} (h : Free l body.1) :
    Free l (blockMarks scene i body) :=
  (free_ownMarks scene i).append (h.append (free_commentMarks _ _ _)).deeper

theorem bears_blockMarks {body : List Mark × Int} {own : List Origin} {n : Nat}
    (h : Bears l body.1 own n) : Bears l (blockMarks scene i body) own n :=
  ((h.append (free_commentMarks _ _ _)).congr (bearings_deeper _)).after (free_ownMarks scene i)

theorem free_tailMarks (h : Free l marks) : Free l (tailMarks i marks) := by
  have hbare (m : Mark) (hm : m.remarks = []) : Free l [m] := .of_bare (by simpa using hm)
  unfold tailMarks
  split
  · exact hbare _ rfl
  · split
    · exact .of_bare (by simp)
    · exact (hbare _ rfl).append h.deeper

theorem free_trace_of_compound (hcompound : i.isCompound = true)
    (hbody : ∀ cursor, Free l (childrenTrace scene cursor i.body).1)
    (helse : Free l (plainTrace scene i.orelse)) : Free l (i.trace scene) := by
  rw [Instruction.trace_of_compound scene hcompound]
  exact (free_blockMarks (hbody _)).append (free_tailMarks helse)

theorem bears_trace_of_body {own : List Origin} {n : Nat} (hcompound : i.isCompound = true)
    (hbody : ∀ cursor, Bears l (childrenTrace scene cursor i.body).1 own n)
    (helse : Free l (plainTrace scene i.orelse)) : Bears l (i.trace scene) own n := by
  rw [Instruction.trace_of_compound scene hcompound]
  exact (bears_blockMarks (hbody _)).append (free_tailMarks helse)

theorem bears_trace_of_orelse {own : List Origin} {n : Nat} (horelse : i.orelse ≠ [])
    (hbody : ∀ cursor, Free l (childrenTrace scene cursor i.body).1)
    (helse : Bears l (plainTrace scene i.orelse) own n) : Bears l (i.trace scene) own n := by
  rw [Instruction.trace_of_orelse scene horelse, ← List.singleton_append]
  have hword : Free l [⟨.otherwise (Fields.line? i.fields), .code 0 "else:", []⟩] :=
    .of_bare (by simp)
  exact ((helse.congr (bearings_deeper _)).after hword).after (free_blockMarks (hbody _))

/-- An instruction that does not open at a line does not bring its remarks. -/
theorem bearings_annotate_trace (hl : 0 < l) (h : i.opensAt scene l = false) :
    bearings l (annotate ((Fields.line? i.fields).getD 0) (i.trace scene)) =
      bearings l (i.trace scene) := by
  by_cases hstarts : i.startsAt l = true
  · have hempty : i.trace scene = [] := by
      simpa [Instruction.opensAt, hstarts] using h
    rw [hempty, annotate_nil]
  · exact bearings_annotate (mt (Instruction.line?_eq_iff hl i).mp hstarts) _

end Parts

/-- The instructions of a forest that open at a line. -/
def openersAt (scene : Scene) (l : Nat) (instrs : List Instruction) : List Instruction :=
  (nestedAll instrs).filter (·.opensAt scene l)

theorem openersAt_cons (scene : Scene) (l : Nat) (i : Instruction) (rest : List Instruction) :
    openersAt scene l (i :: rest) =
      (if i.opensAt scene l then [i] else []) ++
        (openersAt scene l i.body ++ openersAt scene l i.orelse) ++ openersAt scene l rest := by
  cases hopens : i.opensAt scene l <;> simp [openersAt, nestedAll, Instruction.nested_eq, hopens]

/-- Where no instruction opens at a line, none in another part does. -/
theorem no_opening {scene : Scene} {l : Nat} {instrs : List Instruction}
    (h : openersAt scene l instrs = []) :
    instrs.any (·.opensAt scene l) = false ∧ elseOpensAt scene l instrs = false := by
  refine Instruction.forest_induction
    (P := fun i => openersAt scene l i.body = [] → openersAt scene l i.orelse = [] →
      elseOpensAt scene l [i] = false)
    (Q := fun instrs => openersAt scene l instrs = [] →
      instrs.any (·.opensAt scene l) = false ∧ elseOpensAt scene l instrs = false)
    ?step ?compound ?nil ?cons instrs h
  case step => exact fun act info _ _ => rfl
  case compound =>
    intro i _ hbody helse hb he
    simp [elseOpensAt_cons, hbody hb, helse he]
  case nil => exact fun _ => ⟨rfl, rfl⟩
  case cons =>
    intro i rest hi hrest hnone
    simp only [openersAt_cons, List.append_eq_nil_iff] at hnone
    obtain ⟨⟨hself, hbody, helse⟩, hothers⟩ := hnone
    have hopens : i.opensAt scene l = false := by simpa using hself
    have hinside := hi hbody helse
    rw [elseOpensAt_cons] at hinside
    simp only [Bool.or_eq_false_iff] at hinside
    simp [elseOpensAt_cons, hopens, hinside, hrest hothers]

/-- Where the only instruction that opens at a line stands in a row. -/
inductive OpensIn (scene : Scene) (l : Nat) (i : Instruction) :
    Instruction → List Instruction → Prop
  | self {rest : List Instruction} (opens : i.opensAt scene l = true)
      (inside : openersAt scene l i.body ++ openersAt scene l i.orelse = [])
      (later : openersAt scene l rest = []) (kept : elseOpensAt scene l (i :: rest) = false) :
      OpensIn scene l i i rest
  | inside {j : Instruction} {rest : List Instruction} (shut : j.opensAt scene l = false)
      (inside : openersAt scene l j.body ++ openersAt scene l j.orelse = [i])
      (later : openersAt scene l rest = [])
      (kept : elseOpensAt scene l (j :: rest) = elseOpensAt scene l [j])
      (apart : rest.any (·.opensAt scene l) = false) : OpensIn scene l i j rest
  | later {j : Instruction} {rest : List Instruction} (shut : j.opensAt scene l = false)
      (inside : openersAt scene l j.body ++ openersAt scene l j.orelse = [])
      (later : openersAt scene l rest = [i])
      (kept : elseOpensAt scene l (j :: rest) = elseOpensAt scene l rest) : OpensIn scene l i j rest

theorem opensIn_of_singleton {scene : Scene} {l : Nat} {i j : Instruction}
    {rest : List Instruction} (h : openersAt scene l (j :: rest) = [i]) :
    OpensIn scene l i j rest := by
  have hinside (hnone : openersAt scene l j.body ++ openersAt scene l j.orelse = []) :
      j.orelse.any (·.opensAt scene l) = false ∧ elseOpensAt scene l j.body = false ∧
        elseOpensAt scene l j.orelse = false := by
    obtain ⟨hbody, helse⟩ := List.append_eq_nil_iff.mp hnone
    exact ⟨(no_opening helse).1, (no_opening hbody).2, (no_opening helse).2⟩
  rw [openersAt_cons] at h
  by_cases hopens : j.opensAt scene l = true
  · rw [if_pos hopens, List.append_assoc, List.singleton_append] at h
    obtain ⟨rfl, hnone⟩ := List.cons.inj h
    obtain ⟨hparts, hrest⟩ := List.append_eq_nil_iff.mp hnone
    exact .self hopens hparts hrest (by
      simp [elseOpensAt_cons, hinside hparts, (no_opening hrest).2])
  · rw [if_neg hopens, List.nil_append] at h
    rcases List.append_eq_singleton_iff.mp h with ⟨hparts, hrest⟩ | ⟨hparts, hrest⟩
    · exact .later (by simpa using hopens) hparts hrest (by
        simp [elseOpensAt_cons, hinside hparts])
    · exact .inside (by simpa using hopens) hparts hrest
        (by simp [elseOpensAt_cons, (no_opening hrest).2]) (no_opening hrest).1

/-- The remarks of a line among the lines of an instruction: they follow those of the only
instruction inside that opens there, unless it stands in the other part of a branch. -/
structure Instruction.Placed (scene : Scene) (l : Nat) (j : Instruction) : Prop where
  free : openersAt scene l j.body ++ openersAt scene l j.orelse = [] → Free l (j.trace scene)
  bears : ∀ i, openersAt scene l j.body ++ openersAt scene l j.orelse = [i] →
    Bears l (j.trace scene) (origins (i.trace scene)) (if elseOpensAt scene l [j] then 0 else 1)

section Row

variable {scene : Scene} {l : Nat} {i j : Instruction} {rest : List Instruction}
  {before others : List Mark}

theorem free_row (hl : 0 < l) (hj : j.Placed scene l) (hnone : openersAt scene l (j :: rest) = [])
    (hbefore : Free l before) (hothers : openersAt scene l rest = [] → Free l others) :
    Free l (before ++ annotate ((Fields.line? j.fields).getD 0) (j.trace scene) ++ others) := by
  simp only [openersAt_cons, List.append_eq_nil_iff] at hnone
  obtain ⟨⟨hself, hparts⟩, hrest⟩ := hnone
  have hshut : j.opensAt scene l = false := by simpa using hself
  have hown : Free l (annotate ((Fields.line? j.fields).getD 0) (j.trace scene)) := by
    rw [Free, bearings_annotate_trace hl hshut, hj.free (List.append_eq_nil_iff.mpr hparts),
      origins_annotate]
  exact (hbefore.append hown).append (hothers hrest)

/-- The remarks of a line in a row of instructions that are given their remarks. -/
theorem bears_row (hl : 0 < l) (hj : j.Placed scene l) (hone : openersAt scene l (j :: rest) = [i])
    (hbefore : Free l before) (hothers : openersAt scene l rest = [] → Free l others)
    (hbears : openersAt scene l rest = [i] →
      Bears l others (origins (i.trace scene)) (if elseOpensAt scene l rest then 0 else 1)) :
    Bears l (before ++ annotate ((Fields.line? j.fields).getD 0) (j.trace scene) ++ others)
      (origins (i.trace scene)) (if elseOpensAt scene l (j :: rest) then 0 else 1) := by
  cases opensIn_of_singleton hone with
  | self opens inside later kept =>
    obtain ⟨hstarts, hlines⟩ := Bool.and_eq_true_iff.mp opens
    have hne : i.trace scene ≠ [] := by simpa using hlines
    rw [kept, (Instruction.line?_eq_iff hl i).mpr hstarts]
    exact (((hj.free inside).annotate hne).after hbefore).append (hothers later)
  | inside shut inside later kept =>
    rw [kept]
    have hown := (hj.bears i inside).congr (bearings_annotate_trace hl shut)
    exact (hown.after hbefore).append (hothers later)
  | later shut inside later kept =>
    rw [kept]
    have hown : Free l (annotate ((Fields.line? j.fields).getD 0) (j.trace scene)) := by
      rw [Free, bearings_annotate_trace hl shut, hj.free inside, origins_annotate]
    exact (hbears later).after (hbefore.append hown)

end Row

/-- The remarks of a line among the lines of a forest. Without comments between the instructions
they are not given their remarks either, so those that stand in the row itself lose them. -/
structure Placed (scene : Scene) (l : Nat) (instrs : List Instruction) : Prop where
  each : ∀ j ∈ instrs, j.Placed scene l
  free : openersAt scene l instrs = [] →
    (∀ cursor, Free l (childrenTrace scene cursor instrs).1) ∧ Free l (plainTrace scene instrs)
  bears : ∀ i, openersAt scene l instrs = [i] →
    (∀ cursor, Bears l (childrenTrace scene cursor instrs).1 (origins (i.trace scene))
      (if elseOpensAt scene l instrs then 0 else 1)) ∧
    Bears l (plainTrace scene instrs) (origins (i.trace scene))
      (if instrs.any (·.opensAt scene l) || elseOpensAt scene l instrs then 0 else 1)

theorem placed_compound {scene : Scene} {l : Nat} {j : Instruction}
    (hcompound : j.isCompound = true) (hbody : Placed scene l j.body)
    (helse : Placed scene l j.orelse) : j.Placed scene l := by
  constructor
  · intro hnone
    obtain ⟨hb, he⟩ := List.append_eq_nil_iff.mp hnone
    exact free_trace_of_compound hcompound (hbody.free hb).1 (helse.free he).2
  · intro i hone
    -- the instruction that opens is in the other part or in the body, and only there
    rcases List.append_eq_singleton_iff.mp hone with ⟨hb, he⟩ | ⟨hb, he⟩
    · have horelse : j.orelse ≠ [] := by
        intro hnil
        rw [hnil] at he
        cases he
      have hsame : elseOpensAt scene l [j] =
          (j.orelse.any (·.opensAt scene l) || elseOpensAt scene l j.orelse) := by
        simp [elseOpensAt_cons, (no_opening hb).2]
      rw [hsame]
      exact bears_trace_of_orelse horelse (hbody.free hb).1 (helse.bears i he).2
    · have hsame : elseOpensAt scene l [j] = elseOpensAt scene l j.body := by
        simp [elseOpensAt_cons, no_opening he]
      rw [hsame]
      exact bears_trace_of_body hcompound (hbody.bears i hb).1 (helse.free he).2

theorem bears_plain {scene : Scene} {l : Nat} {i j : Instruction} {rest : List Instruction}
    (hj : j.Placed scene l) (hrest : Placed scene l rest)
    (hone : openersAt scene l (j :: rest) = [i]) :
    Bears l (plainTrace scene (j :: rest)) (origins (i.trace scene))
      (if (j :: rest).any (·.opensAt scene l) || elseOpensAt scene l (j :: rest) then 0
        else 1) := by
  rw [plainTrace, List.any_cons]
  cases opensIn_of_singleton hone with
  | self opens inside later kept =>
    have hne : i.trace scene ≠ [] := by
      obtain ⟨-, hlines⟩ := Bool.and_eq_true_iff.mp opens
      simpa using hlines
    -- no remarks are given here, so the lines of the instruction stay as they are
    rw [opens]
    exact ((hj.free inside).bears hne).append (hrest.free later).2
  | inside shut inside later kept apart =>
    rw [shut, apart, kept]
    exact (hj.bears i inside).append (hrest.free later).2
  | later shut inside later kept =>
    rw [shut, kept]
    exact (hrest.bears i later).2.after (hj.free inside)

theorem placed (scene : Scene) {l : Nat} (hl : 0 < l) (instrs : List Instruction) :
    Placed scene l instrs := by
  refine Instruction.forest_induction (P := fun j => j.Placed scene l)
    (Q := fun instrs => Placed scene l instrs) ?step ?compound ?nil ?cons instrs
  case step =>
    intro act info
    refine ⟨fun _ => ?_, fun i hone => ?_⟩
    · rw [Instruction.trace]
      exact free_ownMarks scene _
    · cases hone
  case compound => exact fun j hcompound => placed_compound hcompound
  case nil =>
    refine ⟨by simp, fun _ => ⟨fun cursor => ?_, ?_⟩, fun i hone => ?_⟩
    · rw [childrenTrace]
      rfl
    · rw [plainTrace]
      rfl
    · cases hone
  case cons =>
    intro j rest hj hrest
    refine ⟨List.forall_mem_cons.mpr ⟨hj, hrest.each⟩, fun hnone => ⟨fun cursor => ?_, ?_⟩,
      fun i hone => ⟨fun cursor => ?_, bears_plain hj hrest hone⟩⟩
    · rw [childrenTrace]
      exact free_row hl hj hnone (free_commentMarks _ _ _) fun hlater => (hrest.free hlater).1 _
    · simp only [openersAt_cons, List.append_eq_nil_iff] at hnone
      rw [plainTrace]
      exact (hj.free (List.append_eq_nil_iff.mpr hnone.1.2)).append (hrest.free hnone.2).2
    · rw [childrenTrace]
      exact bears_row hl hj hone (free_commentMarks _ _ _)
        (fun hlater => (hrest.free hlater).1 _) fun hlater => (hrest.bears i hlater).1 _

/-- Instructions that come with their lines. -/
def Lined (instrs : List Instruction) : Prop := ∀ i ∈ instrs, ∃ span, i.info.span = some span

theorem placed_main {scene : Scene} {l : Nat} (hl : 0 < l) {instrs : List Instruction}
    (hlined : Lined instrs) (cursor : Int) :
    (openersAt scene l instrs = [] → Free l (mainTrace scene cursor instrs)) ∧
      ∀ i, openersAt scene l instrs = [i] →
        Bears l (mainTrace scene cursor instrs) (origins (i.trace scene))
          (if elseOpensAt scene l instrs then 0 else 1) := by
  induction instrs generalizing cursor with
  | nil => exact ⟨fun _ => free_commentMarks _ _ _, nofun⟩
  | cons j rest ih =>
    obtain ⟨⟨span, hspan⟩, hrest⟩ := List.forall_mem_cons.mp hlined
    have hj : j.Placed scene l := (placed scene hl (j :: rest)).each j List.mem_cons_self
    -- a line counted from one is not missing, so the cursor never stands in for it
    have hline : (Fields.line? j.fields).getD cursor = (Fields.line? j.fields).getD 0 := by
      rw [Instruction.line?_fields hspan]
      rfl
    simp only [mainTrace]
    rw [hline]
    refine ⟨fun hnone => ?_, fun i hone => ?_⟩
    · exact free_row hl hj hnone (free_commentMarks _ _ _) (ih hrest _).1
    · exact bears_row hl hj hone (free_commentMarks _ _ _) (ih hrest _).1 ((ih hrest _).2 i)

section ProgramOrder

variable (scene : Scene) (l : Nat) (instrs : List Instruction)

theorem nestedAll_inProgramOrder : (nestedAll (inProgramOrder instrs)).Perm (nestedAll instrs) :=
  nestedAll_perm (List.mergeSort_perm _ _)

theorem openersAt_inProgramOrder {i : Instruction} (h : openersAt scene l instrs = [i]) :
    openersAt scene l (inProgramOrder instrs) = [i] := by
  have hperm : (openersAt scene l (inProgramOrder instrs)).Perm (openersAt scene l instrs) :=
    (nestedAll_inProgramOrder instrs).filter _
  rw [h] at hperm
  exact List.perm_singleton.mp hperm

theorem elseOpensAt_inProgramOrder :
    elseOpensAt scene l (inProgramOrder instrs) = elseOpensAt scene l instrs :=
  (nestedAll_inProgramOrder instrs).any_eq

end ProgramOrder

/-- The first line of an instruction that opens at a line is its own. -/
theorem origins_of_opensAt {scene : Scene} {l : Nat} {i : Instruction}
    (h : i.opensAt scene l = true) : ∃ rest, origins (i.trace scene) = .own (some l) :: rest := by
  obtain ⟨hstarts, hlines⟩ := Bool.and_eq_true_iff.mp h
  obtain ⟨span, hspan, rfl⟩ : ∃ span, i.info.span = some span ∧ span.first = l := by
    simpa [Instruction.startsAt, Option.any_eq_true] using hstarts
  have hline := Instruction.line?_fields hspan
  have hown (text : String) (texts : List String) (htexts : i.texts scene.settings = text :: texts)
      (marks : List Mark) :
      ∃ rest, origins (ownMarks scene i ++ marks) = .own (some (span.first : Int)) :: rest := by
    rw [ownMarks, htexts, hline]
    exact ⟨_, rfl⟩
  by_cases hcompound : i.isCompound = true
  · obtain ⟨header, -, htexts, -⟩ := i.header_eq scene.settings hcompound
    rw [Instruction.trace_of_compound scene hcompound, blockMarks, List.append_assoc]
    exact hown _ _ htexts _
  · cases i with
    | block | branch => exact absurd rfl hcompound
    | step act info =>
      rw [Instruction.trace] at hlines ⊢
      cases htexts : (Instruction.step act info).texts scene.settings with
      | nil => simp [ownMarks, htexts] at hlines
      | cons text texts => simpa using hown _ _ htexts []

/-- A line bears the remarks first among its own exactly if it is the only one. -/
theorem bearing_first_iff {before init rest after : List Origin} {first last : Origin} {n : Nat}
    (hown : first :: rest = init ++ [last]) :
    bare (before ++ init) ++ (last, n) :: bare after =
        bare before ++ (first, 1) :: bare (rest ++ after) ↔ n = 1 ∧ rest = [] := by
  cases init with
  | nil =>
    obtain ⟨rfl, rfl⟩ := List.cons.inj hown
    simp
  | cons head others =>
    obtain ⟨rfl, rfl⟩ := List.cons.inj hown
    simp

/-- The remarks of a line on which one instruction starts that has lines in the program go to the
last of these, and nowhere else. They are lost if the instruction stands in the other part of a
branch. So they follow the first line of the instruction if it has no other one and stands in no
such part. -/
theorem remarks_on_last_line {script : String} {instrs : List Instruction} {settings : Settings}
    {program : String} (hread : readInstructions Current.dialect script = .ok instrs)
    (hmade : generate settings (formsOf instrs) script = .ok program) :
    ∃ table opening, CommentTable.ofScript script = .ok table ∧
      prelude settings (formsOf instrs) = .ok opening ∧
      let scene : Scene := ⟨settings, table⟩
      let marks := mainTrace scene 1 (inProgramOrder instrs)
      program = programText opening (marks.map (Mark.line table)) ∧
      ∀ l i, 0 < l → openersAt scene l instrs = [i] →
        formLines scene i.form = .ok ((i.trace scene).map (Mark.line table)) ∧
        ∃ before rest init last after, origins (i.trace scene) = .own (some l) :: rest ∧
          origins (i.trace scene) = init ++ [last] ∧
          bearings l marks = bare (before ++ init) ++
            (last, if elseOpensAt scene l instrs then 0 else 1) :: bare after ∧
          (bearings l marks =
              bare before ++ (.own (some l), 1) :: bare (rest ++ after) ↔
            elseOpensAt scene l instrs = false ∧ rest = []) := by
  obtain ⟨table, opening, body, htable, hopening, hbody, hprogram⟩ :=
    generate_eq_ok (areNumbered_formsOf instrs) hmade
  obtain ⟨stmts, hstmts, hreads⟩ := readInstructions_eq_ok hread
  obtain ⟨rfl, htraced⟩ := bodyLines_traced hbody
  have hlined : Lined (inProgramOrder instrs) := by
    intro i hi
    have hmem : i ∈ nestedAll instrs := nestedAll_subset_of_mem (List.mem_mergeSort.mp hi) i
      (by simp [nestedAll, Instruction.nested_eq])
    obtain ⟨s, -, hspan⟩ := hreads.span_mem rfl hmem
    exact ⟨s.span, hspan⟩
  refine ⟨table, opening, htable, hopening, hprogram, fun l i hl hone => ?_⟩
  have hopens : i ∈ openersAt ⟨settings, table⟩ l instrs := by simp [hone]
  obtain ⟨hi, hopens⟩ := List.mem_filter.mp hopens
  obtain ⟨rest, hfirst⟩ := origins_of_opensAt hopens
  obtain ⟨before, init, last, after, hown, hbears⟩ :=
    (placed_main hl hlined 1).2 i (openersAt_inProgramOrder _ _ _ hone)
  rw [elseOpensAt_inProgramOrder] at hbears
  refine ⟨htraced i hi, before, rest, init, last, after, hfirst, hown, hbears, ?_⟩
  rw [hbears, bearing_first_iff (hfirst.symm.trans hown)]
  cases elseOpensAt ⟨settings, table⟩ l instrs <;> simp

/-- A loop with a branch in it, and a remark on the loop, on a call and in the other part. -/
def annotatedScript : String :=
  "while x:  # loop\n    go()  # first\n    if y:\n        a()\n    else:\n        b()  # lost\n"

theorem remarks_on_last_line_annotatedScript :
    ∃ instrs program table, readInstructions Current.dialect annotatedScript = .ok instrs ∧
      generate .standard (formsOf instrs) annotatedScript = .ok program ∧
      CommentTable.ofScript annotatedScript = .ok table ∧
      let scene : Scene := ⟨.standard, table⟩
      let marks := mainTrace scene 1 (inProgramOrder instrs)
      (∃ i before rest after, openersAt scene 2 instrs = [i] ∧ rest = [] ∧
        bearings 2 marks =
          bare before ++ (.own (some 2), 1) :: bare (rest ++ after)) ∧
      ∃ i before init last after, openersAt scene 6 instrs = [i] ∧
        origins (i.trace scene) = init ++ [last] ∧
        bearings 6 marks = bare (before ++ init) ++ (last, 0) :: bare after := by
  have hinstrs : (readInstructions Current.dialect annotatedScript).toOption.any (fun instrs =>
      (CommentTable.ofScript annotatedScript).toOption.any fun table =>
        (generate .standard (formsOf instrs) annotatedScript).toOption.any fun _ =>
          (openersAt ⟨.standard, table⟩ 2 instrs).length == 1 &&
            (openersAt ⟨.standard, table⟩ 2 instrs).all
              (fun i => (origins (i.trace ⟨.standard, table⟩)).length == 1) &&
            !elseOpensAt ⟨.standard, table⟩ 2 instrs &&
            (openersAt ⟨.standard, table⟩ 6 instrs).length == 1 &&
            elseOpensAt ⟨.standard, table⟩ 6 instrs) = true := by
    decide +kernel
  obtain ⟨instrs, hread, hinstrs⟩ := exists_of_any hinstrs
  obtain ⟨table, htable, hmade⟩ := exists_of_any hinstrs
  obtain ⟨program, hprogram, htests⟩ := exists_of_any hmade
  simp only [Bool.and_eq_true, Bool.not_eq_true', beq_iff_eq, List.length_eq_one_iff] at htests
  obtain ⟨⟨⟨⟨⟨step, hstep⟩, hsingle⟩, hkept⟩, lost, hlost⟩, helse⟩ := htests
  obtain ⟨table', opening, htable', -, -, hremarks⟩ := remarks_on_last_line hread hprogram
  obtain rfl := Except.ok.inj (htable.symm.trans htable')
  obtain ⟨-, before, rest, init, last, after, hfirst, -, -, hiff⟩ :=
    hremarks 2 step (by decide) hstep
  obtain ⟨-, before', -, init', last', after', -, hown, hbears, -⟩ :=
    hremarks 6 lost (by decide) hlost
  have hrest : rest = [] := by simpa [hstep, hfirst] using hsingle
  rw [if_pos helse] at hbears
  exact ⟨instrs, program, table, hread, hprogram, htable,
    ⟨step, before, rest, after, hstep, hrest, hiff.mpr ⟨hkept, hrest⟩⟩,
    lost, before', init', last', after', hlost, hown, hbears⟩

/-- A loop with a remark. -/
def loopedScript : String := "while x:  # loop\n    go()\n"

def loopedProgram : String :=
  "from hub import light_matrix, port\nimport runloop\nimport motor\n\n" ++
    "# IMPORTANT: Configure ports and directions below to match your robot\n" ++
    "# If a motor runs backwards, change its REVERSED flag to True\n\n" ++
    "# Motor configuration\n\nasync def main():\n    while x:\n        await go()  # loop\n" ++
    "\nrunloop.run(main())"

/-- The remark ends up on the last line of the body. -/
theorem remark_loopedScript :
    ∃ instrs, answerGenerate loopedScript = .accepted instrs loopedProgram :=
  accepted_of_program (by decide +kernel)

end HubScript
