import HubScript.Proofs.CommentErasure
import HubScript.Proofs.CommentLines
import HubScript.Proofs.Coverage
import HubScript.Service
import Mathlib.Data.List.Forall2
import Mathlib.Tactic.Tauto

/-!
# Where comments go

A comment that stands alone goes between the instructions around it, as deep as the instructions
that hold it. Each of the comments outside the instructions without others inside them is placed
once, and they stay in the order of the script. The three loops that place comments hand the line
they have come to on to one another; the argument follows that line through the forest.
-/
namespace HubScript.Hub

open Text
open Instruction (Laid)

/-- The comments among lines, in order. -/
def placed (lines : List Line) : List (Nat × String) := lines.filterMap Line.placed?

theorem placed_append (a b : List Line) : placed (a ++ b) = placed a ++ placed b :=
  List.filterMap_append

theorem placed_code (texts : List String) : placed (texts.map Line.code) = [] := by
  simp [placed, List.filterMap_map, Line.placed?, Line.code, Function.comp_def]

theorem placed_deeper (lines : List Line) :
    placed (lines.map Line.deeper) = (placed lines).map fun p => (p.1 + 1, p.2) := by
  induction lines with
  | nil => rfl
  | cons line rest ih =>
    have hline : line.deeper.placed? = line.placed?.map fun p => (p.1 + 1, p.2) := by
      rcases line with ⟨content, remarks⟩
      cases content <;> rfl
    simp only [placed, List.map_cons, List.filterMap_cons, hline] at ih ⊢
    cases line.placed? with
    | none => exact ih
    | some p => simp [ih]

theorem placed_remarkLast (lines : List Line) (remarks : List String) :
    placed (remarkLast lines remarks) = placed lines := by
  unfold remarkLast
  split
  · rename_i last hlast
    obtain ⟨others, rfl⟩ := List.getLast?_eq_some_iff.mp hlast
    have hremark : placed [last.remark remarks] = placed [last] := rfl
    rw [List.dropLast_concat, placed_append, hremark, ← placed_append]
  · rfl

theorem placed_remarked (table : CommentTable) (line : Int) (lines : List Line) :
    placed (remarked table line lines) = placed lines := by
  unfold remarked
  split
  · exact placed_remarkLast _ _
  · rfl

theorem placed_commentLines {table : CommentTable} (h : table.InOrder) (start stop : Int) :
    placed (commentLines table start stop) =
      table.alone.filterMap fun (l : Nat) =>
        if start ≤ (l : Int) ∧ (l : Int) < stop then some (0, stripped table l) else none := by
  unfold placed commentLines commentsBetween
  simp only [List.filterMap_map]
  rw [List.filterMap_filter]
  refine List.filterMap_congr ?_
  intro l hl
  have hl := (h.within l hl).2
  by_cases hstart : start ≤ (l : Int) ∧ (l : Int) < stop
  · have hmin : (l : Int) < min stop (table.lines.length + 1) := by omega
    simp [hstart.1, hstart.2, hmin, Line.placed?, Line.comment, stripped]
  · have hmin : ¬(start ≤ (l : Int) ∧ (l : Int) < min stop (table.lines.length + 1)) := by omega
    simp only [hstart, if_false, Bool.and_eq_true, decide_eq_true_eq, hmin]

/-- Lists picked from an increasing one, the first of them up to a number and the second from there
on, are together picked from it. -/
theorem filterMap_append_of_increasing {β : Type} {xs : List Nat} (h : xs.Pairwise (· < ·))
    {f g k : Nat → Option β} (m : Nat) (hf : ∀ x ∈ xs, m < x → f x = none)
    (hg : ∀ x ∈ xs, x ≤ m → g x = none) (hk : ∀ x ∈ xs, k x = if x ≤ m then f x else g x) :
    xs.filterMap f ++ xs.filterMap g = xs.filterMap k := by
  induction xs with
  | nil => rfl
  | cons x rest ih =>
    obtain ⟨hx, hrest⟩ := List.pairwise_cons.mp h
    have hkx := hk x List.mem_cons_self
    by_cases hxm : x ≤ m
    · rw [if_pos hxm] at hkx
      have hgx := hg x List.mem_cons_self hxm
      have ih := ih hrest (fun y hy => hf y (List.mem_cons_of_mem x hy))
        (fun y hy => hg y (List.mem_cons_of_mem x hy))
        (fun y hy => hk y (List.mem_cons_of_mem x hy))
      rw [List.filterMap_cons_none hgx, List.filterMap_cons, List.filterMap_cons, hkx]
      cases f x with
      | none => exact ih
      | some b => simp [ih]
    · have hnone : (x :: rest).filterMap f = [] := by
        rw [List.filterMap_eq_nil_iff]
        intro y hy
        refine hf y hy ?_
        rcases List.mem_cons.mp hy with rfl | hy
        · omega
        · have := hx y hy
          omega
      rw [hnone, List.nil_append]
      refine List.filterMap_congr ?_
      intro y hy
      rw [hk y hy, if_neg]
      rcases List.mem_cons.mp hy with rfl | hy
      · exact hxm
      · have := hx y hy
        omega

/-- Branches without another part, at every depth. -/
def Unforked (instrs : List Instruction) : Prop := ∀ i ∈ nestedAll instrs, i.orelse = []

/-- The place of a comment among instructions, from a line on and as far as a condition holds. A
comment within an instruction that holds no others has none. -/
def spot (table : CommentTable) (instrs : List Instruction) (lo : Nat) (upTo : Nat → Bool)
    (l : Nat) : Option (Nat × String) :=
  if lo < l && upTo l && !hidden instrs l then some (depthAt instrs l, stripped table l) else none

theorem spot_hidden {table : CommentTable} {instrs : List Instruction} {lo : Nat}
    {upTo : Nat → Bool} {l : Nat} (h : lo < l → upTo l → hidden instrs l) :
    spot table instrs lo upTo l = none := by
  unfold spot
  by_cases hl : lo < l ∧ upTo l
  · simp [h hl.1 hl.2]
  · rw [if_neg]
    simp only [Bool.and_eq_true, decide_eq_true_eq]
    tauto

theorem spot_eq_none {table : CommentTable} {instrs : List Instruction} {lo : Nat}
    {upTo : Nat → Bool} {l : Nat} (h : lo < l → upTo l = false) :
    spot table instrs lo upTo l = none := by
  refine spot_hidden fun hl hup => ?_
  rw [h hl] at hup
  cases hup

/-- A place depends on the instructions around a line only. -/
theorem spot_congr {table : CommentTable} {instrs others : List Instruction} {lo lo' : Nat}
    {upTo upTo' : Nat → Bool} {l : Nat} (hlo : lo < l ↔ lo' < l) (hup : upTo l = upTo' l)
    (hhidden : hidden instrs l = hidden others l) (hdepth : depthAt instrs l = depthAt others l) :
    spot table instrs lo upTo l = spot table others lo' upTo' l := by
  simp only [spot, hlo, hup, hhidden, hdepth]

theorem formLines_of_step {scene : Scene} {act : Step} {info : Info} {lines : List Line}
    (h : formLines scene (Instruction.step act info).form = .ok lines) : placed lines = [] := by
  rw [Instruction.form_eq,
    formLines_of_header_none _ _ _ (Instruction.header_of_step act info)] at h
  obtain ⟨texts, _, h⟩ := bind_eq_ok.mp h
  obtain rfl := Except.ok.inj h
  exact placed_code texts

theorem afterBlock_placed {scene : Scene} {header : Header} {lines : List Line}
    (h : afterBlock scene .absent header = .ok lines) : placed lines = [] := by
  cases header with
  | loop text =>
    obtain rfl := Except.ok.inj h
    rfl
  | branch text =>
    rw [afterBlock, elseLines] at h
    obtain rfl := Except.ok.inj h
    rfl
  | function text =>
    obtain rfl := Except.ok.inj h
    rfl

/-- The comments of an instruction that holds others are those of its block. -/
theorem formLines_of_compound {scene : Scene} {i : Instruction} {lines : List Line}
    (hcompound : i.isCompound) (helse : i.orelse = [])
    (h : formLines scene i.form = .ok lines) :
    ∃ header main, blockLines scene header (Fields.line? i.fields) (Fields.lastLine? i.fields)
      (.forms (formsOf i.body)) = .ok main ∧ placed lines = placed main := by
  obtain ⟨header, hheader⟩ := Instruction.header_of_compound hcompound
  have hbody : i.bodySuite = .forms (formsOf i.body) := by simp [Instruction.bodySuite, hcompound]
  have hother : i.elseSuite = .absent := by simp [Instruction.elseSuite, helse]
  rw [Instruction.form_eq, formLines_of_header_some _ _ _ hheader, hbody, hother] at h
  obtain ⟨main, hmain, h⟩ := bind_eq_ok.mp h
  obtain ⟨others, hothers, h⟩ := bind_eq_ok.mp h
  obtain rfl := Except.ok.inj h
  refine ⟨header.text, main, hmain, ?_⟩
  rw [placed_append, afterBlock_placed hothers, List.append_nil]

/-- What holds of the lines of a block: the instructions are laid out up to the line before the
one that is returned and no further, and the comments up to there have been placed. -/
def ChildrenPlaced (scene : Scene) (lo : Nat) (instrs : List Instruction) : Prop :=
  ∀ lines final, childrenLines scene (lo + 1) (formsOf instrs) = .ok (lines, final) →
    ∃ stop : Nat, final = stop + 1 ∧ lo ≤ stop ∧ Laid lo stop instrs ∧
      (∀ hi, lo ≤ hi → Laid lo hi instrs → stop ≤ hi) ∧
      placed lines = scene.comments.alone.filterMap (spot scene.comments instrs lo (· ≤ stop))

section

variable {scene : Scene} (htable : scene.comments.InOrder)
include htable

theorem blockLines_placed {header : String} {instrs : List Instruction} {first last m : Nat}
    (hfirst : first ≤ m) (hlast : m ≤ last) (hlaid : Laid first m instrs)
    (hchildren : ChildrenPlaced scene first instrs) {lines : List Line}
    (h : blockLines scene header (some (first : Int)) (some (last : Int))
      (.forms (formsOf instrs)) = .ok lines) :
    placed lines = (scene.comments.alone.filterMap
      (spot scene.comments instrs first (· ≤ last))).map fun p => (p.1 + 1, p.2) := by
  rw [blockLines] at h
  obtain ⟨⟨inner, final⟩, hinner, h⟩ := bind_eq_ok.mp h
  obtain rfl := Except.ok.inj h
  obtain ⟨stop, rfl, hlo, hstop, hleast, hplaced⟩ := hchildren _ _ (within_eq_ok.mp hinner)
  have hle := hleast m hfirst hlaid
  have hheader : Line.placed? (Line.code header) = none := rfl
  rw [placed, List.filterMap_cons_none hheader, ← placed, placed_deeper, placed_append, hplaced,
    placed_commentLines htable]
  congr 1
  refine filterMap_append_of_increasing htable.increasing stop ?_ ?_ ?_
  · intro l _ hl
    exact spot_eq_none fun _ => by simpa using hl
  · intro l _ hl
    rw [if_neg (by omega)]
  · intro l hmem
    by_cases hl : l ≤ stop
    · rw [if_pos hl]
      exact spot_congr Iff.rfl (by simp; omega) rfl rfl
    · have hclear := hstop.clear_after (Nat.lt_of_not_le hl)
      have hlo' : first < l := by omega
      rw [if_neg hl, spot, hidden_of_clear hclear, depthAt_of_clear hclear]
      by_cases hl' : l ≤ last
      · rw [if_pos (by simp [hl', hlo']), if_pos (by simp; omega)]
      · rw [if_neg (by simp [hl']), if_neg (by simp; omega)]

/-- The comments of an instruction are those on its lines that it does not hide. -/
theorem formLines_placed {i : Instruction} {rest : List Instruction} {span : Span} {lo hi : Nat}
    (hlaid : Laid lo hi (i :: rest)) (hspan : i.info.span = some span) (helse : i.orelse = [])
    (hchildren : ChildrenPlaced scene span.first i.body) {lines : List Line}
    (h : formLines scene i.form = .ok lines) :
    placed lines = scene.comments.alone.filterMap
      (spot scene.comments [i] span.first (· ≤ span.last)) := by
  obtain ⟨m, hfirst, hlast, hbody⟩ := hlaid.body_laid hspan
  cases hcompound : i.isCompound with
  | false =>
    cases i with
    | step act info =>
      rw [formLines_of_step h, eq_comm, List.filterMap_eq_nil_iff]
      intro l _
      refine spot_hidden fun hl hl' => ?_
      rw [hidden_cons, Instruction.covers_eq hspan]
      simp only [decide_eq_true_eq] at hl'
      simp [Instruction.isCompound, Nat.le_of_lt hl, hl']
    | block => cases hcompound
    | branch => cases hcompound
  | true =>
    obtain ⟨header, main, hmain, hplaced⟩ := formLines_of_compound hcompound helse h
    rw [Instruction.line?_fields hspan, Instruction.lastLine?_fields hspan (by omega)] at hmain
    rw [hplaced, blockLines_placed htable hfirst hlast hbody hchildren hmain, List.map_filterMap]
    refine List.filterMap_congr ?_
    intro l _
    have hcovers := Instruction.covers_eq hspan l
    by_cases hl : span.first < l ∧ l ≤ span.last
    · have hhidden : hidden [i] l = hidden i.body l := by
        simp [hidden_cons, hcompound, helse]
      have hdepth : depthAt [i] l = depthAt i.body l + 1 := by
        simp [depthAt_cons, hcompound, helse, hcovers, Nat.le_of_lt hl.1, hl.2]
        omega
      simp only [spot, hhidden, hdepth]
      split <;> rfl
    · rw [spot_eq_none fun hl' => by simp; omega, spot_eq_none fun hl' => by simp; omega]
      rfl

/-- The comments before an instruction, its own and those after it are the comments of the row that
it opens. -/
theorem placed_cons {i : Instruction} {rest : List Instruction} {span : Span} {lo hi : Nat}
    (hlaid : Laid lo hi (i :: rest)) (hspan : i.info.span = some span)
    (hoff : StartsOff scene.comments.alone (i :: rest)) {upTo : Nat → Bool}
    (hup : ∀ l ≤ span.last, upTo l) {before own others : List Line}
    (hbefore : before = commentLines scene.comments (lo + 1) span.first)
    (hown : placed own = scene.comments.alone.filterMap
      (spot scene.comments [i] span.first (· ≤ span.last)))
    (hothers : placed others = scene.comments.alone.filterMap
      (spot scene.comments rest span.last upTo)) :
    placed (before ++ own ++ others) =
      scene.comments.alone.filterMap (spot scene.comments (i :: rest) lo upTo) := by
  obtain ⟨hlo, hle, hself, hall, hrest⟩ := hlaid.split hspan
  have hhidden (l : Nat) : hidden (i :: rest) l = (hidden [i] l || hidden rest l) := by
    simp [hidden_cons, Bool.or_assoc]
  have hdepth (l : Nat) : depthAt (i :: rest) l = depthAt [i] l + depthAt rest l := by
    simp [depthAt_cons]
  rw [hbefore, List.append_assoc, placed_append, placed_append, hown, hothers,
    placed_commentLines htable]
  rw [filterMap_append_of_increasing htable.increasing span.last (fun l _ hl => ?_)
    (fun l _ hl => ?_) (fun l _ => rfl)]
  · refine filterMap_append_of_increasing htable.increasing span.first ?_ ?_ ?_
    · intro l _ hl
      rw [if_neg (by omega)]
    · intro l _ hl
      rw [if_pos (by omega)]
      exact spot_eq_none fun hl' => by omega
    · intro l hmem
      by_cases hl : l ≤ span.first
      · have hclear := hall.clear_before hoff hmem hl
        have hne : l ≠ span.first := by
          rintro rfl
          exact (startsOff_cons.mp hoff).1 span hspan hmem
        rw [if_pos hl, spot, hidden_of_clear hclear, depthAt_of_clear hclear,
          hup l (by omega)]
        by_cases hl' : lo < l
        · rw [if_pos (by simpa using hl'), if_pos (by omega)]
        · rw [if_neg (by simpa using hl'), if_neg (by omega)]
      · rw [if_neg hl]
        by_cases hl' : l ≤ span.last
        · have hclear := hrest.clear_before (startsOff_cons.mp hoff).2.2.2 hmem hl'
          rw [if_pos hl']
          exact spot_congr (by omega) (by simp [hup l hl', hl'])
            (by simp [hhidden, hidden_of_clear hclear]) (by simp [hdepth, depthAt_of_clear hclear])
        · have hclear := hself.clear_after (Nat.lt_of_not_le hl')
          rw [if_neg hl']
          exact spot_congr (by omega) rfl (by simp [hhidden, hidden_of_clear hclear])
            (by simp [hdepth, depthAt_of_clear hclear])
  · exact spot_eq_none fun _ => by simpa using hl
  · exact spot_eq_none fun hl' => by omega

theorem childrenLines_placed {lo hi : Nat} {instrs : List Instruction} (hlaid : Laid lo hi instrs)
    (hoff : StartsOff scene.comments.alone instrs) (hplain : Unforked instrs) :
    ChildrenPlaced scene lo instrs := by
  induction hlaid with
  | nil =>
    intro lines final h
    rw [formsOf, childrenLines] at h
    obtain ⟨rfl, rfl⟩ := Prod.mk.inj (Except.ok.inj h)
    refine ⟨_, rfl, Nat.le_refl _, .nil, fun hi hlo _ => hlo, ?_⟩
    rw [eq_comm, placed, List.filterMap_nil, List.filterMap_eq_nil_iff]
    intro l _
    exact spot_eq_none fun hl => by simpa using hl
  | @cons lo hi m i rest span lines start first_le le_last stop body orelse after ihbody
      _ ihrest =>
    intro all final h
    obtain ⟨helse, hplainBody, _, hplainRest⟩ := forall_mem_nestedAll_cons.mp hplain
    obtain ⟨_, hoffBody, _, hoffRest⟩ := startsOff_cons.mp hoff
    have hrow := Laid.cons lines start first_le le_last stop body orelse after
    rw [formsOf, childrenLines, Instruction.firstLineOf_form lines, here_ok, ok_bind] at h
    obtain ⟨own, hown, h⟩ := bind_eq_ok.mp h
    rw [settled, Instruction.lastLineOf_form lines (by omega)] at h
    obtain ⟨⟨others, final'⟩, hothers, h⟩ := bind_eq_ok.mp h
    obtain ⟨rfl, rfl⟩ := Prod.mk.inj (Except.ok.inj h)
    obtain ⟨stop', rfl, hle, hlaid', hleast, hplaced⟩ := ihrest hoffRest hplainRest _ _ hothers
    refine ⟨stop', rfl, by omega, ?_, ?_, ?_⟩
    · exact .cons lines start first_le le_last hle body orelse hlaid'
    · intro hi' _ hlaid''
      cases hlaid'' with
      | cons lines' _ _ _ stop'' _ _ after' =>
        obtain rfl := Option.some.inj (lines'.symm.trans lines)
        exact hleast hi' stop'' after'
    · refine placed_cons htable hrow lines hoff (fun l hl => by simp; omega) rfl ?_ hplaced
      rw [placed_remarked]
      exact formLines_placed htable hrow lines helse (ihbody hoffBody hplainBody) hown

/-- The comments of the main function, from a line of the script on. -/
theorem mainLines_placed {lo hi : Nat} {instrs : List Instruction} (hlaid : Laid lo hi instrs)
    (hoff : StartsOff scene.comments.alone instrs) (hplain : Unforked instrs) {lines : List Line}
    (h : mainLines scene (lo + 1) (formsOf instrs) = .ok lines) :
    placed lines = scene.comments.alone.filterMap
      (spot scene.comments instrs lo fun _ => true) := by
  induction instrs generalizing lo lines with
  | nil =>
    rw [formsOf, mainLines] at h
    obtain rfl := Except.ok.inj h
    rw [placed_commentLines htable]
    refine List.filterMap_congr ?_
    intro l hmem
    have hl := (htable.within l hmem).2
    have hclear := clear_nil l
    rw [spot, hidden_of_clear hclear, depthAt_of_clear hclear]
    by_cases hlo : lo < l
    · rw [if_pos (by omega), if_pos (by simpa using hlo)]
    · rw [if_neg (by omega), if_neg (by simpa using hlo)]
  | cons i rest ih =>
    obtain ⟨helse, hplainBody, _, hplainRest⟩ := forall_mem_nestedAll_cons.mp hplain
    obtain ⟨_, hoffBody, _, hoffRest⟩ := startsOff_cons.mp hoff
    have hrow := hlaid
    cases hlaid with
    | @cons _ _ m _ _ span lines start first_le le_last stop body orelse after =>
      rw [formsOf, mainLines, Instruction.firstLineOf_form lines, here_ok, ok_bind] at h
      obtain ⟨own, hown, h⟩ := bind_eq_ok.mp h
      have hnext : max (passTo scene.comments (lo + 1) span.first)
          ((Hub.lastLineOf i.form).getD span.first + 1) = span.last + 1 := by
        rw [Instruction.lastLineOf_form lines (by omega), passTo]
        simp only [Option.getD_some]
        omega
      simp only [Option.getD_some, hnext] at h
      obtain ⟨others, hothers, h⟩ := bind_eq_ok.mp h
      obtain rfl := Except.ok.inj h
      refine placed_cons htable hrow lines hoff (fun _ _ => rfl) rfl ?_
        (ih after hoffRest hplainRest hothers)
      rw [placed_remarked]
      exact formLines_placed htable hrow lines helse
        (childrenLines_placed htable body hoffBody hplainBody) hown

end

theorem spot_eq_ite (table : CommentTable) (instrs : List Instruction) {l : Nat} (hl : 1 ≤ l) :
    spot table instrs 0 (fun _ => true) l =
      if !hidden instrs l then some (depthAt instrs l, stripped table l) else none := by
  have hpos : 0 < l := hl
  simp [spot, hpos]

/-- The comments of a body: those that no instruction hides, each once and in the order of the
script, as deep as the instructions around them. -/
theorem bodyLines_placed {scene : Scene} (htable : scene.comments.InOrder) {hi : Nat}
    {instrs : List Instruction} (hlaid : Laid 0 hi instrs)
    (hoff : StartsOff scene.comments.alone instrs) (hplain : Unforked instrs) {body : List Line}
    (h : bodyLines scene (formsOf instrs) = .ok body) :
    placed body = (scene.comments.alone.filter fun l => !hidden instrs l).map
      fun l => (depthAt instrs l, stripped scene.comments l) := by
  rw [bodyLines, hlaid.mergeSort_formsOf] at h
  rw [mainLines_placed htable hlaid hoff hplain h, ← List.filterMap_eq_map, List.filterMap_filter]
  refine List.filterMap_congr ?_
  intro l hmem
  exact spot_eq_ite _ _ (htable.within l hmem).1

/-- The text of a comment that has been placed. -/
theorem render_of_placed {line : Line} {depth : Nat} {text : String}
    (h : line.placed? = some (depth, text)) :
    line.render 1 = String.ofList (List.replicate (4 * (depth + 1)) ' ') ++ text ++
      String.join (line.remarks.map ("  " ++ ·)) := by
  rcases line with ⟨content, remarks⟩
  cases content with
  | comment depth' text' =>
    obtain ⟨rfl, rfl⟩ := Prod.mk.inj (Option.some.inj h)
    have hlevel : ((1 : Int) + (depth' : Int)).toNat = depth' + 1 := by omega
    simp only [Line.render, margin, hlevel]
  | code depth' text' => cases h
  | separator => cases h

theorem forall₂_of_placed {β : Type} {f : β → Nat × String} {xs : List β} {lines : List Line}
    (h : placed lines = xs.map f) :
    List.Forall₂ (fun x line => line.placed? = some (f x)) xs (lines.filter Line.isComment) := by
  induction lines generalizing xs with
  | nil =>
    obtain rfl := List.map_eq_nil_iff.mp h.symm
    exact .nil
  | cons line rest ih =>
    rw [placed, List.filterMap_cons] at h
    cases hline : line.placed? with
    | none =>
      rw [hline] at h
      rw [List.filter_cons_of_neg (by simp [Line.isComment, hline])]
      exact ih h
    | some p =>
      rw [hline] at h
      cases xs with
      | nil => cases h
      | cons x xs =>
        obtain ⟨hx, hxs⟩ := List.cons.inj h
        rw [List.filter_cons_of_pos (by simp [Line.isComment, hline])]
        exact .cons (hline.trans (congrArg some hx)) (ih hxs)

/-- Comments that stand alone are conserved where no branch has an alternative: those outside the
steps come out once each and in the order of the script, one level deeper than the instructions
around them and with nothing after them but remarks, and the others do not come out. -/
theorem comments_conserved {script : String} {instrs : List Instruction} {settings : Settings}
    {program : String} (hread : readInstructions Current.dialect script = .ok instrs)
    (hlaid : ∀ stmts, readScript script = .ok stmts → Stmt.LaidOut script stmts)
    (hplain : Unforked instrs) (hmade : generate settings (formsOf instrs) script = .ok program) :
    ∃ table opening body, CommentTable.ofScript script = .ok table ∧
      prelude settings (formsOf instrs) = .ok opening ∧
      bodyLines ⟨settings, table⟩ (formsOf instrs) = .ok body ∧
      program = programText opening body ∧ table.alone.Pairwise (· < ·) ∧
      (∀ line ∈ body, line.Annotated table) ∧
      List.Forall₂
        (fun l line => line.render 1 =
          String.ofList (List.replicate (4 * (depthAt instrs l + 1)) ' ') ++ stripped table l ++
            String.join (line.remarks.map ("  " ++ ·)))
        (table.alone.filter fun l => !hidden instrs l) (body.filter Line.isComment) := by
  obtain ⟨table, opening, body, htable, hopening, hbody, hprogram⟩ :=
    generate_eq_ok (areNumbered_formsOf instrs) hmade
  obtain ⟨stmts, hstmts, hreads⟩ := readInstructions_eq_ok hread
  obtain ⟨⟨hi, hnested⟩, hapart⟩ := hlaid stmts hstmts
  have hoff : StartsOff table.alone instrs := by
    intro i hi span hspan
    obtain ⟨s, hs, heq⟩ := hreads.span_mem rfl hi
    obtain rfl := Option.some.inj (heq.symm.trans hspan)
    exact hapart table htable s hs
  have horder := CommentTable.ofScript_inOrder htable
  have hplaced := bodyLines_placed horder (hreads.laid rfl hnested) hoff hplain hbody
  refine ⟨table, opening, body, htable, hopening, hbody, hprogram, horder.increasing,
    bodyLines_annotated hbody, ?_⟩
  exact (forall₂_of_placed hplaced).imp fun l line h => render_of_placed h

/-- A loop with a branch in it and a call over three lines, and comments around and within them. -/
def nestedScript : String :=
  "# start\nwhile x:\n    # look\n    if y:\n        # turn\n        stop()\n    go(1,\n" ++
    "       # far\n       2)\n# end\n"

theorem comments_conserved_nestedScript :
    ∃ instrs program, readInstructions Current.dialect nestedScript = .ok instrs ∧
      (∀ stmts, readScript nestedScript = .ok stmts → Stmt.LaidOut nestedScript stmts) ∧
      Unforked instrs ∧ generate .standard (formsOf instrs) nestedScript = .ok program ∧
      ∃ table opening body, CommentTable.ofScript nestedScript = .ok table ∧
        prelude .standard (formsOf instrs) = .ok opening ∧
        bodyLines ⟨.standard, table⟩ (formsOf instrs) = .ok body ∧
        program = programText opening body ∧ table.alone.Pairwise (· < ·) ∧
        (∀ line ∈ body, line.Annotated table) ∧
        List.Forall₂
          (fun l line => line.render 1 =
            String.ofList (List.replicate (4 * (depthAt instrs l + 1)) ' ') ++
              stripped table l ++ String.join (line.remarks.map ("  " ++ ·)))
          (table.alone.filter fun l => !hidden instrs l) (body.filter Line.isComment) := by
  have hlayout :
      (readScript nestedScript).toOption.any (Stmt.checkLayout 12 nestedScript) = true := by
    decide +kernel
  have hinstrs : (readInstructions Current.dialect nestedScript).toOption.any (fun instrs =>
      (nestedAll instrs).all (·.orelse.isEmpty) &&
        (generate .standard (formsOf instrs) nestedScript).toOption.any fun _ => true) = true := by
    decide +kernel
  obtain ⟨stmts, hstmts, hcheck⟩ := exists_of_any hlayout
  obtain ⟨instrs, hread, htests⟩ := exists_of_any hinstrs
  obtain ⟨hwhole, hmade⟩ := Bool.and_eq_true_iff.mp htests
  obtain ⟨program, hprogram, -⟩ := exists_of_any hmade
  have hlaid : ∀ stmts, readScript nestedScript = .ok stmts → Stmt.LaidOut nestedScript stmts := by
    intro stmts' hstmts'
    obtain rfl := Except.ok.inj (hstmts.symm.trans hstmts')
    exact Stmt.laidOut_of_checkLayout hcheck
  have hplain : Unforked instrs :=
    fun i hi => List.isEmpty_iff.mp (List.all_eq_true.mp hwhole i hi)
  exact ⟨instrs, program, hread, hlaid, hplain, hprogram,
    comments_conserved hread hlaid hplain hprogram⟩

end HubScript.Hub
