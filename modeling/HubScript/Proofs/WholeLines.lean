import HubScript.Proofs.CommentLines
import HubScript.Proofs.DepthLines

/-!
# Lines that are whole numbers

Line numbers are taken as values, and where all of them are whole numbers nothing that is done with
them fails: they are compared, counted on from and looked up as the numbers they are. The comments
that are taken line by line up to a line are then those between the two lines.
-/
namespace HubScript

namespace Value

variable {v w : Value} {m n : Int}

@[simp] theorem asInt?_int (n : Int) : (Value.int n).asInt? = some n := rfl

theorem numberOrder?_of_asInt? (hv : v.asInt? = some m) (hw : w.asInt? = some n) :
    numberOrder? v w = some (some (compare m n)) := by
  cases v <;> cases hv <;> cases w <;> cases hw <;> rfl

theorem sizeHolds_of_asInt? (test : SizeTest) (hv : v.asInt? = some m) (hw : w.asInt? = some n) :
    sizeHolds test v w = .ok (test.holds (compare m n)) := by
  have horder := numberOrder?_of_asInt? hv hw
  cases v <;> cases hv <;> cases w <;> cases hw <;> simp only [sizeHolds, horder]

theorem equal_of_asInt? (hv : v.asInt? = some m) (hw : w.asInt? = some n) :
    v.equal w = (m == n) := by
  have horder := numberOrder?_of_asInt? hv hw
  have hnumber : (numberEqual? v w).getD false = (m == n) := by
    have hequal : numberEqual? v w = some (compare m n == .eq) := by
      cases v <;> cases hv <;> cases w <;> cases hw <;>
        simp only [numberEqual?, horder, Option.map_some] <;> rfl
    rw [hequal, Option.getD_some, Bool.eq_iff_iff, beq_iff_eq, beq_iff_eq]
    exact Int.compare_eq_eq
  cases v <;> cases hv <;> cases w <;> cases hw <;> simpa only [equal] using hnumber

theorem successor_of_asInt? (hv : v.asInt? = some n) : v.successor = .ok (.int (n + 1)) := by
  simp only [successor, addNumbers, numberOp, hv, asInt?_int]

theorem whole_of_asInt? (hv : v.asInt? = some n) : v.whole = .ok n := by rw [whole, hv]

theorem unhashable?_of_asInt? (hv : v.asInt? = some n) : v.unhashable? = Option.none := by
  cases v <;> cases hv <;> rfl

theorem truth_of_asInt? (hv : v.asInt? = some n) : v.truth = (n != 0) := by
  cases v with
  | bool b => cases hv; cases b <;> rfl
  | int k => cases hv; rfl
  | _ => cases hv

theorem smaller_of_asInt? (hv : v.asInt? = some m) (hw : w.asInt? = some n) :
    ∃ u, smaller v w = .ok u ∧ u.asInt? = some (min m n) := by
  rw [smaller, sizeHolds_of_asInt? .less hw hv, ok_bind]
  by_cases hless : n < m
  · rw [Int.compare_eq_lt.mpr hless, Int.min_eq_right (Int.le_of_lt hless)]
    exact ⟨w, rfl, hw⟩
  · have horder : SizeTest.holds .less (compare n m) = false := by
      simpa [SizeTest.holds, Int.compare_eq_lt] using hless
    rw [horder, Int.min_eq_left (Int.not_lt.mp hless)]
    exact ⟨v, rfl, hv⟩

theorem larger_int (m n : Int) : larger (.int m) (.int n) = .ok (.int (max m n)) := by
  rw [larger, sizeHolds_of_asInt? .greater (asInt?_int n) (asInt?_int m), ok_bind]
  by_cases hless : m < n
  · rw [Int.compare_eq_gt.mpr hless, Int.max_eq_right (Int.le_of_lt hless)]
    rfl
  · have horder : SizeTest.holds .greater (compare n m) = false := by
      simpa [SizeTest.holds, Int.compare_eq_gt] using hless
    rw [horder, Int.max_eq_left (Int.not_lt.mp hless)]
    rfl

end Value

namespace CommentTable

open Hub

variable {table : CommentTable} {v : Value} {n : Int}

theorem between_eq (m : Int) (hv : v.asInt? = some n) :
    table.between (.int m) v = .ok (commentsBetween table m n) := by
  obtain ⟨u, hsmaller, hu⟩ := Value.smaller_of_asInt? hv (Value.asInt?_int (table.lines.length + 1))
  rw [between, hsmaller, ok_bind, Value.whole_of_asInt? (Value.asInt?_int m), ok_bind,
    Value.whole_of_asInt? hu, ok_bind]
  rfl

theorem remarksAt_eq (hv : v.asInt? = some n) : table.remarksAt v = .ok (table.inline? n) := by
  rw [remarksAt, Value.unhashable?_of_asInt? hv, inline?]
  have hequal (entry : Nat × List String) : v.equal (.int entry.1) = ((entry.1 : Int) == n) := by
    rw [Value.equal_of_asInt? hv (Value.asInt?_int _), Bool.eq_iff_iff, beq_iff_eq, beq_iff_eq]
    exact eq_comm
  simp only [hequal]

/-- Whether a comment stands alone on a line. -/
def hasAlone (table : CommentTable) (line : Int) : Bool :=
  table.alone.any fun (l : Nat) => line == (l : Int)

theorem aloneAt_int (n : Int) :
    table.aloneAt (.int n) = .ok (if table.hasAlone n then [stripped table n.toNat] else []) := by
  have hequal : (fun (l : Nat) => (Value.int n).equal (.int l)) =
      fun (l : Nat) => n == (l : Int) :=
    funext fun _ => Value.equal_of_asInt? (Value.asInt?_int n) (Value.asInt?_int _)
  rw [aloneAt, hequal, ← hasAlone]
  cases table.hasAlone n <;> rfl

/-- Among rising lines, those from one on are this one, if it is there, and those after it. -/
theorem filter_from {items : List Nat} (h : items.Pairwise (· < ·)) {start stop : Int}
    (hlt : start < stop) :
    items.filter (fun (l : Nat) => start ≤ (l : Int) && (l : Int) < stop) =
      (if items.any fun (l : Nat) => start == (l : Int) then [start.toNat] else []) ++
        items.filter (fun (l : Nat) => start + 1 ≤ (l : Int) && (l : Int) < stop) := by
  induction items with
  | nil => rfl
  | cons a rest ih =>
    obtain ⟨hfirst, hrest⟩ := List.pairwise_cons.mp h
    rw [List.filter_cons, List.filter_cons, List.any_cons]
    by_cases heq : start = (a : Int)
    · subst heq
      have hbehind : rest.filter (fun (l : Nat) => (a : Int) ≤ (l : Int) && (l : Int) < stop) =
          rest.filter (fun (l : Nat) => (a : Int) + 1 ≤ (l : Int) && (l : Int) < stop) := by
        refine List.filter_congr fun b hb => ?_
        have hb := hfirst b hb
        rw [Bool.eq_iff_iff]
        simp only [Bool.and_eq_true, decide_eq_true_eq]
        omega
      have hskip : ((a : Int) + 1 ≤ (a : Int) && (a : Int) < stop) = false := by
        rw [Bool.and_eq_false_iff, decide_eq_false_iff_not]
        omega
      rw [hskip, hbehind]
      simp [hlt]
    · have hne : (start == (a : Int)) = false := beq_eq_false_iff_ne.mpr heq
      have hsame : (start ≤ (a : Int) && (a : Int) < stop) =
          (start + 1 ≤ (a : Int) && (a : Int) < stop) := by
        rw [Bool.eq_iff_iff]
        simp only [Bool.and_eq_true, decide_eq_true_eq]
        omega
      rw [hsame, hne, Bool.false_or, ih hrest]
      split
      · rename_i hkeep
        simp only [Bool.and_eq_true, decide_eq_true_eq] at hkeep
        have hnone : rest.any (fun (l : Nat) => start == (l : Int)) = false := by
          rw [List.any_eq_false]
          intro b hb
          have hb := hfirst b hb
          rw [beq_iff_eq]
          omega
        rw [hnone]
        rfl
      · rfl

theorem commentsBetween_step (h : table.InOrder) {start stop : Int} (hlt : start < stop)
    (hle : start ≤ table.lines.length) :
    commentsBetween table start stop =
      (if table.hasAlone start then [stripped table start.toNat] else []) ++
        commentsBetween table (start + 1) stop := by
  have hstop : start < min stop (table.lines.length + 1) := by omega
  rw [commentsBetween, filter_from h.increasing hstop, List.map_append, commentsBetween, hasAlone]
  congr 1
  split <;> rfl

theorem commentsBetween_empty {start stop : Int} (h : stop ≤ start ∨ table.lines.length < start) :
    commentsBetween table start stop = [] := by
  rw [commentsBetween, List.map_eq_nil_iff, List.filter_eq_nil_iff]
  intro l _
  simp only [Bool.and_eq_true, decide_eq_true_eq, not_and]
  omega

/-- The loop takes the comments between two lines and comes to the second one, unless it is behind
already or the script ends before. -/
theorem pass_eq (h : table.InOrder) (hv : v.asInt? = some n) {rounds : Nat} {line : Int}
    (hrounds : table.lines.length + 1 ≤ rounds + line) :
    table.pass v rounds (.int line) =
      .ok (commentsBetween table line n, .int (passTo table line n)) := by
  induction rounds generalizing line with
  | zero =>
    have hempty : commentsBetween table line n = [] := commentsBetween_empty (.inr (by omega))
    have hpass : passTo table line n = line := by
      unfold passTo
      omega
    rw [hempty, hpass, pass]
  | succ rounds ih =>
    have hless := Value.sizeHolds_of_asInt? .less (Value.asInt?_int line) hv
    have hwithin := Value.sizeHolds_of_asInt? .atMost (Value.asInt?_int line)
      (Value.asInt?_int table.lines.length)
    rw [pass, hless, hwithin]
    simp only [ok_bind, SizeTest.holds]
    by_cases hstop : n ≤ line ∨ table.lines.length < line
    · have hpass : passTo table line n = line := by
        unfold passTo
        omega
      rw [commentsBetween_empty hstop, hpass]
      rcases hstop with hstop | hstop
      · have : (compare line n == .lt) = false := by
          rw [beq_eq_false_iff_ne, ne_eq, Int.compare_eq_lt]
          omega
        simp [this]
      · rw [Int.compare_eq_gt.mpr hstop]
        split <;> rfl
    · have hlt : line < n := by omega
      have hle : line ≤ table.lines.length := by omega
      have horder : (compare line (table.lines.length : Int) != .gt) = true := by
        rw [bne_iff_ne, ne_eq, Int.compare_eq_gt]
        omega
      have hpass : passTo table line n = passTo table (line + 1) n := by
        unfold passTo
        omega
      have hrest := @ih (line + 1) (by omega)
      rw [Int.compare_eq_lt.mpr hlt, horder, aloneAt_int,
        Value.successor_of_asInt? (Value.asInt?_int line)]
      simp only [ok_bind, hrest]
      rw [commentsBetween_step h hlt hle, hpass]
      rfl

theorem upTo_eq (h : table.InOrder) (hv : v.asInt? = some n) {line : Int} (hline : 0 ≤ line) :
    table.upTo (.int line) v = .ok (commentsBetween table line n, .int (passTo table line n)) :=
  pass_eq h hv (by omega)

end CommentTable

namespace Hub

section Numbered

/-- Whether the line numbers of a form, where they are given and count as true, are whole. -/
def Fields.isNumbered (fields : Fields) : Bool :=
  ["lineno", "end_lineno"].all fun name => (fields.number? name).all fun v => v.asInt?.isSome

mutual

/-- Whether all line numbers in a form are whole. -/
def formIsNumbered : Form → Bool
  | .record fields body orelse =>
    Fields.isNumbered fields && suiteIsNumbered body && suiteIsNumbered orelse
  | .other _ => true

def suiteIsNumbered : Suite → Bool
  | .absent => true
  | .forms items => areNumbered items
  | .other _ => true

def areNumbered : List Form → Bool
  | [] => true
  | form :: rest => formIsNumbered form && areNumbered rest

end

theorem areNumbered_iff {forms : List Form} :
    areNumbered forms = true ↔ ∀ form ∈ forms, formIsNumbered form = true := by
  induction forms with
  | nil => simp [areNumbered]
  | cons form rest ih => rw [areNumbered, Bool.and_eq_true, ih, List.forall_mem_cons]

theorem isNumbered_of_form {fields : Fields} {body orelse : Suite}
    (h : formIsNumbered (.record fields body orelse) = true) : fields.isNumbered = true := by
  simp only [formIsNumbered, Bool.and_eq_true] at h
  exact h.1.1

end Numbered

section Fields

variable {fields : Fields}

/-- A line number that is whole is the same number read as a whole one. -/
theorem number?_eq {name : String} (h : (fields.number? name).all (·.asInt?.isSome) = true) :
    fields.number? name = none ∧ lineField? fields name = none ∨
      ∃ v n, fields.number? name = some v ∧ v.asInt? = some n ∧
        lineField? fields name = some n := by
  rw [Fields.number?] at h ⊢
  rw [lineField?]
  cases hlookup : fields.lookup name with
  | none => exact .inl ⟨rfl, rfl⟩
  | some v =>
    cases hint : v.asInt? with
    | none =>
      have htruth : v.truth = false := by
        rw [← Bool.not_eq_true]
        intro htruth
        simp [hlookup, Option.filter, htruth, hint] at h
      exact .inl ⟨by simp [Option.filter, htruth], by simp [hint]⟩
    | some n =>
      have htruth := Value.truth_of_asInt? hint
      by_cases hzero : n = 0
      · exact .inl ⟨by simp [Option.filter, htruth, hzero], by simp [hint, Option.filter, hzero]⟩
      · refine .inr ⟨v, n, by simp [Option.filter, htruth, hzero], hint, ?_⟩
        simp [hint, Option.filter, hzero]

theorem number?_of_lineField? {name : String} {n : Int} (h : lineField? fields name = some n) :
    ∃ v, fields.number? name = some v ∧ v.asInt? = some n := by
  obtain ⟨hfound, hzero⟩ := Option.filter_eq_some_iff.mp h
  obtain ⟨v, hlookup, hint⟩ := Option.bind_eq_some_iff.mp hfound
  refine ⟨v, ?_, hint⟩
  rw [Fields.number?, hlookup, Option.filter_eq_some_iff]
  exact ⟨rfl, (Value.truth_of_asInt? hint).trans hzero⟩

theorem getD_of_numbered (h : fields.isNumbered = true) {name : String}
    (hname : name ∈ ["lineno", "end_lineno"]) {other : Value} {n : Int}
    (hother : other.asInt? = some n) :
    ((fields.number? name).getD other).asInt? = some ((lineField? fields name).getD n) := by
  rw [Fields.isNumbered, List.all_eq_true] at h
  rcases number?_eq (h name hname) with ⟨hnone, hline⟩ | ⟨v, m, hsome, hint, hline⟩
  · rw [hnone, hline]
    exact hother
  · rw [hsome, hline]
    exact hint

theorem startOr_of_numbered (h : fields.isNumbered = true) {other : Value} {n : Int}
    (hother : other.asInt? = some n) :
    (fields.startOr other).asInt? = some ((Fields.line? fields).getD n) :=
  getD_of_numbered h (by simp) hother

theorem endOr_of_numbered (h : fields.isNumbered = true) {other : Value} {n : Int}
    (hother : other.asInt? = some n) :
    (fields.endOr other).asInt? = some ((Fields.lastLine? fields).getD n) :=
  getD_of_numbered h (by simp) hother

end Fields

end Hub

end HubScript
