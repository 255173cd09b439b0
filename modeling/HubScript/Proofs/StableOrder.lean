import HubScript.Hub.Order
import HubScript.Proofs.Except

/-!
# Sorting is stable

The sort that finds a first run and puts everything else in its place by halving gives the stable
order, where all comparisons can be made and come from a total order: items that are alike stay as
they arrive. Two lists in order with the same items are the same if their items that are alike come
in the same order.
-/
namespace HubScript.Hub

variable {α : Type} {le : α → α → Bool} {less : α → α → Except Failure Bool} {P : α → Prop}

/-- A total order, by which items that have a property are compared. -/
structure Compares (P : α → Prop) (le : α → α → Bool) (less : α → α → Except Failure Bool) :
    Prop where
  trans : ∀ a b c, le a b = true → le b c = true → le a c = true
  total : ∀ a b, (le a b || le b a) = true
  less_eq : ∀ a b, P a → P b → less a b = .ok (!le b a)

/-- Whether neither of two items comes before the other. -/
def alike (le : α → α → Bool) (a b : α) : Bool := le a b && le b a

theorem eq_of_stable {first second : List α} (hperm : first.Perm second)
    (hfirst : first.Pairwise (le · · = true)) (hsecond : second.Pairwise (le · · = true))
    (hrefl : ∀ a, le a a = true)
    (hsame : ∀ a, first.filter (alike le a) = second.filter (alike le a)) : first = second := by
  induction first generalizing second with
  | nil => exact hperm.nil_eq
  | cons a rest ih =>
    cases second with
    | nil => cases hperm.eq_nil
    | cons b others =>
      obtain ⟨ha, hrest⟩ := List.pairwise_cons.mp hfirst
      obtain ⟨hb, hothers⟩ := List.pairwise_cons.mp hsecond
      have hab : le a b = true := by
        rcases List.mem_cons.mp (hperm.mem_iff.mpr (List.mem_cons_self ..)) with rfl | hmem
        · exact hrefl b
        · exact ha b hmem
      have hba : le b a = true := by
        rcases List.mem_cons.mp (hperm.mem_iff.mp (List.mem_cons_self ..)) with rfl | hmem
        · exact hrefl a
        · exact hb a hmem
      -- Both heads are alike, so each is the first of the items like `a` in its list.
      have hheads := hsame a
      rw [List.filter_cons_of_pos (by simp [alike, hrefl]),
        List.filter_cons_of_pos (by simp [alike, hab, hba])] at hheads
      obtain ⟨rfl, -⟩ := List.cons.inj hheads
      refine congrArg (a :: ·) (ih hperm.cons_inv hrest hothers fun c => ?_)
      have hc := hsame c
      by_cases hlike : alike le c a = true
      · rw [List.filter_cons_of_pos hlike, List.filter_cons_of_pos hlike] at hc
        exact (List.cons.inj hc).2
      · rwa [List.filter_cons_of_neg hlike, List.filter_cons_of_neg hlike] at hc

namespace Compares

variable (h : Compares P le less)

include h

theorem refl (a : α) : le a a = true := by simpa using h.total a a

theorem le_of_not {a b : α} (hab : le a b = false) : le b a = true := by
  simpa [hab] using h.total a b

/-- A sort leaves items that are alike in their order. -/
theorem filter_mergeSort (items : List α) (a : α) :
    (items.mergeSort le).filter (alike le a) = items.filter (alike le a) := by
  have hlike : (items.filter (alike le a)).Pairwise (le · · = true) := by
    refine List.pairwise_of_forall_mem_list fun b hb c hc => ?_
    simp only [List.mem_filter, alike, Bool.and_eq_true] at hb hc
    exact h.trans _ _ _ hb.2.2 hc.2.1
  have hsub := (List.sublist_mergeSort h.trans h.total hlike List.filter_sublist).filter
    (alike le a)
  simp only [List.filter_filter, Bool.and_self] at hsub
  exact (hsub.eq_of_length ((List.mergeSort_perm items le).symm.filter _).length_eq).symm

/-- An item that comes last is put behind those that it is not less than. -/
theorem mergeSort_concat {items front back : List α} {x : α}
    (hsorted : items.mergeSort le = front ++ back) (hfront : ∀ y ∈ front, le y x = true)
    (hback : ∀ y ∈ back, le y x = false) :
    (items ++ [x]).mergeSort le = front ++ x :: back := by
  have hordered := List.pairwise_mergeSort h.trans h.total items
  rw [hsorted] at hordered
  obtain ⟨horderedFront, horderedBack, hacross⟩ := List.pairwise_append.mp hordered
  have hperm : (front ++ x :: back).Perm (items ++ [x]) := by
    refine List.perm_middle.trans (.trans ?_ (List.perm_append_singleton x items).symm)
    rw [← hsorted]
    exact (List.mergeSort_perm items le).cons x
  refine eq_of_stable ((List.mergeSort_perm _ _).trans hperm.symm)
    (List.pairwise_mergeSort h.trans h.total _) ?_ h.refl fun a => ?_
  · refine List.pairwise_append.mpr ⟨horderedFront, List.pairwise_cons.mpr ⟨fun y hy => ?_,
      horderedBack⟩, fun y hy z hz => ?_⟩
    · exact h.le_of_not (hback y hy)
    · rcases List.mem_cons.mp hz with rfl | hz
      · exact hfront y hy
      · exact hacross y hy z hz
  · have hparts := h.filter_mergeSort items a
    rw [hsorted, List.filter_append] at hparts
    rw [h.filter_mergeSort, List.filter_append, List.filter_append, ← hparts]
    by_cases hlike : alike le a x = true
    · have hnone : back.filter (alike le a) = [] := by
        refine List.filter_eq_nil_iff.mpr fun y hy hya => ?_
        simp only [alike, Bool.and_eq_true] at hlike hya
        have hyx := h.trans _ _ _ hya.2 hlike.1
        rw [hback y hy] at hyx
        cases hyx
      rw [List.filter_cons_of_pos hlike, List.filter_cons_of_pos hlike, hnone, List.append_nil,
        List.filter_nil]
    · rw [List.filter_cons_of_neg hlike, List.filter_cons_of_neg hlike, List.filter_nil,
        List.append_nil]

/-- Halving finds the place behind the items that one is not less than. -/
theorem insertHalving_eq {x : α} (hx : P x) {rounds : Nat} {sorted : List α}
    (hrounds : sorted.length ≤ rounds) (hP : ∀ y ∈ sorted, P y)
    (hsorted : sorted.Pairwise (le · · = true)) :
    ∃ front back, sorted = front ++ back ∧ (∀ y ∈ front, le y x = true) ∧
      (∀ y ∈ back, le y x = false) ∧
      insertHalving less x rounds sorted = .ok (front ++ x :: back) := by
  induction rounds generalizing sorted with
  | zero =>
    obtain rfl := List.length_eq_zero_iff.mp (Nat.le_zero.mp hrounds)
    exact ⟨[], [], rfl, nofun, nofun, rfl⟩
  | succ rounds ih =>
    have hhalves := List.take_append_drop (sorted.length / 2) sorted
    have hlength : (sorted.take (sorted.length / 2)).length ≤ sorted.length / 2 :=
      List.length_take_le ..
    rw [insertHalving, List.splitAt_eq]
    generalize sorted.take (sorted.length / 2) = before at hhalves hlength
    cases hdrop : sorted.drop (sorted.length / 2) with
    | nil =>
      have hempty : sorted = [] := by
        have := List.drop_eq_nil_iff.mp hdrop
        exact List.length_eq_zero_iff.mp (by omega)
      subst hempty
      exact ⟨[], [], rfl, nofun, nofun, rfl⟩
    | cons y behind =>
      rw [hdrop] at hhalves
      subst hhalves
      simp only [List.length_append, List.length_cons] at hrounds hlength
      obtain ⟨hbefore, hfrom, hacross⟩ := List.pairwise_append.mp hsorted
      obtain ⟨hy, hbehind⟩ := List.pairwise_cons.mp hfrom
      simp only [h.less_eq x y hx (hP y (by simp)), ok_bind]
      by_cases hyx : le y x = true
      · obtain ⟨front, back, rfl, hfront, hback, hinsert⟩ :=
          ih (by omega) (fun z hz => hP z (by simp [hz])) hbehind
        refine ⟨before ++ y :: front, back, by simp, fun z hz => ?_, hback, ?_⟩
        · rcases List.mem_append.mp hz with hz | hz
          · exact h.trans _ _ _ (hacross z hz y (by simp)) hyx
          · rcases List.mem_cons.mp hz with rfl | hz
            · exact hyx
            · exact hfront z hz
        · simp [hyx, hinsert]
      · rw [Bool.not_eq_true] at hyx
        obtain ⟨front, back, rfl, hfront, hback, hinsert⟩ :=
          ih (by omega) (fun z hz => hP z (by simp only [List.mem_append]; exact .inl hz)) hbefore
        refine ⟨front, back ++ y :: behind, by simp, hfront, fun z hz => ?_, ?_⟩
        · rcases List.mem_append.mp hz with hz | hz
          · exact hback z hz
          · rcases List.mem_cons.mp hz with rfl | hz
            · exact hyx
            · rw [← Bool.not_eq_true]
              intro hzx
              rw [h.trans _ _ _ (hy z hz) hzx] at hyx
              cases hyx
        · simp [hyx, hinsert]

theorem insertAll_eq {items rest : List α} (hP : ∀ x ∈ items ++ rest, P x) :
    insertAll less (items.mergeSort le) rest = .ok ((items ++ rest).mergeSort le) := by
  induction rest generalizing items with
  | nil => rw [insertAll, List.append_nil]
  | cons x rest ih =>
    obtain ⟨front, back, hsplit, hfront, hback, hinsert⟩ :=
      h.insertHalving_eq (hP x (by simp)) (Nat.le_refl _)
        (fun y hy => hP y (by simp [List.mem_mergeSort.mp hy]))
        (List.pairwise_mergeSort h.trans h.total items)
    rw [insertAll, hinsert, ok_bind, ← h.mergeSort_concat hsplit hfront hback,
      ih (by simpa using hP), List.append_assoc, List.singleton_append]

theorem rising_eq {last : α} {items : List α} (hlast : P last) (hP : ∀ x ∈ items, P x) :
    ∃ run others, rising less last items = .ok (run, others) ∧ items = run ++ others ∧
      (last :: run).Pairwise (le · · = true) := by
  induction items generalizing last with
  | nil => exact ⟨[], [], rfl, rfl, by simp⟩
  | cons x rest ih =>
    rw [rising, h.less_eq x last (hP x (by simp)) hlast]
    by_cases hle : le last x = true
    · obtain ⟨run, others, hrun, rfl, hsorted⟩ :=
        ih (hP x (by simp)) fun y hy => hP y (by simp [hy])
      refine ⟨x :: run, others, by simp [hle, hrun], rfl, ?_⟩
      refine List.pairwise_cons.mpr ⟨fun y hy => ?_, hsorted⟩
      rcases List.mem_cons.mp hy with rfl | hy
      · exact hle
      · exact h.trans _ _ _ hle ((List.pairwise_cons.mp hsorted).1 y hy)
    · exact ⟨[], x :: rest, by simp [hle], rfl, by simp⟩

theorem falling_eq {last : α} {items : List α} (hlast : P last) (hP : ∀ x ∈ items, P x) :
    ∃ run others, falling less last items = .ok (run, others) ∧ items = run.reverse ++ others ∧
      (run ++ [last]).Pairwise (fun a b => le b a = false) := by
  induction items generalizing last with
  | nil => exact ⟨[], [], rfl, rfl, by simp⟩
  | cons x rest ih =>
    rw [falling, h.less_eq x last (hP x (by simp)) hlast]
    by_cases hle : le last x = true
    · exact ⟨[], x :: rest, by simp [hle], rfl, by simp⟩
    · rw [Bool.not_eq_true] at hle
      obtain ⟨run, others, hrun, rfl, hsorted⟩ :=
        ih (hP x (by simp)) fun y hy => hP y (by simp [hy])
      refine ⟨run ++ [x], others, by simp [hle, hrun], by simp, ?_⟩
      refine List.pairwise_append.mpr ⟨hsorted, by simp, fun y hy z hz => ?_⟩
      obtain rfl := List.mem_singleton.mp hz
      rcases List.mem_append.mp hy with hy | hy
      · rw [← Bool.not_eq_true]
        intro hzy
        have hyx := h.le_of_not ((List.pairwise_append.mp hsorted).2.2 y hy x (by simp))
        rw [h.trans _ _ _ hzy hyx] at hle
        cases hle
      · obtain rfl := List.mem_singleton.mp hy
        exact hle

/-- What falls without a rest is sorted by turning it round. -/
theorem mergeSort_reverse {items : List α} (hitems : items.Pairwise fun a b => le b a = false) :
    items.reverse.mergeSort le = items := by
  induction items with
  | nil => rw [List.reverse_nil, List.mergeSort_nil]
  | cons x rest ih =>
    obtain ⟨hx, hrest⟩ := List.pairwise_cons.mp hitems
    have hsorted : rest.reverse.mergeSort le = [] ++ rest := ih hrest
    rw [List.reverse_cons, h.mergeSort_concat hsorted nofun hx, List.nil_append]

theorem firstRun_eq {items : List α} (hP : ∀ x ∈ items, P x) :
    ∃ run others, items = run ++ others ∧
      firstRun less items = .ok (run.mergeSort le, others) := by
  match items with
  | [] => exact ⟨[], [], rfl, by simp [firstRun]⟩
  | [x] => exact ⟨[x], [], rfl, by simp [firstRun]⟩
  | x :: y :: rest =>
    have hx := hP x (by simp)
    have hfrom : ∀ z ∈ y :: rest, P z := fun z hz => hP z (by simp [List.mem_cons.mp hz])
    by_cases hle : le x y = true
    · obtain ⟨run, others, hrun, hsplit, hsorted⟩ := h.rising_eq hx hfrom
      refine ⟨x :: run, others, by rw [hsplit, List.cons_append], ?_⟩
      rw [rising, h.less_eq y x (hfrom y (by simp)) hx] at hrun
      rw [firstRun, h.less_eq y x (hfrom y (by simp)) hx, List.mergeSort_of_pairwise hsorted]
      simp only [hle, Bool.not_true, Bool.false_eq_true, ↓reduceIte, ok_bind] at hrun ⊢
      obtain ⟨⟨later, behind⟩, hlater, hpair⟩ := bind_eq_ok.mp hrun
      cases hpair
      rw [hlater, ok_bind]
      rfl
    · rw [Bool.not_eq_true] at hle
      obtain ⟨run, others, hrun, hsplit, hsorted⟩ := h.falling_eq hx hfrom
      refine ⟨x :: run.reverse, others, by rw [hsplit, List.cons_append], ?_⟩
      rw [falling, h.less_eq y x (hfrom y (by simp)) hx] at hrun
      have hturned := h.mergeSort_reverse hsorted
      rw [List.reverse_append, List.reverse_singleton, List.singleton_append] at hturned
      rw [firstRun, h.less_eq y x (hfrom y (by simp)) hx, hturned]
      simp only [hle, Bool.not_false, Bool.not_true, Bool.false_eq_true, ↓reduceIte, ok_bind]
        at hrun ⊢
      obtain ⟨⟨later, behind⟩, hlater, hpair⟩ := bind_eq_ok.mp hrun
      cases hpair
      rw [hlater, ok_bind, List.append_assoc]
      rfl

theorem sortBy_eq {items : List α} (hP : ∀ x ∈ items, P x) :
    sortBy less items = .ok (items.mergeSort le) := by
  obtain ⟨run, others, rfl, hrun⟩ := h.firstRun_eq hP
  rw [sortBy, hrun, ok_bind]
  exact h.insertAll_eq hP

end Compares

end HubScript.Hub
