import HubScript.Proofs.Except
import HubScript.Script.Comment

/-!
# The lines of comments

Comments are found line by line. A line yields at most one comment that stands alone, so the lines
of such comments increase strictly, and each of them is a line of the script however its lines are
cut.
-/
namespace HubScript.Comment

open Text

/-- How many characters are not blank. -/
def ink (cs : List Char) : Nat := cs.countP fun c => !isBlank c

theorem ink_append (a b : List Char) : ink (a ++ b) = ink a + ink b := List.countP_append

theorem ink_le_of_sublist {a b : List Char} (h : a.Sublist b) : ink a ≤ ink b := h.countP_le

theorem ink_trimLeft (cs : List Char) : ink (trimLeft cs) = ink cs := by
  have hblank : ink (cs.takeWhile isBlank) = 0 := by
    simp only [ink, List.countP_eq_zero, Bool.not_eq_true', Bool.not_eq_false]
    intro c hc
    exact (List.all_eq_true.mp List.all_takeWhile) c hc
  have hsplit : ink cs = ink (cs.takeWhile isBlank) + ink (cs.dropWhile isBlank) := by
    rw [← ink_append, List.takeWhile_append_dropWhile]
  rw [trimLeft, hsplit, hblank, Nat.zero_add]

theorem ink_trim (cs : List Char) : ink (trim cs) = ink cs := by
  have hreverse (ds : List Char) : ink ds.reverse = ink ds := List.countP_reverse
  rw [trim, trimRight, hreverse, ← trimLeft, ink_trimLeft, hreverse, ink_trimLeft]

/-- A comment that stands alone holds all that is written on its line. -/
theorem ink_of_alone {line : Nat} {whole text : List Char} (h : (found line whole text).alone) :
    ink text = ink whole ∧ 0 < ink whole := by
  simp only [found, Bool.and_eq_true, beq_iff_eq] at h
  obtain ⟨hhead, htrim⟩ := h
  refine ⟨by rw [← ink_trim text, ← htrim, ink_trim], ?_⟩
  rw [← ink_trim whole]
  cases hw : trim whole with
  | nil => simp [hw] at hhead
  | cons c rest =>
    have hc : c = '#' := by simpa [hw] using hhead
    subst hc
    exact List.countP_pos_iff.mpr ⟨'#', by simp, by decide⟩

theorem endOfText_suffix {quote : Char} {triple : Bool} {cs rest : List Char}
    (h : endOfText quote triple cs = some rest) : rest <:+ cs := by
  fun_induction endOfText quote triple cs with
  | case1 | case2 | case3 => simp at h
  | case4 c tail _ ih => exact (ih h).trans ⟨['\\', c], rfl⟩
  | case5 c tail =>
    obtain rfl := Option.some.inj h
    exact List.suffix_cons c _
  | case6 c tail =>
    obtain rfl := Option.some.inj h
    exact (List.drop_suffix 2 tail).trans (List.suffix_cons c tail)
  | case7 c tail _ _ _ _ ih => exact (ih h).trans (List.suffix_cons c tail)

theorem firstLine_suffix {quote : Char} {cs rest : List Char}
    (h : firstLine quote cs = .closed rest) : rest <:+ cs := by
  fun_induction firstLine quote cs with
  | case1 | case2 | case3 | case4 | case5 | case8 => simp at h
  | case6 c tail _ _ _ ih => exact (ih h).trans ⟨['\\', c], rfl⟩
  | case7 c tail =>
    obtain rfl := FirstLine.closed.inj h
    exact List.suffix_cons c _
  | case9 c tail _ _ _ _ _ _ ih => exact (ih h).trans (List.suffix_cons c tail)

/-- What one round of the walk over a line can come to: the end of the line, a later place in it,
or a comment and the place after it. -/
inductive Round (line : Nat) (whole : List Char) (fuel : Nat) (s : State) (done : List Comment)
    (cs : List Char) : LineResult → Prop
  | ends (s' : State) : Round line whole fuel s done cs ⟨done.reverse, s'⟩
  | goesOn (s' : State) {rest : List Char} (h : rest <:+ cs) :
      Round line whole fuel s done cs (walk line whole fuel s' done rest)
  | finds {text rest : List Char} (hmark : text.head? = some '#') (h : text ++ rest <:+ cs) :
      Round line whole fuel s done cs (walk line whole fuel s (found line whole text :: done) rest)

theorem walk_round (line : Nat) (whole : List Char) (fuel : Nat) (s : State) (done : List Comment)
    (cs : List Char) : Round line whole fuel s done cs (walk line whole (fuel + 1) s done cs) := by
  have hgap : cs.dropWhile isGap <:+ cs := List.dropWhile_suffix _
  rw [walk]
  dsimp only
  split
  · exact .ends s
  · exact .ends _
  · exact .ends _
  · rename_i rest hcs
    refine .finds (by rw [hcs]; rfl) ?_
    rw [List.prefix_iff_eq_append.mp (List.takeWhile_prefix _)]
    exact hgap
  · rename_i c rest _ _ _ hcs
    have hrest : rest <:+ cs := (List.suffix_cons c rest).trans (hcs ▸ hgap)
    have hdrop : (cs.dropWhile isGap).drop (markLength (cs.dropWhile isGap)) <:+ cs :=
      (List.drop_suffix _ _).trans hgap
    split
    · rename_i q body hq
      rw [hq] at hdrop
      have hbody : body <:+ cs := (List.suffix_cons q body).trans hdrop
      split
      · split
        · split
          · rename_i after h
            exact .goesOn s ((endOfText_suffix h).trans ((List.drop_suffix 2 body).trans hbody))
          · exact .ends _
        · split
          · rename_i after h
            exact .goesOn s ((firstLine_suffix h).trans hbody)
          · exact .ends _
          · exact .goesOn s hbody
      · split
        · exact .goesOn s ((List.dropWhile_suffix _).trans hgap)
        · split
          · exact .goesOn _ hrest
          · split
            · exact .goesOn _ hrest
            · exact .goesOn _ hrest
    · exact .ends s

/-- Texts that stand on a line one after the other, from left to right. -/
inductive InTurn : List (List Char) → List Char → Prop
  | nil (line : List Char) : InTurn [] line
  | cons {texts : List (List Char)} {rest : List Char} (before text : List Char)
      (later : InTurn texts rest) : InTurn (text :: texts) (before ++ (text ++ rest))

section Turns

variable {texts : List (List Char)} {text rest cs : List Char}

theorem InTurn.of_suffix (h : InTurn texts rest) (hs : rest <:+ cs) : InTurn texts cs := by
  obtain ⟨skipped, rfl⟩ := hs
  cases h with
  | nil => exact .nil _
  | cons before text later =>
    rw [← List.append_assoc]
    exact .cons (skipped ++ before) text later

theorem InTurn.after (h : InTurn texts rest) (hs : text ++ rest <:+ cs) :
    InTurn (text :: texts) cs := by
  obtain ⟨before, rfl⟩ := hs
  exact .cons before text h

theorem InTurn.sublist (h : InTurn texts cs) : texts.flatten.Sublist cs := by
  induction h with
  | nil line => exact List.nil_sublist line
  | cons before text later ih =>
    rw [List.flatten_cons]
    exact (ih.append_left text).trans (List.sublist_append_right before _)

end Turns

/-- A comment that has been found on a line, with its mark. -/
def FoundOn (line : Nat) (whole : List Char) (c : Comment) : Prop :=
  ∃ text : List Char, text.head? = some '#' ∧ c = found line whole text

/-- The texts of comments, in order. -/
def textsOf (comments : List Comment) : List (List Char) := comments.map (·.text.toList)

/-- The comments of one line, from left to right. -/
structure OfLine (line : Nat) (whole : List Char) (comments : List Comment) : Prop where
  marked : ∀ c ∈ comments, FoundOn line whole c
  inTurn : InTurn (textsOf comments) whole

section Line

variable {line : Nat} {whole cs : List Char} {comments : List Comment}

theorem OfLine.nil (line : Nat) (whole : List Char) : OfLine line whole [] := ⟨nofun, .nil whole⟩

theorem OfLine.onLine (h : OfLine line whole comments) : ∀ c ∈ comments, c.line = line := by
  intro c hc
  obtain ⟨text, -, rfl⟩ := h.marked c hc
  rfl

theorem FoundOn.ink_pos {c : Comment} (h : FoundOn line whole c) : 0 < ink c.text.toList := by
  obtain ⟨text, hmark, rfl⟩ := h
  obtain ⟨rest, rfl⟩ := List.head?_eq_some_iff.mp hmark
  rw [found, String.toList_ofList]
  exact List.countP_pos_iff.mpr ⟨'#', List.mem_cons_self, by decide⟩

/-- Comments without anything written in them are none. -/
theorem eq_nil_of_ink (hmarked : ∀ c ∈ comments, FoundOn line whole c)
    (hink : ink (textsOf comments).flatten = 0) : comments = [] := by
  cases comments with
  | nil => rfl
  | cons c rest =>
    have hpos := (hmarked c List.mem_cons_self).ink_pos
    rw [textsOf, List.map_cons, List.flatten_cons, ink_append] at hink
    omega

/-- A comment that stands alone leaves no room for another one on its line. -/
theorem OfLine.eq_singleton (h : OfLine line whole comments) {c : Comment} (hc : c ∈ comments)
    (halone : c.alone = true) : comments = [c] := by
  have hall : ink c.text.toList = ink whole := by
    obtain ⟨text, -, rfl⟩ := h.marked c hc
    rw [found, String.toList_ofList]
    exact (ink_of_alone halone).1
  obtain ⟨before, after, rfl⟩ := List.append_of_mem hc
  obtain ⟨hbefore, hafter⟩ := List.forall_mem_append.mp h.marked
  have hroom := ink_le_of_sublist h.inTurn.sublist
  simp only [textsOf, List.map_append, List.map_cons, List.flatten_append, List.flatten_cons,
    ink_append] at hroom
  have hfirst : before = [] := eq_nil_of_ink hbefore (by rw [textsOf]; omega)
  have hlast : after = [] :=
    eq_nil_of_ink (List.forall_mem_cons.mp hafter).2 (by rw [textsOf]; omega)
  rw [hfirst, hlast, List.nil_append]

theorem OfLine.once (h : OfLine line whole comments) : comments.countP (·.alone) ≤ 1 := by
  by_cases halone : ∃ c ∈ comments, c.alone = true
  · obtain ⟨c, hc, halone⟩ := halone
    rw [h.eq_singleton hc halone]
    exact List.countP_le_length
  · rw [List.countP_eq_zero.mpr fun c hc hc' => halone ⟨c, hc, hc'⟩]
    exact Nat.zero_le 1

/-- A walk adds the comments of what is left of the line, in turn. -/
theorem walk_inTurn (line : Nat) (whole : List Char) (fuel : Nat) (s : State)
    (done : List Comment) (cs : List Char) :
    ∃ new, (walk line whole fuel s done cs).comments = done.reverse ++ new ∧
      (∀ c ∈ new, FoundOn line whole c) ∧ InTurn (textsOf new) cs := by
  induction fuel generalizing s done cs with
  | zero => exact ⟨[], (List.append_nil _).symm, nofun, .nil cs⟩
  | succ fuel ih =>
    have hround := walk_round line whole fuel s done cs
    generalize walk line whole (fuel + 1) s done cs = r at hround ⊢
    cases hround with
    | ends s' => exact ⟨[], (List.append_nil _).symm, nofun, .nil cs⟩
    | @goesOn s' rest hs =>
      obtain ⟨new, hnew, hmarked, hturn⟩ := ih s' done rest
      exact ⟨new, hnew, hmarked, hturn.of_suffix hs⟩
    | @finds text rest hmark hs =>
      obtain ⟨new, hnew, hmarked, hturn⟩ := ih s (found line whole text :: done) rest
      refine ⟨found line whole text :: new, ?_, ?_, ?_⟩
      · rw [hnew, List.reverse_cons, List.append_assoc, List.singleton_append]
      · exact List.forall_mem_cons.mpr ⟨⟨text, hmark, rfl⟩, hmarked⟩
      · rw [textsOf, List.map_cons, found, String.toList_ofList]
        exact hturn.after hs

theorem walkFrom_ofLine (line : Nat) (s : State) (h : cs <:+ whole) :
    OfLine line whole (walkFrom line whole s cs).comments := by
  obtain ⟨new, hnew, hmarked, hturn⟩ := walk_inTurn line whole (cs.length + 1) s [] cs
  rw [walkFrom, hnew]
  exact ⟨hmarked, hturn.of_suffix h⟩

/-- The line ends behind a comment do not take its mark away. -/
theorem head_of_trimmed_ends (tail : List Char) :
    (('#' :: tail).reverse.dropWhile fun c => c == '\r' || c == '\n').reverse.head? = some '#' := by
  rw [List.reverse_cons, List.dropWhile_append]
  split
  · rfl
  · rw [List.reverse_append]
    rfl

theorem trimmed_ends_prefix (cs : List Char) :
    (cs.reverse.dropWhile fun c => c == '\r' || c == '\n').reverse <+: cs := by
  rw [← List.reverse_suffix, List.reverse_reverse]
  exact List.dropWhile_suffix _

theorem openingLine_ofLine {s : State} {r : LineResult}
    (h : openingLine line cs s = .ok (some r)) : OfLine line cs r.comments := by
  unfold openingLine at h
  dsimp only at h
  split at h
  · simp at h
  · rename_i tail hcs
    obtain rfl := Option.some.inj (Except.ok.inj h)
    refine ⟨List.forall_mem_singleton.mpr ⟨_, ?_, rfl⟩, ?_⟩
    · rw [hcs]
      exact head_of_trimmed_ends tail
    · obtain ⟨ends, hends⟩ := trimmed_ends_prefix (cs.dropWhile isGap)
      rw [textsOf, List.map_singleton, found, String.toList_ofList]
      exact (InTurn.nil ends).after (by rw [hends]; exact List.dropWhile_suffix isGap)
  · obtain rfl := Option.some.inj (Except.ok.inj h)
    exact .nil line cs
  · obtain rfl := Option.some.inj (Except.ok.inj h)
    exact .nil line cs
  · split at h
    · simp at h
    · obtain rfl := Option.some.inj (Except.ok.inj h)
      exact walkFrom_ofLine line _ (List.dropWhile_suffix _)

theorem textLine_ofLine (line : Nat) (cs : List Char) (s : State) (opened : OpenText) :
    OfLine line cs (textLine line cs s opened).comments := by
  unfold textLine
  split
  · rename_i rest h
    exact walkFrom_ofLine line _ (endOfText_suffix h)
  · split <;> exact .nil line cs

end Line

/-- Comments from a line on and before another; those that stand alone are on lines of their own. -/
structure Spread (line stop : Nat) (comments : List Comment) : Prop where
  within : ∀ c ∈ comments, line ≤ c.line ∧ c.line < stop
  increasing : ((comments.filter (·.alone)).map (·.line)).Pairwise (· < ·)

theorem Spread.nil (line stop : Nat) : Spread line stop [] := ⟨by simp, by simp⟩

theorem OfLine.spread {line stop : Nat} {whole : List Char} {own others : List Comment}
    (hown : OfLine line whole own) (hstop : line < stop) (hothers : Spread (line + 1) stop others) :
    Spread line stop (own ++ others) := by
  refine ⟨?_, ?_⟩
  · intro c hc
    rcases List.mem_append.mp hc with hc | hc
    · have := hown.onLine c hc
      omega
    · have := hothers.within c hc
      omega
  · rw [List.filter_append, List.map_append, List.pairwise_append]
    refine ⟨?_, hothers.increasing, ?_⟩
    · have hlen : ((own.filter (·.alone)).map (·.line)).length ≤ 1 := by
        rw [List.length_map, ← List.countP_eq_length_filter]
        exact hown.once
      generalize (own.filter (·.alone)).map (·.line) = lines at hlen
      match lines with
      | [] => exact .nil
      | [_] => exact List.pairwise_singleton _ _
      | _ :: _ :: _ => simp at hlen
    · intro a ha b hb
      obtain ⟨c, hc, rfl⟩ := List.mem_map.mp ha
      obtain ⟨d, hd, rfl⟩ := List.mem_map.mp hb
      have hcline := hown.onLine c (List.mem_filter.mp hc).1
      have hdline := hothers.within d (List.mem_filter.mp hd).1
      omega

theorem scan_nil {line : Nat} {s : State} {comments : List Comment}
    (h : scan line s [] = .ok comments) : comments = [] := by
  unfold scan at h
  split at h
  · cases h
  · split at h
    · exact (Except.ok.inj h).symm
    · cases h

/-- Every kind of line has comments of its own, and the lines after it have the others; or the
script is over. -/
theorem scan_cons {line : Nat} {s : State} {cs : List Char} {rest : List (List Char)}
    {comments : List Comment} (h : scan line s (cs :: rest) = .ok comments) :
    comments = [] ∨ ∃ own s' others, OfLine line cs own ∧ scan (line + 1) s' rest = .ok others ∧
      comments = own ++ others := by
  have hcons {own : List Comment} {s' : State} (hown : OfLine line cs own)
      (h : (scan (line + 1) s' rest >>= fun others => pure (own ++ others)) = .ok comments) :
      ∃ own s' others, OfLine line cs own ∧ scan (line + 1) s' rest = .ok others ∧
        comments = own ++ others := by
    obtain ⟨others, hothers, heq⟩ := bind_eq_ok.mp h
    exact ⟨own, s', others, hown, hothers, (Except.ok.inj heq).symm⟩
  unfold scan at h
  split at h
  · exact .inr (hcons (textLine_ofLine line cs s _) h)
  · split at h
    · obtain ⟨result, hopen, h⟩ := bind_eq_ok.mp h
      cases result with
      | none => exact .inl (Except.ok.inj h).symm
      | some r => exact .inr (hcons (openingLine_ofLine hopen) h)
    · exact .inr (hcons (walkFrom_ofLine line _ (List.suffix_refl cs)) h)

theorem scan_spread {line : Nat} {s : State} {lines : List (List Char)} {comments : List Comment}
    (h : scan line s lines = .ok comments) : Spread line (line + lines.length) comments := by
  induction lines generalizing line s comments with
  | nil =>
    obtain rfl := scan_nil h
    exact .nil _ _
  | cons cs rest ih =>
    have hlen : line + (cs :: rest).length = line + 1 + rest.length := by
      rw [List.length_cons]
      omega
    rcases scan_cons h with rfl | ⟨own, s', others, hown, hothers, rfl⟩
    · exact .nil _ _
    · rw [hlen]
      exact hown.spread (by omega) (ih hothers)

/-- The comments with the number of a line are those of that line. -/
theorem scan_ofLine {line : Nat} {s : State} {lines : List (List Char)} {comments : List Comment}
    (h : scan line s lines = .ok comments) {i : Nat} {whole : List Char}
    (hi : lines[i]? = some whole) :
    OfLine (line + i) whole (comments.filter (·.line == line + i)) := by
  induction lines generalizing line s comments i with
  | nil => cases hi
  | cons cs rest ih =>
    rcases scan_cons h with rfl | ⟨own, s', others, hown, hothers, rfl⟩
    · exact .nil _ _
    · have hafter := (scan_spread hothers).within
      rw [List.filter_append]
      cases i with
      | zero =>
        obtain rfl := Option.some.inj hi
        have hkept : own.filter (·.line == line + 0) = own := by
          refine List.filter_eq_self.mpr fun c hc => beq_iff_eq.mpr ?_
          exact hown.onLine c hc
        have hdropped : others.filter (·.line == line + 0) = [] := by
          refine List.filter_eq_nil_iff.mpr fun c hc heq => ?_
          have hlater := (hafter c hc).1
          have hsame := beq_iff_eq.mp heq
          omega
        rw [hkept, hdropped, List.append_nil]
        exact hown
      | succ i =>
        have hdropped : own.filter (·.line == line + (i + 1)) = [] := by
          refine List.filter_eq_nil_iff.mpr fun c hc heq => ?_
          have honline := hown.onLine c hc
          have hsame := beq_iff_eq.mp heq
          omega
        have hline : line + (i + 1) = line + 1 + i := by omega
        rw [hdropped, List.nil_append, hline]
        exact ih hothers hi

end HubScript.Comment

namespace HubScript

open Text

section Cuts

/-- The parts of a text that is cut at every line end. -/
def cuts (cs : List Char) : List (List Char) := splitLinesFrom false [] cs

/-- A line feed ends a line in both readings, so what follows it is cut on its own. -/
theorem splitLinesFrom_append (a b : List Char) {returned : Bool} {current : List Char}
    (h : returned = true → current = []) :
    splitLinesFrom returned current (a ++ '\n' :: b) =
      splitLinesFrom returned current (a ++ ['\n']) ++ cuts b := by
  induction a generalizing returned current with
  | nil =>
    have hend : isLineEnd '\n' = true := by decide
    cases returned with
    | true =>
      obtain rfl := h rfl
      rfl
    | false => simp [splitLinesFrom, hend, cuts]
  | cons c a ih =>
    rw [List.cons_append, List.cons_append, splitLinesFrom, splitLinesFrom]
    split
    · exact ih nofun
    · split
      · rw [ih fun _ => rfl, List.cons_append]
      · exact ih nofun

/-- The parts of a script are the parts of its lines. -/
theorem cuts_eq_flatMap (fed cs : List Char) :
    cuts (fed.reverse ++ cs) = (feedLinesFrom fed cs).flatMap cuts := by
  induction cs generalizing fed with
  | nil => cases fed <;> simp [feedLinesFrom, cuts, splitLinesFrom]
  | cons c rest ih =>
    rw [feedLinesFrom]
    split
    · rename_i hfeed
      obtain rfl := eq_of_beq hfeed
      rw [List.flatMap_cons, ← ih [], cuts, splitLinesFrom_append _ _ fun _ => rfl,
        List.reverse_cons]
      rfl
    · rw [← ih (c :: fed), List.reverse_cons, List.append_assoc, List.singleton_append]

theorem splitLines_eq (script : String) :
    splitLines script = ((feedLines script.toList).flatMap cuts).map String.ofList := by
  rw [splitLines, feedLines, ← cuts_eq_flatMap]
  rfl

/-- The first part of a text is what stands before its first line end. -/
theorem splitLinesFrom_head (current cs : List Char) (h : current ≠ [] ∨ cs ≠ []) :
    ∃ others, splitLinesFrom false current cs =
      (current.reverse ++ cs.takeWhile (!isLineEnd ·)) :: others := by
  induction cs generalizing current with
  | nil =>
    obtain ⟨c, current, rfl⟩ := List.exists_cons_of_ne_nil (h.resolve_right (absurd rfl))
    exact ⟨[], by simp [splitLinesFrom]⟩
  | cons c rest ih =>
    rw [splitLinesFrom, Bool.false_and, if_neg Bool.false_ne_true]
    split
    · rename_i hend
      exact ⟨splitLinesFrom (c == '\r') [] rest, by simp [hend]⟩
    · rename_i hend
      obtain ⟨others, hothers⟩ := ih (c :: current) (.inl (List.cons_ne_nil c current))
      exact ⟨others, by simp [hothers, hend]⟩

theorem cuts_of_ne_nil {line : List Char} (h : line ≠ []) :
    ∃ others, cuts line = line.takeWhile (!isLineEnd ·) :: others :=
  splitLinesFrom_head [] line (.inr h)

theorem feedLinesFrom_ne_nil (fed cs : List Char) : ∀ line ∈ feedLinesFrom fed cs, line ≠ [] := by
  induction cs generalizing fed with
  | nil => cases fed <;> simp [feedLinesFrom]
  | cons c rest ih =>
    rw [feedLinesFrom]
    split
    · exact List.forall_mem_cons.mpr ⟨by simp, ih []⟩
    · exact ih (c :: fed)

/-- Lines are cut into at least as many parts, and into more if one of them is divided. -/
theorem length_le_flatMap_cuts {lines : List (List Char)} (h : ∀ line ∈ lines, line ≠ []) :
    lines.length ≤ (lines.flatMap cuts).length := by
  induction lines with
  | nil => exact Nat.le_refl 0
  | cons line rest ih =>
    obtain ⟨hline, hrest⟩ := List.forall_mem_cons.mp h
    obtain ⟨others, hcuts⟩ := cuts_of_ne_nil hline
    have hlater := ih hrest
    rw [List.flatMap_cons, hcuts, List.length_append, List.length_cons, List.length_cons]
    omega

theorem feedLines_length_le (script : String) :
    (feedLines script.toList).length ≤ (splitLines script).length := by
  rw [splitLines_eq, List.length_map]
  exact length_le_flatMap_cuts (feedLinesFrom_ne_nil [] script.toList)

end Cuts

/-- Comments are found on lines that the script has when it is cut at every line end. -/
theorem line_within {script : String} {comments : List Comment}
    (h : commentsOf script = .ok comments) {c : Comment} (hc : c ∈ comments) :
    1 ≤ c.line ∧ c.line ≤ (splitLines script).length := by
  have hline := (Comment.scan_spread h).within c hc
  have hlen := feedLines_length_le script
  omega

namespace CommentTable

/-- The comments that stand alone are in the order of the script, at most one to a line, and each
on a line that the table holds. -/
structure InOrder (table : CommentTable) : Prop where
  increasing : table.alone.Pairwise (· < ·)
  within : ∀ l ∈ table.alone, 1 ≤ l ∧ l ≤ table.lines.length

theorem ofScript_inOrder {script : String} {table : CommentTable}
    (h : ofScript script = .ok table) : table.InOrder := by
  unfold ofScript at h
  cases hc : commentsOf script with
  | error fault => simp [hc, Except.map] at h
  | ok comments =>
    rw [hc] at h
    obtain rfl := Except.ok.inj h
    refine ⟨(Comment.scan_spread hc).increasing, ?_⟩
    intro l hl
    obtain ⟨c, hmem, rfl⟩ := List.mem_map.mp hl
    exact line_within hc (List.mem_filter.mp hmem).1

end CommentTable

end HubScript
