import HubScript.Proofs.PhraseOccurrence
import HubScript.Proofs.PhraseResidue
import HubScript.Proofs.Provenance

/-!
# What carrying over leaves alone

The words of the hub are put into the text of an expression, not into the expression. An expression
without readings of sensors still changes in two cases: a text or another constant in it mentions a
phrase, or it calls something whose name only ends like a sensor's method. In all other cases it
stays as it is.
-/
namespace HubScript

open Hub

/-! ### Texts that stay as they are -/

section Replacement

variable {old new : List Char} {kind : Char → Bool}

theorem replaceAll_cons_of_later {c : Char} {t : List Char} (h : ¬old <+: c :: t) :
    replaceAll old new (c :: t) = c :: replaceAll old new t := by
  rw [replaceAll, replaceFrom, if_neg (fun hold => h (List.isPrefixOf_iff_prefix.mp hold)),
    replaceAll]

/-- Where words with fewer characters of a kind are put in, the text has fewer of them. -/
theorem countP_replaceAll (hfewer : new.countP kind < old.countP kind) (t : List Char) :
    (replaceAll old new t).countP kind ≤ t.countP kind ∧
      (old <:+: t → (replaceAll old new t).countP kind < t.countP kind) := by
  have hold : old ≠ [] := by
    rintro rfl
    cases hfewer
  induction hsize : t.length using Nat.strong_induction_on generalizing t with
  | _ size ih =>
    by_cases hstart : old <+: t
    · obtain ⟨behind, rfl⟩ := hstart
      have hshorter : behind.length < size := by
        have hpos := List.length_pos_iff.mpr hold
        rw [List.length_append] at hsize
        omega
      have hbehind := (ih _ hshorter behind rfl).1
      rw [replaceAll_phrase hold, List.countP_append, List.countP_append]
      exact ⟨by omega, fun _ => by omega⟩
    · cases t with
      | nil => exact ⟨Nat.le_refl _, fun hin => absurd (List.infix_nil.mp hin) hold⟩
      | cons c t =>
        obtain ⟨hle, hlt⟩ := ih t.length (by simp [← hsize]) t rfl
        rw [replaceAll_cons_of_later hstart, List.countP_cons, List.countP_cons]
        refine ⟨by omega, fun hin => ?_⟩
        have hrest := hlt ((List.infix_cons_iff.mp hin).resolve_left hstart)
        omega

theorem countP_translate {table : List (String × String)}
    (htable : ∀ p ∈ table, p.2.toList.countP kind < p.1.toList.countP kind) (t : List Char) :
    (translate table t).countP kind ≤ t.countP kind ∧
      ((∃ p ∈ table, p.1.toList <:+: t) → (translate table t).countP kind < t.countP kind) := by
  induction table generalizing t with
  | nil => exact ⟨Nat.le_refl _, by simp⟩
  | cons p table ih =>
    obtain ⟨hfirst, hless⟩ := countP_replaceAll (htable p List.mem_cons_self) t
    obtain ⟨hlater, hlaterless⟩ := ih (fun q hq => htable q (List.mem_cons_of_mem p hq))
      (replaceAll p.1.toList p.2.toList t)
    rw [translate_cons]
    refine ⟨Nat.le_trans hlater hfirst, ?_⟩
    by_cases hp : p.1.toList <:+: t
    · exact fun _ => Nat.lt_of_le_of_lt hlater (hless hp)
    · -- the first phrase is not there, so that the text stays for the others
      rintro ⟨q, hq, hin⟩
      have hq : q ∈ table := by
        rcases List.mem_cons.mp hq with rfl | hq
        · exact absurd hin hp
        · exact hq
      have hsame : replaceAll p.1.toList p.2.toList t = t :=
        replaceAll_of_free (by rwa [← Bool.not_eq_true, occursIn_iff])
      rw [hsame] at hlaterless ⊢
      exact hlaterless ⟨q, hq, hin⟩

/-- The letters of which all phrases have more than the words of the hub for them. -/
def isSpent (c : Char) : Bool := c == 'e' || c == 'g'

theorem spent_phrases :
    ∀ p ∈ phrases, p.2.toList.countP isSpent < p.1.toList.countP isSpent := by
  decide

/-- A text stays as it is exactly if no phrase stands in it: none is replaced by itself, and no
other replacement makes good for one. -/
theorem toHub_eq_self_iff (text : String) :
    toHub text = text ↔ ∀ p ∈ phrases, ¬p.1.toList <:+: text.toList := by
  rw [toHub_eq]
  constructor
  · intro h p hp hin
    have hless := (countP_translate spent_phrases text.toList).2 ⟨p, hp, hin⟩
    have hsame : translate phrases text.toList = text.toList := by
      rw [← String.toList_ofList (l := translate phrases text.toList), h]
    rw [hsame] at hless
    exact Nat.lt_irrefl _ hless
  · intro h
    rw [translate_of_free h, String.ofList_toList]

end Replacement

/-! ### Calls that look like readings of sensors -/

/-- Whether an expression is a call without arguments for which the hub has words: a method of a
sensor that stands there by its bare name. -/
def Expr.isReading : Expr → Bool
  | .call (.attribute (.name object) method) [] [] =>
    phrases.any fun p => p.1 == object ++ "." ++ method ++ "()"
  | _ => false

namespace Hole

/-- A constant or a text with fields that mentions a phrase. -/
def Quotes (p : Hole) : Prop :=
  p.expr.isQuotable = true ∧ ∃ text, Printer.expr false p.asked p.expr = .ok text ∧
    ∃ q ∈ phrases, mentions text q.1 = true

/-- A call without arguments of something whose text is longer than that of a sensor's method but
ends with it. -/
def EndsLike (p : Hole) : Prop :=
  ∃ function text before, p.expr = .call function [] [] ∧
    Printer.expr false Level.atom function = .ok text ∧ before ≠ "" ∧
    ∃ q ∈ phrases, text ++ "()" = before ++ q.1

end Hole

section Readings

variable {e : Expr} {text : String}

/-- The text of an expression that asks for no brackets holds the segments of its own. -/
theorem mem_of_own (htext : Printer.expr false Level.atom e = .ok text) {own : String}
    (hown : .own (.ok own) ∈ e.segments) {c : Char} (hc : c ∈ own.toList) : c ∈ text.toList := by
  rw [expr_eq] at htext
  obtain ⟨inside, hinside, htext⟩ := bind_eq_ok.mp htext
  obtain rfl := Except.ok.inj htext
  have hmem : c ∈ inside.toList := (mem_segmentsText hinside).mpr ⟨_, hown, own, rfl, hc⟩
  split
  · simp [hmem]
  · exact hmem

theorem bracket_mem_of_level (htext : Printer.expr false Level.atom e = .ok text) {own : Level}
    (hlevel : e.level? = some own) (hlow : own < Level.atom) : '(' ∈ text.toList := by
  have hloose : e.isLoose Level.atom = true := by
    simp [Expr.isLoose, hlevel, hlow]
  rw [expr_eq] at htext
  obtain ⟨inside, hinside, htext⟩ := bind_eq_ok.mp htext
  obtain rfl := Except.ok.inj htext
  rw [if_pos hloose]
  simp

/-- Only a name or an attribute is written with letters and dots alone, if it starts like a
phrase. -/
theorem name_or_attribute (htext : Printer.expr false Level.atom e = .ok text)
    (hchars : ∀ c ∈ text.toList, continues c = true)
    (hloud : text.toList.head?.any isLoud = true) :
    (∃ id, e = .name id) ∨ ∃ object field, e = .attribute object field := by
  have hout {c : Char} (hc : continues c = false) : c ∉ text.toList := by
    intro hmem
    rw [hchars c hmem] at hc
    cases hc
  have hquotable (h : e.isQuotable = true) : False := by
    have htext' : segmentsText e.segments = .ok text := by
      rw [expr_eq] at htext
      obtain ⟨inside, hinside, htext⟩ := bind_eq_ok.mp htext
      obtain rfl := Except.ok.inj htext
      cases e with
      | literal | joined => exact hinside
      | _ => cases h
    have hfront := (enclosed_of_isQuotable h htext').front
    cases hhead : text.toList.head? with
    | none => simp [hhead] at hloud
    | some c =>
      rw [hhead, Option.any_some] at hloud hfront
      rw [hloud] at hfront
      cases hfront
  cases e with
  | name id => exact .inl ⟨id, rfl⟩
  | «attribute» object field => exact .inr ⟨object, field, rfl⟩
  | literal | joined => exact (hquotable rfl).elim
  | unary op operand =>
    exact absurd (bracket_mem_of_level htext rfl (by cases op <;> decide)) (hout (by decide))
  | binary op left right =>
    exact absurd (bracket_mem_of_level htext rfl (by cases op <;> decide)) (hout (by decide))
  | boolean op operands =>
    exact absurd (bracket_mem_of_level htext rfl (by cases op <;> decide)) (hout (by decide))
  | compare | conditional | lambda | assigned | await | yield | yieldFrom =>
    exact absurd (bracket_mem_of_level htext rfl (by decide)) (hout (by decide))
  | tuple items =>
    cases items with
    | nil =>
      exact absurd (mem_of_own htext (List.mem_singleton_self _) List.mem_cons_self)
        (hout (by decide))
    | cons item rest =>
      exact absurd (bracket_mem_of_level htext rfl (by decide)) (hout (by decide))
  | call function arguments keywords =>
    exact absurd (mem_of_own htext (List.mem_cons_of_mem _ List.mem_cons_self) List.mem_cons_self)
      (hout (by decide))
  | subscript object index =>
    exact absurd (mem_of_own htext (List.mem_cons_of_mem _ List.mem_cons_self) List.mem_cons_self)
      (hout (by decide))
  | slice lower upper step =>
    have hcolon : .own (.ok ":") ∈ (Expr.slice lower upper step).segments := by
      simp [Expr.segments, Segment.text]
    exact absurd (mem_of_own htext hcolon List.mem_cons_self) (hout (by decide))
  | starred | list | dict | dictComprehension =>
    exact absurd (mem_of_own htext List.mem_cons_self List.mem_cons_self) (hout (by decide))
  | set items =>
    cases items <;>
    exact absurd (mem_of_own htext List.mem_cons_self List.mem_cons_self) (hout (by decide))
  | comprehension into element clauses =>
    cases into <;>
    exact absurd (mem_of_own htext List.mem_cons_self List.mem_cons_self) (hout (by decide))

theorem letters_phrases : ∀ p ∈ phrases, (p.1.toList.dropLast.dropLast).all continues = true ∧
    (p.1.toList.dropLast.dropLast).count '.' = 1 := by
  decide

theorem segmentsText_of_attribute {object : Expr} {field : String}
    (htext : Printer.expr false Level.atom (.attribute object field) = .ok text) :
    segmentsText (Expr.attribute object field).segments = .ok text := by
  rw [expr_eq] at htext
  obtain ⟨inside, hinside, htext⟩ := bind_eq_ok.mp htext
  obtain rfl := Except.ok.inj htext
  exact hinside

/-- A call without arguments whose text is a phrase is a reading of a sensor. -/
theorem isReading_of_text {function : Expr} (hspelled : function.Spelled)
    (htext : Printer.expr false Level.atom function = .ok text) {p : String × String}
    (hp : p ∈ phrases) (hphrase : text ++ "()" = p.1) :
    (Expr.call function [] []).isReading = true := by
  have hletters : text.toList = p.1.toList.dropLast.dropLast := by
    rw [← hphrase, String.toList_append]
    simp
  obtain ⟨hchars, hdots⟩ := letters_phrases p hp
  rw [← hletters, List.all_eq_true] at hchars
  rw [← hletters] at hdots
  have hne : text.toList ≠ [] := by
    intro hnil
    rw [hnil] at hdots
    cases hdots
  have hloud : text.toList.head?.any isLoud = true := by
    have hhead := head_phrases p hp
    rwa [← hphrase, String.toList_append, List.head?_append_of_ne_nil _ hne] at hhead
  rcases name_or_attribute htext hchars hloud with ⟨id, rfl⟩ | ⟨object, field, rfl⟩
  · -- a bare name has no dot
    obtain rfl := Except.ok.inj htext
    have hword := isWord_of_isSpelled (hspelled _ (.refl _)) id List.mem_cons_self
    rw [List.count_eq_zero.mpr (firm_of_isWord hword).2] at hdots
    cases hdots
  · obtain ⟨first, hfirst, hsplit⟩ :=
      segmentsText_attribute_eq_ok (segmentsText_of_attribute htext)
    have hobject : object.Spelled := fun d hd => hspelled d (hd.of_child List.mem_cons_self)
    have hfirm := firm_expr hobject hfirst
    have hfirstChars : ∀ c ∈ first.toList, continues c = true := by
      intro c hc
      exact hchars c (by rw [hsplit]; exact List.mem_append_left _ hc)
    rw [hsplit, List.head?_append_of_ne_nil _ hfirm.filled] at hloud
    rcases name_or_attribute hfirst hfirstChars hloud with ⟨id, rfl⟩ | ⟨inner, other, rfl⟩
    · obtain rfl := Except.ok.inj hfirst
      have hcall : text = id ++ "." ++ field := by
        rw [← String.toList_inj, hsplit]
        simp [Expr.dotGap]
      refine List.any_eq_true.mpr ⟨p, hp, ?_⟩
      rw [← hphrase, hcall, beq_self_eq_true]
    · -- an attribute of an attribute has two dots
      obtain ⟨start, -, hstart⟩ :=
        segmentsText_attribute_eq_ok (segmentsText_of_attribute hfirst)
      have hone : 0 < first.toList.count '.' := List.count_pos_iff.mpr (by simp [hstart])
      have htwo : 0 < ((Expr.attribute inner other).dotGap ++ "." ++ field).toList.count '.' :=
        List.count_pos_iff.mpr (by simp)
      rw [hsplit, List.count_append] at hdots
      omega

end Readings

theorem Hole.within_of_holds {p q : Hole} (h : p.Holds q) : q.expr.Within p.expr := by
  induction h with
  | refl => exact .refl _
  | @tail inner q _ hstep ih =>
    exact Relation.ReflTransGen.trans ih (.single (Expr.mem_children hstep))

/-- Where there are no readings of sensors, a phrase that stands in an expression as a whole is
quoted or stands at the end of something longer. -/
theorem Hole.shows_iff {p : Hole} (hspelled : p.expr.Spelled)
    (hreading : p.expr.isReading = false) :
    (∃ q ∈ phrases, p.expr.Shows q.1.toList) ↔ p.Quotes ∨ p.EndsLike := by
  have hplain (h : p.expr.isQuotable = true) :
      Printer.expr false p.asked p.expr = segmentsText p.expr.segments := by
    obtain ⟨asked, e⟩ := p
    rw [expr_eq]
    cases e with
    | literal | joined => simp [Expr.isLoose, Expr.level?, bind_ok_right]
    | _ => cases h
  constructor
  · rintro ⟨q, hq, ⟨hquotable, text, htext, hin⟩ | ⟨function, text, hcall, htext, before, hend⟩⟩
    · rw [← hplain hquotable] at htext
      exact .inl ⟨hquotable, text, htext, q, hq, occursIn_iff.mpr hin⟩
    · have hphrase : text ++ "()" = String.ofList before ++ q.1 := by
        rw [← String.toList_inj]
        simpa using hend.symm
      refine .inr ⟨function, text, String.ofList before, hcall, htext, fun hnone => ?_, q, hq,
        hphrase⟩
      rw [hnone, String.empty_append] at hphrase
      have hfunction : function.Spelled := by
        intro d hd
        refine hspelled d (hd.of_child ?_)
        rw [hcall]
        exact List.mem_cons_self
      rw [hcall, isReading_of_text hfunction htext hq hphrase] at hreading
      cases hreading
  · rintro (⟨hquotable, text, htext, q, hq, hin⟩ |
      ⟨function, text, before, hcall, htext, -, q, hq, hend⟩)
    · rw [hplain hquotable] at htext
      exact ⟨q, hq, .inl ⟨hquotable, text, htext, occursIn_iff.mp hin⟩⟩
    · refine ⟨q, hq, .inr ⟨function, text, hcall, htext, before.toList, ?_⟩⟩
      rw [← String.toList_append, ← hend, String.toList_append]
      rfl

/-- An expression without readings of sensors is carried over as it is exactly if nothing in it
quotes a phrase or calls something that only ends like a sensor's method. -/
theorem untouched_iff {e : Expr} {text : String} (hspelled : e.Spelled)
    (hreadings : ∀ d : Expr, d.Within e → d.isReading = false) (htext : e.print = .ok text) :
    toHub text = text ↔
      ∀ hole, Hole.Holds ⟨Level.test, e⟩ hole → ¬hole.Quotes ∧ ¬hole.EndsLike := by
  have hshows : (∃ p ∈ phrases, p.1.toList <:+: text.toList) ↔
      ∃ hole, Hole.Holds ⟨Level.test, e⟩ hole ∧ (hole.Quotes ∨ hole.EndsLike) := by
    have hhole {hole : Hole} (h : Hole.Holds ⟨Level.test, e⟩ hole) :
        (∃ p ∈ phrases, hole.expr.Shows p.1.toList) ↔ hole.Quotes ∨ hole.EndsLike := by
      have hwithin := Hole.within_of_holds h
      exact Hole.shows_iff (fun d hd => hspelled d (Relation.ReflTransGen.trans hwithin hd))
        (hreadings _ hwithin)
    constructor
    · rintro ⟨p, hp, hin⟩
      obtain ⟨hole, hholds, hshow⟩ :=
        (infix_expr_iff (isPhrase_of_mem hp) (p := ⟨Level.test, e⟩) hspelled htext).mp hin
      exact ⟨hole, hholds, (hhole hholds).mp ⟨p, hp, hshow⟩⟩
    · rintro ⟨hole, hholds, hcase⟩
      obtain ⟨p, hp, hshow⟩ := (hhole hholds).mpr hcase
      exact ⟨p, hp, (infix_expr_iff (isPhrase_of_mem hp) (p := ⟨Level.test, e⟩) hspelled
        htext).mpr ⟨hole, hholds, hshow⟩⟩
  rw [toHub_eq_self_iff]
  constructor
  · intro hfree hole hholds
    rw [← not_or]
    intro hcase
    obtain ⟨p, hp, hin⟩ := hshows.mpr ⟨hole, hholds, hcase⟩
    exact hfree p hp hin
  · intro hnone p hp hin
    obtain ⟨hole, hholds, hcase⟩ := hshows.mp ⟨p, hp, hin⟩
    exact not_or.mpr (hnone hole hholds) hcase

/-- A text that ends in the middle of a phrase, and a call with arguments of something that ends
like a sensor's method. -/
def nearReading : Expr :=
  .binary .add (.literal (.text "ir_sensor.get_strength" false))
    (.call (.attribute (.attribute (.name "robot") "ir_sensor") "get_strength")
      [.attribute (.name "gyro_sensor") "get_rate"] [])

theorem untouched_nearReading :
    nearReading.Spelled ∧ (∀ d : Expr, d.Within nearReading → d.isReading = false) ∧
      nearReading.print =
        .ok "'ir_sensor.get_strength' + robot.ir_sensor.get_strength(gyro_sensor.get_rate)" ∧
      ∀ hole, Hole.Holds ⟨Level.test, nearReading⟩ hole → ¬hole.Quotes ∧ ¬hole.EndsLike := by
  have hspelled : nearReading.Spelled := by
    have hall : Expr.allWithin Expr.isSpelled 6 nearReading = true := by decide
    exact Expr.forall_within_of_allWithin hall
  have hreadings : ∀ d : Expr, d.Within nearReading → d.isReading = false := by
    have hall : Expr.allWithin (!·.isReading) 6 nearReading = true := by decide
    intro d hd
    simpa using Expr.forall_within_of_allWithin hall d hd
  have htext : nearReading.print =
      .ok "'ir_sensor.get_strength' + robot.ir_sensor.get_strength(gyro_sensor.get_rate)" := by
    decide +kernel
  refine ⟨hspelled, hreadings, htext, (untouched_iff hspelled hreadings htext).mp ?_⟩
  decide +kernel

/-- A sum with a text in it that holds a phrase. -/
def quotedReading : Expr :=
  .binary .add (.name "x") (.literal (.text "ir_sensor.get_strength()" false))

def quotedReadingScript : String := "log(x + 'ir_sensor.get_strength()')\n"

/-- The text is changed although nothing is read. -/
theorem quoted_changed_quotedReading :
    quotedReading.Spelled ∧ (∀ d : Expr, d.Within quotedReading → d.isReading = false) ∧
      quotedReading.print = .ok "x + 'ir_sensor.get_strength()'" ∧
      toHub "x + 'ir_sensor.get_strength()'" = "x + 'color_sensor.rgbi(IR_SEEKER_PORT)[2]'" ∧
      ∃ instrs program, answerGenerate quotedReadingScript = .accepted instrs program ∧
        ∃ opening body,
          Composed .standard instrs quotedReadingScript program opening body ∧
          codeTexts body = ["await log(x + 'color_sensor.rgbi(IR_SEEKER_PORT)[2]')"] := by
  have hspelled : Expr.allWithin Expr.isSpelled 3 quotedReading = true := by decide
  have hreadings : Expr.allWithin (!·.isReading) 3 quotedReading = true := by decide
  refine ⟨Expr.forall_within_of_allWithin hspelled, fun d hd => ?_, by decide +kernel,
    by decide +kernel, codeTexts_of_any (by decide +kernel)⟩
  simpa using Expr.forall_within_of_allWithin hreadings d hd

end HubScript
