import HubScript.Proofs.AssignedValues
import HubScript.Proofs.SensorTranslation
import HubScript.Proofs.Subexpressions
import Mathlib.Data.List.Chain

/-!
# The seams between segments

The text of an expression is put together from segments, and a phrase could run from one segment
into the next. Which characters can follow one another in a phrase tells where it cannot: almost all
segments of expressions meet in a blank, a comma or a bracket that no phrase goes over. Where they
do not, in calls, attributes and functions without a name, the seams are looked at one by one.
-/
namespace HubScript

open Hub

/-! ### Phrases and the ends of texts -/

/-- Whether one character can follow another in a phrase. -/
def runsOn (c d : Char) : Bool :=
  Numeral.isWordPart c && (continues d || d == '(') || c == '.' && Numeral.isWordPart d ||
    c == '(' && d == ')'

theorem runsOn_phrases : ∀ p ∈ phrases, p.1.toList.IsChain fun c d => runsOn c d = true := by
  decide

theorem runsOn_open {d : Char} (h : d ≠ ')') : runsOn '(' d = false := by
  have hword : Numeral.isWordPart '(' = false := by decide
  simp [runsOn, hword, h]

theorem runsOn_close {c : Char} (h : c ≠ '(') : runsOn c ')' = false := by
  have hword : Numeral.isWordPart ')' = false := by decide
  simp [runsOn, continues, hword, h]

theorem suffix_phrases : ∀ p ∈ phrases, ['(', ')'] <:+ p.1.toList := by decide

/-- Neither a bracket that closes at the front of a text nor one that opens at its end. -/
structure Firm (cs : List Char) : Prop where
  filled : cs ≠ []
  front : cs.head? ≠ some ')'
  back : cs.getLast? ≠ some '('

instance (cs : List Char) : Decidable (Firm cs) :=
  decidable_of_iff (cs ≠ [] ∧ cs.head? ≠ some ')' ∧ cs.getLast? ≠ some '(')
    ⟨fun h => ⟨h.1, h.2.1, h.2.2⟩, fun h => ⟨h.filled, h.front, h.back⟩⟩

section Words

variable {word a b : List Char}

/-- A word stands in one of two texts if it cannot run from the one into the other. -/
theorem infix_append_iff_of_apart (hword : word.IsChain fun c d => runsOn c d = true)
    (hends : ∀ c ∈ a.getLast?, ∀ d ∈ b.head?, runsOn c d = false) :
    word <:+: a ++ b ↔ word <:+: a ∨ word <:+: b := by
  constructor
  · intro h
    rcases List.infix_append_iff.mp h with h | h | ⟨front, back, rfl, hfront, hback⟩
    · exact .inl h
    · exact .inr h
    · rcases List.eq_nil_or_concat front with rfl | ⟨before, c, rfl⟩
      · exact .inr hback.isInfix
      · cases back with
        | nil =>
          rw [List.append_nil]
          exact .inl hfront.isInfix
        | cons d after =>
          -- the two characters at the boundary would follow one another in the word
          obtain ⟨more, rfl⟩ := hfront
          obtain ⟨others, rfl⟩ := hback
          have hruns := (List.isChain_append.mp hword).2.2 c (by simp) d (by simp)
          have hnot := hends c (by simp) d (by simp)
          rw [hruns] at hnot
          cases hnot
  · rintro (h | h)
    · exact h.trans (List.prefix_append a b).isInfix
    · exact h.trans (List.suffix_append a b).isInfix

/-- A phrase in front of a text without closing brackets does not run into it. -/
theorem infix_append_iff_of_unclosed (hword : ['(', ')'] <:+ word) (hb : ')' ∉ b) :
    word <:+: a ++ b ↔ word <:+: a := by
  obtain ⟨name, rfl⟩ := hword
  constructor
  · rintro ⟨front, back, h⟩
    -- the phrase ends with a bracket, which is not in the second text
    have hsplit : front ++ (name ++ ['(']) ++ ')' :: back = a ++ b := by
      rw [← h]
      simp
    obtain ⟨rest, hrest⟩ : front ++ (name ++ ['(', ')']) <+: a := by
      rcases List.append_eq_append_iff.mp hsplit with ⟨c, hc, hd⟩ | ⟨c, hc, hd⟩
      · cases c with
        | nil =>
          rw [List.nil_append] at hd
          rw [← hd] at hb
          exact absurd List.mem_cons_self hb
        | cons d c =>
          obtain ⟨rfl, hback⟩ := List.cons.inj hd
          exact ⟨c, by simp [hc]⟩
      · rw [hd] at hb
        simp at hb
    exact ⟨front, rest, hrest⟩
  · exact fun h => h.trans (List.prefix_append a b).isInfix

end Words

/-! ### Segments that do not run on into each other -/

namespace Segment

/-- The characters with which a segment can start. -/
def MayStart : Segment → Char → Prop
  | .own (.ok text), c => text.toList.head? = some c
  | .own (.error _), _ => False
  | .hole _, c => c ≠ ')'

/-- The characters with which a segment can end. -/
def MayEnd : Segment → Char → Prop
  | .own (.ok text), c => text.toList.getLast? = some c
  | .own (.error _), _ => False
  | .hole _, c => c ≠ '('

/-- No phrase can run from one segment into another. -/
def Apart (s t : Segment) : Prop := ∀ c d, s.MayEnd c → t.MayStart d → runsOn c d = false

/-- A text of its own that is not empty and has no dot, as phrases have. -/
def Plain : Segment → Prop
  | .own (.ok text) => text.toList ≠ [] ∧ '.' ∉ text.toList
  | .own (.error _) => False
  | .hole _ => True

end Segment

/-- Segments that do not run on into each other, or into brackets around them. -/
structure Sound (segments : List Segment) : Prop where
  filled : segments ≠ []
  chain : segments.IsChain Segment.Apart
  front : ∀ s ∈ segments.head?, ¬s.MayStart ')'
  back : ∀ s ∈ segments.getLast?, ¬s.MayEnd '('
  plain : ∀ s ∈ segments, s.Plain

/-- Whether a character is in no phrase. -/
def isOuter (c : Char) : Bool := !continues c && c != '(' && c != ')'

/-- Whether a text has characters at both ends that are in no phrase. -/
def isWall (text : String) : Bool :=
  text.toList.head?.any isOuter && text.toList.getLast?.any isOuter && !text.toList.contains '.'

section Sound

variable {a b : List Segment} {w : String}

theorem sound_fill (asked : Level) (e : Expr) : Sound [.fill asked e] where
  filled := List.cons_ne_nil _ _
  chain := .singleton _
  front s hs := by
    obtain rfl := Option.some.inj hs
    exact fun h => h rfl
  back s hs := by
    obtain rfl := Option.some.inj hs
    exact fun h => h rfl
  plain s hs := by
    obtain rfl := List.mem_singleton.mp hs
    trivial

theorem sound_text (hfirm : Firm w.toList) (hdot : '.' ∉ w.toList) :
    Sound [.text w] where
  filled := List.cons_ne_nil _ _
  chain := .singleton _
  front s hs := by
    obtain rfl := Option.some.inj hs
    exact hfirm.front
  back s hs := by
    obtain rfl := Option.some.inj hs
    exact hfirm.back
  plain s hs := by
    obtain rfl := List.mem_singleton.mp hs
    exact ⟨hfirm.filled, hdot⟩

theorem Sound.append (ha : Sound a) (hb : Sound b)
    (hends : ∀ s ∈ a.getLast?, ∀ t ∈ b.head?, s.Apart t) : Sound (a ++ b) where
  filled := by simp [ha.filled]
  chain := List.isChain_append.mpr ⟨ha.chain, hb.chain, hends⟩
  front s hs := by
    rw [List.head?_append_of_ne_nil _ ha.filled] at hs
    exact ha.front s hs
  back s hs := by
    rw [List.getLast?_append_of_ne_nil _ hb.filled] at hs
    exact hb.back s hs
  plain s hs := by
    rcases List.mem_append.mp hs with hs | hs
    · exact ha.plain s hs
    · exact hb.plain s hs

theorem runsOn_of_outer {c d : Char} (h : isOuter c = true ∨ isOuter d = true) :
    runsOn c d = false := by
  simp only [isOuter, continues, Bool.and_eq_true, Bool.not_eq_true', Bool.or_eq_false_iff,
    bne_iff_ne, beq_eq_false_iff_ne] at h
  rcases h with ⟨⟨⟨hc, hdot⟩, hopen⟩, hclose⟩ | ⟨⟨⟨hd, hdot⟩, hopen⟩, hclose⟩
  · simp [runsOn, hc, hdot, hopen]
  · simp [runsOn, continues, hd, hdot, hopen, hclose]

theorem apart_before (h : w.toList.head?.any isOuter = true) (s : Segment) :
    s.Apart (.text w) := by
  obtain ⟨c, hc, houter⟩ := (Option.any_eq_true _ _).mp h
  intro x y _ hy
  obtain rfl := Option.some.inj (hc.symm.trans hy)
  exact runsOn_of_outer (.inr houter)

theorem apart_behind (h : w.toList.getLast?.any isOuter = true) (s : Segment) :
    (Segment.text w).Apart s := by
  obtain ⟨c, hc, houter⟩ := (Option.any_eq_true _ _).mp h
  intro x y hx _
  obtain rfl := Option.some.inj (hc.symm.trans hx)
  exact runsOn_of_outer (.inl houter)

theorem isWall_iff : isWall w = true ↔ w.toList.head?.any isOuter = true ∧
    w.toList.getLast?.any isOuter = true ∧ '.' ∉ w.toList := by
  simp [isWall, and_assoc]

theorem Sound.cons_text (hb : Sound b) (hfirm : Firm w.toList) (hdot : '.' ∉ w.toList)
    (hback : w.toList.getLast?.any isOuter = true) : Sound (.text w :: b) :=
  (sound_text hfirm hdot).append hb fun s hs t _ => by
    obtain rfl := Option.some.inj hs
    exact apart_behind hback t

theorem firm_of_isWall (h : isWall w = true) : Firm w.toList := by
  obtain ⟨hfront, hback, -⟩ := isWall_iff.mp h
  refine ⟨?_, ?_, ?_⟩
  · intro hnil
    rw [hnil] at hfront
    cases hfront
  · intro hclose
    rw [hclose] at hfront
    exact absurd hfront (by decide)
  · intro hopen
    rw [hopen] at hback
    exact absurd hback (by decide)

theorem sound_wall (h : isWall w = true) : Sound [.text w] :=
  sound_text (firm_of_isWall h) (isWall_iff.mp h).2.2

theorem Sound.cons_wall (hb : Sound b) (h : isWall w = true) : Sound (.text w :: b) :=
  hb.cons_text (firm_of_isWall h) (isWall_iff.mp h).2.2 (isWall_iff.mp h).2.1

theorem Sound.append_before (ha : Sound a) (hb : Sound b)
    (hfront : ∀ t ∈ b.head?, ∀ s : Segment, s.Apart t) : Sound (a ++ b) :=
  ha.append hb fun s _ t ht => hfront t ht s

/-- Nothing runs into segments that start with a wall. -/
theorem apart_cons_wall (h : isWall w = true) :
    ∀ t ∈ (Segment.text w :: b).head?, ∀ s : Segment, s.Apart t := by
  intro t ht s
  obtain rfl := Option.some.inj ht
  exact apart_before (isWall_iff.mp h).1 s

theorem Sound.append_wall (ha : Sound a) (hb : Sound b) (h : isWall w = true) :
    Sound (a ++ .text w :: b) :=
  ha.append_before (hb.cons_wall h) (apart_cons_wall h)

theorem Sound.concat_wall (ha : Sound a) (h : isWall w = true) : Sound (a ++ [.text w]) :=
  ha.append_before (sound_wall h) (apart_cons_wall h)

/-- Parts that nothing runs into can follow one another. -/
theorem Sound.append_flatMap {α : Type} {f : α → List Segment} (ha : Sound a)
    (hf : ∀ x, Sound (f x) ∧ ∀ t ∈ (f x).head?, ∀ s : Segment, s.Apart t) (items : List α) :
    Sound (a ++ items.flatMap f) := by
  induction items generalizing a with
  | nil => simpa using ha
  | cons x rest ih =>
    rw [List.flatMap_cons, ← List.append_assoc]
    exact ih (ha.append_before (hf x).1 (hf x).2)

/-- Brackets around segments do not run into them. -/
theorem Sound.bracketed (hb : Sound b) : Sound (.text "(" :: b ++ [.text ")"]) where
  filled := by simp
  chain := by
    have hopen : ∀ s ∈ b.head?, (Segment.text "(").Apart s := by
      intro s hs c d hc hd
      obtain rfl : '(' = c := Option.some.inj hc
      exact runsOn_open fun heq => hb.front s hs (heq ▸ hd)
    have hclose : ∀ s ∈ b.getLast?, s.Apart (.text ")") := by
      intro s hs c d hc hd
      obtain rfl : ')' = d := Option.some.inj hd
      exact runsOn_close fun heq => hb.back s hs (heq ▸ hc)
    rw [List.cons_append, List.isChain_cons]
    refine ⟨?_, List.isChain_append.mpr ⟨hb.chain, .singleton _, ?_⟩⟩
    · rw [List.head?_append_of_ne_nil _ hb.filled]
      exact hopen
    · intro s hs t ht
      obtain rfl := Option.some.inj ht
      exact hclose s hs
  front s hs := by
    obtain rfl := Option.some.inj hs
    exact fun h => absurd (Option.some.inj h) (by decide)
  back s hs := by
    rw [List.getLast?_concat] at hs
    obtain rfl := Option.some.inj hs
    exact fun h => absurd (Option.some.inj h) (by decide)
  plain s hs := by
    simp only [List.cons_append, List.mem_cons, List.mem_append, List.not_mem_nil, or_false] at hs
    rcases hs with rfl | hs | rfl
    · exact ⟨by decide, by decide⟩
    · exact hb.plain s hs
    · exact ⟨by decide, by decide⟩

theorem sound_between {separator : String} (h : isWall separator = true)
    {groups : List (List Segment)} (hne : groups ≠ []) (hgroups : ∀ group ∈ groups, Sound group) :
    Sound (Segment.between separator groups) := by
  induction groups with
  | nil => exact absurd rfl hne
  | cons group rest ih =>
    have hgroup := hgroups group List.mem_cons_self
    cases rest with
    | nil => simpa [Segment.between, List.intercalate] using hgroup
    | cons next rest =>
      have hrest := ih (List.cons_ne_nil _ _) fun g hg => hgroups g (List.mem_cons_of_mem _ hg)
      rw [Segment.between, List.intercalate_cons_cons, List.append_assoc]
      exact hgroup.append_wall hrest h

end Sound

section Texts

/-- What is written in the holes of segments is firm. -/
def FirmHoles (segments : List Segment) : Prop :=
  ∀ q : Hole, .hole q ∈ segments → ∀ part, Printer.expr false q.asked q.expr = .ok part →
    Firm part.toList

variable {segments : List Segment} {text : String} {word : List Char}

/-- A written segment is not empty and has the ends that the segment can have. -/
theorem Segment.ends_of_write {s : Segment} {part : String} (hplain : s.Plain)
    (hholes : FirmHoles [s]) (h : s.write = .ok part) :
    part.toList ≠ [] ∧ (∀ c, part.toList.head? = some c → s.MayStart c) ∧
      ∀ c, part.toList.getLast? = some c → s.MayEnd c := by
  cases s with
  | own output =>
    obtain rfl : output = .ok part := h
    exact ⟨hplain.1, fun _ hc => hc, fun _ hc => hc⟩
  | hole q =>
    have hfirm : Firm part.toList := hholes q List.mem_cons_self part h
    exact ⟨hfirm.filled, fun c hc heq => hfirm.front (heq ▸ hc),
      fun c hc heq => hfirm.back (heq ▸ hc)⟩

theorem FirmHoles.of_mem (h : FirmHoles segments) {s : Segment} (hs : s ∈ segments) :
    FirmHoles [s] := by
  intro q hq
  obtain rfl := List.mem_singleton.mp hq
  exact h q hs

theorem segmentsText_cons_eq_ok {s : Segment} (h : segmentsText (s :: segments) = .ok text) :
    ∃ part rest, s.write = .ok part ∧ segmentsText segments = .ok rest ∧
      text.toList = part.toList ++ rest.toList := by
  rw [segmentsText_cons] at h
  obtain ⟨part, hpart, h⟩ := bind_eq_ok.mp h
  obtain ⟨rest, hrest, h⟩ := bind_eq_ok.mp h
  obtain rfl := Except.ok.inj h
  exact ⟨part, rest, hpart, hrest, String.toList_append⟩

theorem head?_segmentsText (h : segmentsText segments = .ok text)
    (hplain : ∀ s ∈ segments, s.Plain) (hholes : FirmHoles segments) {c : Char}
    (hc : text.toList.head? = some c) : ∃ s ∈ segments.head?, s.MayStart c := by
  cases segments with
  | nil =>
    obtain rfl := Except.ok.inj h
    cases hc
  | cons s rest =>
    obtain ⟨part, others, hpart, -, htext⟩ := segmentsText_cons_eq_ok h
    obtain ⟨hne, hstart, -⟩ := Segment.ends_of_write (hplain s List.mem_cons_self)
      (hholes.of_mem List.mem_cons_self) hpart
    rw [htext, List.head?_append_of_ne_nil _ hne] at hc
    exact ⟨s, rfl, hstart c hc⟩

theorem getLast?_segmentsText (h : segmentsText segments = .ok text)
    (hplain : ∀ s ∈ segments, s.Plain) (hholes : FirmHoles segments) {c : Char}
    (hc : text.toList.getLast? = some c) : ∃ s ∈ segments.getLast?, s.MayEnd c := by
  induction segments generalizing text with
  | nil =>
    obtain rfl := Except.ok.inj h
    cases hc
  | cons s rest ih =>
    obtain ⟨part, others, hpart, hothers, htext⟩ := segmentsText_cons_eq_ok h
    rw [htext] at hc
    cases rest with
    | nil =>
      obtain rfl := Except.ok.inj hothers
      obtain ⟨-, -, hend⟩ := Segment.ends_of_write (hplain s List.mem_cons_self)
        (hholes.of_mem List.mem_cons_self) hpart
      refine ⟨s, rfl, hend c ?_⟩
      simpa using hc
    | cons next rest =>
      have hplain' : ∀ t ∈ next :: rest, t.Plain := fun t ht => hplain t (List.mem_cons_of_mem s ht)
      have hholes' : FirmHoles (next :: rest) := fun q hq => hholes q (List.mem_cons_of_mem s hq)
      have hne : others.toList ≠ [] := by
        obtain ⟨first, after, hfirst, -, hsplit⟩ := segmentsText_cons_eq_ok hothers
        have hfilled := (Segment.ends_of_write (hplain' next List.mem_cons_self)
          (hholes'.of_mem List.mem_cons_self) hfirst).1
        simp [hsplit, hfilled]
      rw [List.getLast?_append_of_ne_nil _ hne] at hc
      rw [List.getLast?_cons_cons]
      exact ih hothers hplain' hholes' hc

/-- The text of sound segments is firm. -/
theorem Sound.firm (hs : Sound segments) (hholes : FirmHoles segments)
    (h : segmentsText segments = .ok text) : Firm text.toList where
  filled := by
    obtain ⟨s, rest, rfl⟩ := List.exists_cons_of_ne_nil hs.filled
    obtain ⟨part, others, hpart, -, htext⟩ := segmentsText_cons_eq_ok h
    have hfilled := (Segment.ends_of_write (hs.plain s List.mem_cons_self)
      (hholes.of_mem List.mem_cons_self) hpart).1
    simp [htext, hfilled]
  front hfront := by
    obtain ⟨s, hs', hstart⟩ := head?_segmentsText h hs.plain hholes hfront
    exact hs.front s hs' hstart
  back hback := by
    obtain ⟨s, hs', hend⟩ := getLast?_segmentsText h hs.plain hholes hback
    exact hs.back s hs' hend

/-- A word stands in what is written in one of the holes of segments. -/
def Passes (word : List Char) (segments : List Segment) : Prop :=
  ∃ (q : Hole) (part : String), .hole q ∈ segments ∧
    Printer.expr false q.asked q.expr = .ok part ∧ word <:+: part.toList

@[simp] theorem passes_nil : ¬Passes word [] := by
  simp [Passes]

@[simp] theorem passes_own (output : Printer.Output) :
    Passes word (.own output :: segments) ↔ Passes word segments := by
  simp [Passes]

@[simp] theorem passes_text (text : String) :
    Passes word (.text text :: segments) ↔ Passes word segments :=
  passes_own (.ok text)

theorem passes_hole {q : Hole} {part : String}
    (h : Printer.expr false q.asked q.expr = .ok part) :
    Passes word (.hole q :: segments) ↔ word <:+: part.toList ∨ Passes word segments := by
  constructor
  · rintro ⟨q', part', hmem, hq', hin⟩
    rcases List.mem_cons.mp hmem with heq | hmem
    · obtain rfl := Segment.hole.inj heq
      obtain rfl := Except.ok.inj (h.symm.trans hq')
      exact .inl hin
    · exact .inr ⟨q', part', hmem, hq', hin⟩
  · rintro (hin | ⟨q', part', hmem, hrest⟩)
    · exact ⟨q, part, List.mem_cons_self, h, hin⟩
    · exact ⟨q', part', List.mem_cons_of_mem _ hmem, hrest⟩

@[simp] theorem passes_append {others : List Segment} :
    Passes word (segments ++ others) ↔ Passes word segments ∨ Passes word others := by
  simp only [Passes, List.mem_append, or_and_right, exists_or]

/-- A phrase in the text of segments that do not run on into each other stands in a hole. -/
theorem infix_segmentsText_iff (hword : word.IsChain fun c d => runsOn c d = true)
    (hdot : '.' ∈ word) (hchain : segments.IsChain Segment.Apart)
    (hplain : ∀ s ∈ segments, s.Plain) (hholes : FirmHoles segments)
    (h : segmentsText segments = .ok text) : word <:+: text.toList ↔ Passes word segments := by
  induction segments generalizing text with
  | nil =>
    rw [segmentsText_nil] at h
    obtain rfl := Except.ok.inj h
    have hfree : ¬word <:+: [] := fun hin => absurd (hin.subset hdot) List.not_mem_nil
    simpa using hfree
  | cons s rest ih =>
    obtain ⟨part, others, hpart, hothers, htext⟩ := segmentsText_cons_eq_ok h
    have hplain' : ∀ t ∈ rest, t.Plain := fun t ht => hplain t (List.mem_cons_of_mem s ht)
    have hholes' : FirmHoles rest := fun q hq => hholes q (List.mem_cons_of_mem s hq)
    obtain ⟨-, -, hend⟩ := Segment.ends_of_write (hplain s List.mem_cons_self)
      (hholes.of_mem List.mem_cons_self) hpart
    have hends : ∀ c ∈ part.toList.getLast?, ∀ d ∈ others.toList.head?, runsOn c d = false := by
      intro c hc d hd
      obtain ⟨t, ht, hstart⟩ := head?_segmentsText hothers hplain' hholes' hd
      exact (List.isChain_cons.mp hchain).1 t ht c d (hend c hc) hstart
    rw [htext, infix_append_iff_of_apart hword hends,
      ih (List.isChain_cons.mp hchain).2 hplain' hholes' hothers]
    cases s with
    | own output =>
      obtain rfl : output = .ok part := hpart
      have hfree : ¬word <:+: part.toList := by
        intro hin
        exact (hplain _ List.mem_cons_self).2 (hin.subset hdot)
      rw [passes_own, or_iff_right hfree]
    | hole q => rw [passes_hole hpart]

end Texts

/-! ### The segments of expressions -/

def Params.names : Params → List String
  | .mk positionalOnly plain rest named mapping =>
    (positionalOnly ++ plain ++ rest.toList ++ named ++ mapping.toList).map Param.name

namespace Expr

/-- The names that an expression is written with, those in its parts apart. -/
def ownNames : Expr → List String
  | .name id => [id]
  | .lambda params _ => params.names
  | .call _ _ keywords => keywords.filterMap Keyword.name
  | .attribute _ field => [field]
  | _ => []

def hasOperands : Expr → Bool
  | .boolean _ operands => !operands.isEmpty
  | _ => true

/-- Whether the names of an expression are words and its operator has operands. -/
def isSpelled (e : Expr) : Bool := e.ownNames.all isWord && e.hasOperands

/-- Names are words and operators have operands, in an expression and in all that it is made of. -/
def Spelled (e : Expr) : Prop := ∀ d : Expr, d.Within e → d.isSpelled = true

/-- Whether an expression is a text as a whole: a constant or a text with fields. -/
def isQuotable : Expr → Bool
  | .literal _ => true
  | .joined _ => true
  | _ => false

/-- Whether an expression has parts that are written right behind one another. -/
def isTight : Expr → Bool
  | .lambda _ _ => true
  | .call _ _ _ => true
  | .attribute _ _ => true
  | _ => false

end Expr

section Parts

variable {text : String}

theorem Firm.append_back {a b : List Char} (ha : Firm a) (hb : b.getLast? ≠ some '(') :
    Firm (a ++ b) where
  filled := by simp [ha.filled]
  front := by
    rw [List.head?_append_of_ne_nil _ ha.filled]
    exact ha.front
  back := by
    by_cases hne : b = []
    · rw [hne, List.append_nil]
      exact ha.back
    · rw [List.getLast?_append_of_ne_nil _ hne]
      exact hb

theorem Firm.append {a b : List Char} (ha : Firm a) (hb : Firm b) : Firm (a ++ b) :=
  ha.append_back hb.back

theorem firm_of_isWord (h : isWord text = true) : Firm text.toList ∧ '.' ∉ text.toList := by
  simp only [isWord, Bool.and_eq_true, List.all_eq_true] at h
  obtain ⟨hne, hparts⟩ := h
  have hout {c : Char} (hc : Numeral.isWordPart c = false) : c ∉ text.toList := by
    intro hmem
    rw [hparts c hmem] at hc
    cases hc
  refine ⟨⟨by simpa using hne, fun hfront => ?_, fun hback => ?_⟩, hout (by decide)⟩
  · exact hout (by decide) (List.mem_of_head? hfront)
  · exact hout (by decide) (List.mem_of_getLast? hback)

theorem sound_word (h : isWord text = true) : Sound [.text text] :=
  sound_text (firm_of_isWord h).1 (firm_of_isWord h).2

theorem sound_item {items : List Expr} {group : List Segment} (h : group ∈ itemGroups items) :
    Sound group := by
  obtain ⟨e, -, rfl⟩ := List.mem_map.mp h
  exact sound_fill _ e

theorem sound_rising (level : Level) (items : List Expr) :
    ∀ group ∈ risingGroups level items, Sound group := by
  induction items generalizing level with
  | nil => simp [risingGroups]
  | cons e rest ih => exact List.forall_mem_cons.mpr ⟨sound_fill _ e, ih level.next⟩

theorem Link.sound_segments : ∀ link : Link, Sound link.segments ∧
    ∀ t ∈ link.segments.head?, ∀ s : Segment, s.Apart t
  | .mk op operand => by
    have hwall : isWall (" " ++ op.text ++ " ") = true := by cases op <;> decide
    exact ⟨(sound_fill _ operand).cons_wall hwall, apart_cons_wall hwall⟩

theorem Keyword.sound_segments {keyword : Keyword} (h : ∀ id ∈ keyword.name, isWord id = true) :
    Sound keyword.segments := by
  obtain ⟨name, value⟩ := keyword
  cases name with
  | none => exact (sound_fill _ value).cons_wall (by decide)
  | some name =>
    obtain ⟨hfirm, hdot⟩ := firm_of_isWord (h name rfl)
    refine (sound_fill _ value).cons_text ?_ ?_ ?_
    · rw [String.toList_append]
      exact hfirm.append (by decide)
    · simpa using hdot
    · rw [String.toList_append, List.getLast?_append_of_ne_nil _ (by decide)]
      decide

theorem Entry.sound_segments : ∀ entry : Entry, Sound entry.segments
  | .mk (some key) value => (sound_fill _ key).append_wall (sound_fill _ value) (by decide)
  | .mk none value => (sound_fill _ value).cons_wall (by decide)

theorem guard_sound_segments (e : Expr) : Sound (guardSegments e) ∧
    ∀ t ∈ (guardSegments e).head?, ∀ s : Segment, s.Apart t :=
  ⟨(sound_fill _ e).cons_wall (by decide), apart_cons_wall (by decide)⟩

theorem Clause.sound_segments : ∀ clause : Clause, Sound clause.segments ∧
    ∀ t ∈ clause.segments.head?, ∀ s : Segment, s.Apart t
  | .mk isAsync target source conditions => by
    have hwall : isWall (if isAsync then " async for " else " for ") = true := by
      cases isAsync <;> decide
    have hbefore := (sound_fill Level.tuple target).append_wall
      (sound_fill Level.test.next source) (w := " in ") (by decide)
    exact ⟨(hbefore.cons_wall hwall).append_flatMap guard_sound_segments conditions,
      apart_cons_wall hwall⟩

theorem Sound.append_optional {a : List Segment} {w : String} (ha : Sound a)
    (hwall : isWall w = true) (e : Option Expr) :
    Sound (a ++ Segment.optional [.text w] e) := by
  cases e with
  | none => simpa [Segment.optional] using ha
  | some e => exact ha.append_wall (sound_fill _ e) hwall

theorem Param.sound_segments {p : Param} (h : isWord p.name = true) : Sound p.segments := by
  obtain ⟨name, hint, default⟩ := p
  have hhint := (sound_word h).append_optional (w := ": ") (by decide) hint
  have hall := hhint.append_optional (w := "=") (by decide) default
  simpa [Param.segments, Param.name] using hall

theorem Params.sound_groups {params : Params} (h : ∀ id ∈ params.names, isWord id = true) :
    ∀ group ∈ params.groups, Sound group := by
  obtain ⟨positionalOnly, plain, rest, named, mapping⟩ := params
  simp only [Params.names, List.mem_map, List.mem_append, forall_exists_index, and_imp,
    forall_apply_eq_imp_iff₂] at h
  have hgroup {ps : List Param} (hps : ∀ p ∈ ps, isWord p.name = true) :
      ∀ group ∈ ps.map Param.segments, Sound group := by
    intro group hmem
    obtain ⟨p, hp, rfl⟩ := List.mem_map.mp hmem
    exact Param.sound_segments (hps p hp)
  intro group hmem
  simp only [Params.groups, List.mem_append] at hmem
  rcases hmem with (((hmem | hmem) | hmem) | hmem) | hmem
  · split at hmem
    · cases hmem
    · rcases List.mem_append.mp hmem with hmem | hmem
      · exact hgroup (fun p hp => h p (by simp [hp])) group hmem
      · obtain rfl := List.mem_singleton.mp hmem
        exact sound_wall (by decide)
  · exact hgroup (fun p hp => h p (by simp [hp])) group hmem
  · cases rest with
    | some p =>
      obtain rfl := List.mem_singleton.mp hmem
      exact (Param.sound_segments (h p (by simp))).cons_wall (by decide)
    | none =>
      simp only [starGroups] at hmem
      split at hmem
      · cases hmem
      · obtain rfl := List.mem_singleton.mp hmem
        exact sound_wall (by decide)
  · exact hgroup (fun p hp => h p (by simp [hp])) group hmem
  · cases mapping with
    | some p =>
      obtain rfl := List.mem_singleton.mp hmem
      exact (Param.sound_segments (h p (by simp))).cons_wall (by decide)
    | none => cases hmem

theorem sound_commas {groups : List (List Segment)} (hne : groups ≠ [])
    (hgroups : ∀ group ∈ groups, Sound group) : Sound (Segment.commas groups) :=
  sound_between (by decide) hne hgroups

/-- A list of parts between two walls, which may be empty. -/
theorem sound_listed {first last : String} (hfirst : isWall first = true)
    (hlast : isWall last = true) {groups : List (List Segment)}
    (hgroups : ∀ group ∈ groups, Sound group) :
    Sound (.text first :: Segment.commas groups ++ [.text last]) := by
  by_cases hne : groups = []
  · subst hne
    exact (sound_wall hlast).cons_wall hfirst
  · exact ((sound_commas hne hgroups).cons_wall hfirst).concat_wall hlast

/-- The segments of most expressions do not run on into each other. -/
theorem Expr.sound_segments {e : Expr} (h : e.isSpelled = true) (hquotable : e.isQuotable = false)
    (htight : e.isTight = false) : Sound e.segments := by
  cases e with
  | name id => exact sound_word (by simpa [isSpelled, ownNames, hasOperands] using h)
  | literal | joined => cases hquotable
  | lambda | call | «attribute» => cases htight
  | unary op operand =>
    exact (sound_fill _ operand).cons_text (by cases op <;> decide) (by cases op <;> decide)
      (by cases op <;> decide)
  | binary op left right =>
    exact (sound_fill _ left).append_wall (sound_fill _ right) (by cases op <;> decide)
  | boolean op operands =>
    refine sound_between (by cases op <;> decide) ?_ (sound_rising op.level operands)
    cases operands with
    | nil => cases h
    | cons e rest => exact List.cons_ne_nil _ _
  | compare first links => exact (sound_fill _ first).append_flatMap Link.sound_segments links
  | conditional test body orelse =>
    have hlater := (sound_fill Level.test.next test).append_wall (sound_fill Level.test orelse)
      (w := " else ") (by decide)
    exact (sound_fill Level.test.next body).append_wall hlater (w := " if ") (by decide)
  | subscript object index =>
    have hindex := (sound_fill (Printer.indexLevel index) index).concat_wall (w := "]")
      (by decide)
    exact (sound_fill _ object).append_wall hindex (by decide)
  | slice lower upper step =>
    have hupper : Sound (.text ":" :: Segment.optional [] upper) := by
      cases upper with
      | none => exact sound_wall (by decide)
      | some upper => exact (sound_fill _ upper).cons_wall (by decide)
    have hstep := hupper.append_optional (w := ":") (by decide) step
    cases lower with
    | none => simpa [segments, Segment.optional] using hstep
    | some lower =>
      have hall := (sound_fill Level.test lower).append_before hstep
        (apart_cons_wall (by decide))
      simpa [segments, Segment.optional] using hall
  | starred value => exact (sound_fill _ value).cons_wall (by decide)
  | list items => exact sound_listed (by decide) (by decide) fun _ => sound_item
  | tuple items =>
    cases items with
    | nil => exact sound_text (by decide) (by decide)
    | cons item rest =>
      cases rest with
      | nil => exact (sound_fill _ item).concat_wall (by decide)
      | cons next rest => exact sound_commas (List.cons_ne_nil _ _) fun _ => sound_item
  | set items =>
    cases items with
    | nil => exact sound_wall (by decide)
    | cons item rest => exact sound_listed (by decide) (by decide) fun _ => sound_item
  | dict entries =>
    refine sound_listed (by decide) (by decide) fun group hgroup => ?_
    obtain ⟨entry, -, rfl⟩ := List.mem_map.mp hgroup
    exact entry.sound_segments
  | comprehension into element clauses =>
    have hinside := (sound_fill Level.test element).append_flatMap Clause.sound_segments clauses
    cases into with
    | list => exact (hinside.cons_wall (w := "[") (by decide)).concat_wall (by decide)
    | set => exact (hinside.cons_wall (w := "\x7b") (by decide)).concat_wall (by decide)
    | generator => exact hinside.bracketed
  | dictComprehension key value clauses =>
    have hpair := (sound_fill Level.test key).append_wall (sound_fill Level.test value)
      (w := ": ") (by decide)
    have hinside := (hpair.cons_wall (w := "\x7b") (by decide)).append_flatMap
      Clause.sound_segments clauses
    exact hinside.concat_wall (by decide)
  | assigned target value =>
    exact (sound_fill _ target).append_wall (sound_fill _ value) (by decide)
  | await value =>
    exact (sound_fill _ value).cons_text (by decide) (by decide) (by decide)
  | yield value =>
    cases value with
    | none => exact sound_text (by decide) (by decide)
    | some value => exact (sound_fill _ value).cons_text (by decide) (by decide) (by decide)
  | yieldFrom value =>
    exact (sound_fill _ value).cons_text (by decide) (by decide) (by decide)

end Parts

end HubScript
