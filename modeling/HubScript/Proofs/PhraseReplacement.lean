import HubScript.Hub.Phrase
import HubScript.Script.Numeral

/-!
# Replacing phrases in a text

Replacement goes from the left, so what becomes of the front of a text depends on what follows it
only where a phrase can begin in the front and end behind it. The joints of a text with a phrase
are the characters with which such a phrase goes on; where none of them follows, a text without
the phrase is copied. Phrases that keep apart from each other can then be replaced one kind after
the other without a replacement being taken for part of a phrase.
-/
namespace HubScript.Hub

open Text (occursIn)

/-- The characters with which a phrase that begins within a text can go on behind it. -/
def joints (old : List Char) : List Char → List Char
  | [] => []
  | c :: t =>
    (if (c :: t).isPrefixOf old then (old.drop (t.length + 1)).head?.toList else []) ++ joints old t

/-- A text is copied if it does not hold the phrase and none of their joints follows. -/
theorem replaceAll_append {old new t rest : List Char} (hfree : occursIn old t = false)
    (hrest : ∀ c ∈ rest.head?, c ∉ joints old t) :
    replaceAll old new (t ++ rest) = t ++ replaceAll old new rest := by
  induction t with
  | nil => rfl
  | cons c t ih =>
    simp only [occursIn, Bool.or_eq_false_iff] at hfree
    simp only [joints, List.mem_append, not_or] at hrest
    have hnot : old.isPrefixOf (c :: (t ++ rest)) = false := by
      rw [← Bool.not_eq_true]
      intro hstart
      rw [← List.cons_append, List.isPrefixOf_iff_prefix] at hstart
      rcases List.prefix_or_prefix_of_prefix hstart (List.prefix_append _ _) with hshort | hlong
      · rw [← List.isPrefixOf_iff_prefix, hfree.1] at hshort
        cases hshort
      · obtain ⟨u, rfl⟩ := hlong
        cases u with
        | nil =>
          rw [List.append_nil, List.isPrefixOf_iff_prefix.mpr List.prefix_rfl] at hfree
          cases hfree.1
        | cons d u =>
          have hnext := (List.prefix_append_right_inj _).mp hstart
          obtain ⟨v, rfl⟩ := hnext
          have hd := (hrest d (by simp)).1
          simp at hd
    have hcopy := ih hfree.2 fun d hd => (hrest d hd).2
    rw [replaceAll] at hcopy ⊢
    simp only [List.cons_append, replaceFrom, hnot, hcopy, Bool.false_eq_true, if_false]

theorem replaceFrom_length (old new t rest : List Char) :
    replaceFrom old new t.length (t ++ rest) = replaceFrom old new 0 rest := by
  induction t with
  | nil => rfl
  | cons c t ih => simpa only [List.length_cons, List.cons_append, replaceFrom] using ih

theorem replaceAll_phrase {old : List Char} (hold : old ≠ []) (new rest : List Char) :
    replaceAll old new (old ++ rest) = new ++ replaceAll old new rest := by
  cases old with
  | nil => exact absurd rfl hold
  | cons c old =>
    have hstart : (c :: old).isPrefixOf (c :: (old ++ rest)) = true := by
      rw [List.isPrefixOf_iff_prefix]
      exact List.prefix_append (c :: old) rest
    simp only [replaceAll, List.cons_append, replaceFrom, hstart, if_true, List.length_cons,
      Nat.add_sub_cancel, replaceFrom_length]

/-- A text does not start with a character of a kind. -/
def Shuns (kind : Char → Bool) (text : List Char) : Prop := ∀ c ∈ text.head?, kind c = false

/-- Replacing a phrase brings no character of a kind to the front of a text. -/
def Keeps (kind : Char → Bool) (p : String × String) : Prop :=
  ∀ text, Shuns kind text → Shuns kind (replaceAll p.1.toList p.2.toList text)

theorem shuns_replaceAll {kind : Char → Bool} {old new text : List Char}
    (hnew : old.isPrefixOf text = true → new ≠ [] ∧ Shuns kind new) (h : Shuns kind text) :
    Shuns kind (replaceAll old new text) := by
  cases text with
  | nil => exact h
  | cons c text =>
    by_cases hstart : old.isPrefixOf (c :: text) = true
    · obtain ⟨hne, hshuns⟩ := hnew hstart
      obtain ⟨d, new, rfl⟩ := List.exists_cons_of_ne_nil hne
      simpa [replaceAll, replaceFrom, hstart, Shuns] using hshuns
    · simpa [replaceAll, replaceFrom, hstart, Shuns] using h

/-- Replaces phrases of several kinds, one kind after the other. -/
def translate (table : List (String × String)) (text : List Char) : List Char :=
  table.foldl (fun text (old, new) => replaceAll old.toList new.toList text) text

theorem translate_cons (old new : String) (table : List (String × String)) (text : List Char) :
    translate ((old, new) :: table) text =
      translate table (replaceAll old.toList new.toList text) := rfl

theorem translate_nil_text (table : List (String × String)) : translate table [] = [] := by
  induction table with
  | nil => rfl
  | cons p table ih => exact ih

theorem toHub_eq (text : String) :
    toHub text = String.ofList (translate phrases text.toList) := rfl

theorem replaceAll_append_of_kind {p : String × String} {kind : Char → Bool} {t rest : List Char}
    (hfree : occursIn p.1.toList t = false) (hjoints : ∀ c ∈ joints p.1.toList t, kind c = true)
    (hrest : Shuns kind rest) :
    replaceAll p.1.toList p.2.toList (t ++ rest) = t ++ replaceAll p.1.toList p.2.toList rest := by
  refine replaceAll_append hfree fun c hc hjoint => ?_
  have hkind := hjoints c hjoint
  rw [hrest c hc] at hkind
  cases hkind

/-- A text is copied if it holds no phrase of a table and all joints are of a kind that does not
follow. -/
theorem translate_append {table : List (String × String)} {kind : Char → Bool} {t rest : List Char}
    (hfree : ∀ p ∈ table, occursIn p.1.toList t = false)
    (hjoints : ∀ p ∈ table, ∀ c ∈ joints p.1.toList t, kind c = true)
    (hkeeps : ∀ p ∈ table, Keeps kind p) (hrest : Shuns kind rest) :
    translate table (t ++ rest) = t ++ translate table rest := by
  induction table generalizing rest with
  | nil => rfl
  | cons p table ih =>
    have hcopy := replaceAll_append_of_kind (hfree p (by simp)) (hjoints p (by simp)) hrest
    have hlater := ih (fun q hq => hfree q (by simp [hq])) (fun q hq => hjoints q (by simp [hq]))
      (fun q hq => hkeeps q (by simp [hq])) (hkeeps p (by simp) rest hrest)
    simp only [translate, List.foldl_cons, hcopy] at hlater ⊢
    exact hlater

/-- Whether a tail of a phrase and a text agree as far as both go, so that a phrase which begins
before the text can end in it or behind it. -/
def reaches (text : List Char) : List Char → Bool
  | [] => false
  | c :: t => (c :: t).isPrefixOf text || text.isPrefixOf (c :: t) || reaches text t

theorem not_prefix_of_reaches {text old v : List Char} (h : reaches text old = false)
    (hv : v <:+ old) (hne : v ≠ []) (rest : List Char) : ¬v <+: text ++ rest := by
  induction old with
  | nil => exact absurd (List.suffix_nil.mp hv) hne
  | cons c old ih =>
    rw [reaches, Bool.or_eq_false_iff, Bool.or_eq_false_iff] at h
    rcases List.suffix_cons_iff.mp hv with rfl | hv
    · intro hprefix
      rcases List.prefix_or_prefix_of_prefix hprefix (List.prefix_append text rest) with hin | hover
      · rw [List.isPrefixOf_iff_prefix.mpr hin] at h
        cases h.1.1
      · rw [List.isPrefixOf_iff_prefix.mpr hover] at h
        cases h.1.2
    · exact ih h.2 hv

/-- Replacement treats two texts one by one if no phrase can begin in the first and end in the
second. -/
theorem replaceFrom_append {old new back : List Char}
    (h : ∀ v, v <:+ old.tail → v ≠ [] → ¬v <+: back) (front : List Char) {skip : Nat}
    (hskip : skip ≤ front.length) :
    replaceFrom old new skip (front ++ back) =
      replaceFrom old new skip front ++ replaceFrom old new 0 back := by
  induction front generalizing skip with
  | nil =>
    obtain rfl := Nat.le_zero.mp hskip
    rfl
  | cons c t ih =>
    cases skip with
    | succ skip => exact ih (Nat.le_of_succ_le_succ hskip)
    | zero =>
      have hwithin : old <+: c :: (t ++ back) ↔ old <+: c :: t := by
        refine ⟨fun hold => ?_, fun hold => hold.trans (List.prefix_append (c :: t) back)⟩
        rcases List.prefix_or_prefix_of_prefix hold (List.prefix_append (c :: t) back) with
          hin | ⟨v, rfl⟩
        · exact hin
        · cases v with
          | nil => simp
          | cons d v =>
            -- the rest of the phrase would stand at the front of the second text
            refine absurd ((List.prefix_append_right_inj (c :: t)).mp hold)
              (h (d :: v) ?_ (List.cons_ne_nil d v))
            exact List.suffix_append t (d :: v)
      have hsame : old.isPrefixOf (c :: (t ++ back)) = old.isPrefixOf (c :: t) := by
        rw [Bool.eq_iff_iff, List.isPrefixOf_iff_prefix, List.isPrefixOf_iff_prefix, hwithin]
      rw [List.cons_append, replaceFrom, replaceFrom, hsame]
      split
      · rename_i hold
        have hlength := (List.isPrefixOf_iff_prefix.mp hold).length_le
        rw [List.length_cons] at hlength
        rw [ih (by omega), List.append_assoc]
      · rw [ih (Nat.zero_le _), List.cons_append]

theorem replaceAll_split {old text : List Char} (h : reaches text old.tail = false)
    (new front rest : List Char) :
    replaceAll old new (front ++ (text ++ rest)) =
      replaceAll old new front ++ replaceAll old new (text ++ rest) :=
  replaceFrom_append (fun _ hv hne => not_prefix_of_reaches h hv hne rest) front (Nat.zero_le _)

/-- A text is copied behind any other one, if moreover no phrase reaches into it from there. -/
theorem translate_behind {table : List (String × String)} {kind : Char → Bool}
    {t rest : List Char} (hfree : ∀ p ∈ table, occursIn p.1.toList t = false)
    (hjoints : ∀ p ∈ table, ∀ c ∈ joints p.1.toList t, kind c = true)
    (hreaches : ∀ p ∈ table, reaches t p.1.toList.tail = false)
    (hkeeps : ∀ p ∈ table, Keeps kind p) (hrest : Shuns kind rest) (front : List Char) :
    translate table (front ++ (t ++ rest)) =
      translate table front ++ (t ++ translate table rest) := by
  induction table generalizing front rest with
  | nil => rfl
  | cons p table ih =>
    have hcopy := replaceAll_append_of_kind (hfree p (by simp)) (hjoints p (by simp)) hrest
    have hfirst : replaceAll p.1.toList p.2.toList (front ++ (t ++ rest)) =
        replaceAll p.1.toList p.2.toList front ++ (t ++ replaceAll p.1.toList p.2.toList rest) := by
      rw [replaceAll_split (hreaches p (by simp)), hcopy]
    have hlater := ih (fun q hq => hfree q (by simp [hq])) (fun q hq => hjoints q (by simp [hq]))
      (fun q hq => hreaches q (by simp [hq])) (fun q hq => hkeeps q (by simp [hq]))
      (hkeeps p (by simp) rest hrest) (replaceAll p.1.toList p.2.toList front)
    simp only [translate, List.foldl_cons, hfirst] at hlater ⊢
    exact hlater

/-- A phrase neither stands in a text nor begins in it. -/
def Apart (phrase text : String) : Prop :=
  occursIn phrase.toList text.toList = false ∧ joints phrase.toList text.toList = []

instance (phrase text : String) : Decidable (Apart phrase text) :=
  inferInstanceAs (Decidable (_ ∧ _))

theorem translate_apart {table : List (String × String)} {text : String}
    (h : ∀ p ∈ table, Apart p.1 text) (rest : List Char) :
    translate table (text.toList ++ rest) = text.toList ++ translate table rest :=
  have hnone (cs : List Char) : Shuns (fun _ => false) cs := fun _ _ => rfl
  translate_append (fun p hp => (h p hp).1) (fun p hp c hc => by simp [(h p hp).2] at hc)
    (fun _ _ _ _ => hnone _) (hnone rest)

section Seams

variable {word text t : List Char}

/-- How much of a word can stand before a text so that the word goes on in it; `n` characters come
before those at hand. -/
def seamsFrom (text : List Char) : Nat → List Char → List Nat
  | _, [] => []
  | n, c :: rest =>
    (if (c :: rest).isPrefixOf text || text.isPrefixOf (c :: rest) then [n] else []) ++
      seamsFrom text (n + 1) rest

def seams (word text : List Char) : List Nat := seamsFrom text 1 word.tail

theorem mem_seamsFrom {u v : List Char} (hv : v ≠ []) (h : v <+: text ∨ text <+: v) (n : Nat) :
    n + u.length ∈ seamsFrom text n (u ++ v) := by
  induction u generalizing n with
  | nil =>
    obtain ⟨c, rest, rfl⟩ := List.exists_cons_of_ne_nil hv
    rw [← List.isPrefixOf_iff_prefix, ← List.isPrefixOf_iff_prefix, ← Bool.or_eq_true] at h
    rw [List.nil_append, seamsFrom, if_pos h]
    exact List.mem_append_left _ List.mem_cons_self
  | cons c u ih =>
    rw [List.cons_append, seamsFrom, List.length_cons, Nat.add_comm u.length 1, ← Nat.add_assoc]
    exact List.mem_append_right _ (ih (n + 1))

theorem mem_seams {u v : List Char} (hu : u ≠ []) (hv : v ≠ []) (h : v <+: text ∨ text <+: v) :
    u.length ∈ seams (u ++ v) text := by
  obtain ⟨c, u, rfl⟩ := List.exists_cons_of_ne_nil hu
  rw [seams, List.cons_append, List.tail_cons, List.length_cons, Nat.add_comm]
  exact mem_seamsFrom hv h 1

theorem reaches_of_seams (h : seams word text = []) : reaches text word.tail = false := by
  rw [seams] at h
  generalize 1 = n at h
  generalize word.tail = rest at h ⊢
  induction rest generalizing n with
  | nil => rfl
  | cons c rest ih =>
    rw [seamsFrom, List.append_eq_nil_iff] at h
    rw [reaches, ih (n + 1) h.2, Bool.or_false, ← Bool.not_eq_true]
    intro hmeets
    rw [if_pos hmeets] at h
    cases h.1

end Seams

/-- A phrase stands neither in a text nor over one of its ends. -/
structure Outside (phrase text : String) : Prop where
  apart : Apart phrase text
  seamless : seams phrase.toList text.toList = []

instance (phrase text : String) : Decidable (Outside phrase text) :=
  decidable_of_iff (Apart phrase text ∧ seams phrase.toList text.toList = [])
    ⟨fun h => ⟨h.1, h.2⟩, fun h => ⟨h.apart, h.seamless⟩⟩

/-- A text that all phrases of a table are outside of stays wherever it stands. -/
theorem infix_translate {table : List (String × String)} {text : String} {t : List Char}
    (htable : ∀ p ∈ table, Outside p.1 text) (h : text.toList <:+: t) :
    text.toList <:+: translate table t := by
  obtain ⟨front, back, rfl⟩ := h
  have hnone (cs : List Char) : Shuns (fun _ => false) cs := fun _ _ => rfl
  have hjoints : ∀ p ∈ table, ∀ c ∈ joints p.1.toList text.toList, false = true := by
    intro p hp c hc
    rw [(htable p hp).apart.2] at hc
    cases hc
  have hkept : translate table (front ++ (text.toList ++ back)) =
      translate table front ++ (text.toList ++ translate table back) :=
    translate_behind (fun p hp => (htable p hp).apart.1) hjoints
      (fun p hp => reaches_of_seams (htable p hp).seamless) (fun _ _ _ _ => hnone _) (hnone back)
      front
  rw [List.append_assoc, hkept, ← List.append_assoc]
  exact List.infix_append _ _ _

/-- Each kind of phrase keeps apart from the later phrases and from the words that stand for the
earlier ones. -/
def Orderly (table : List (String × String)) : Prop :=
  table.Pairwise fun p q => Apart p.1 q.1 ∧ Apart q.1 p.2

instance (table : List (String × String)) : Decidable (Orderly table) :=
  inferInstanceAs (Decidable (List.Pairwise _ _))

theorem translate_phrase {table : List (String × String)} (horder : Orderly table)
    (hne : ∀ p ∈ table, p.1.toList ≠ []) {p : String × String} (hp : p ∈ table)
    (rest : List Char) :
    translate table (p.1.toList ++ rest) = p.2.toList ++ translate table rest := by
  induction table generalizing rest with
  | nil => cases hp
  | cons q table ih =>
    obtain ⟨hfirst, hothers⟩ := List.pairwise_cons.mp horder
    rcases List.mem_cons.mp hp with rfl | hp
    · -- The phrase is replaced first, and what stands for it then passes the later kinds.
      simp only [translate, List.foldl_cons, replaceAll_phrase (hne p (by simp))]
      exact translate_apart (fun q hq => (hfirst q hq).2) _
    · have hcopy : translate [q] (p.1.toList ++ rest) = p.1.toList ++ translate [q] rest :=
        translate_apart (List.forall_mem_singleton.mpr (hfirst p hp).1) rest
      have hlater := ih hothers (fun r hr => hne r (by simp [hr])) hp
        (replaceAll q.1.toList q.2.toList rest)
      simp only [translate, List.foldl_cons, List.foldl_nil] at hcopy hlater ⊢
      rw [hcopy]
      exact hlater

section Heads

variable {old t : List Char}

theorem head_of_isPrefixOf {c : Char} {s : List Char} (hold : old ≠ [])
    (h : old.isPrefixOf (c :: s) = true) : old.head? = some c := by
  obtain ⟨u, hu⟩ := List.isPrefixOf_iff_prefix.mp h
  obtain ⟨d, old, rfl⟩ := List.exists_cons_of_ne_nil hold
  exact congrArg some (List.cons.inj hu).1

/-- No phrase begins at a character that is not its first one. -/
theorem cons_of_head {c : Char} (hold : old ≠ []) (h : old.head? ≠ some c) (t : List Char) :
    occursIn old (c :: t) = occursIn old t ∧ joints old (c :: t) = joints old t := by
  have hshort : old.isPrefixOf (c :: t) = false := by
    rw [← Bool.not_eq_true]
    exact fun hstart => h (head_of_isPrefixOf hold hstart)
  have hlong : (c :: t).isPrefixOf old = false := by
    rw [← Bool.not_eq_true]
    intro hstart
    obtain ⟨u, rfl⟩ := List.isPrefixOf_iff_prefix.mp hstart
    exact h rfl
  simp [occursIn, joints, hshort, hlong]

/-- A text without the first character of a phrase keeps apart from it. -/
theorem apart_of_head (hold : old ≠ []) (h : ∀ c ∈ t, old.head? ≠ some c) :
    occursIn old t = false ∧ joints old t = [] := by
  induction t with
  | nil => simpa [occursIn, joints] using hold
  | cons c t ih =>
    obtain ⟨hfree, hjoints⟩ := cons_of_head hold (h c (by simp)) t
    rw [hfree, hjoints]
    exact ih fun d hd => h d (by simp [hd])

theorem mem_of_occursIn {x : Char} (hx : x ∈ old) (h : occursIn old t = true) : x ∈ t := by
  induction t with
  | nil =>
    rw [occursIn, List.isEmpty_iff] at h
    simp [h] at hx
  | cons c t ih =>
    rw [occursIn, Bool.or_eq_true] at h
    rcases h with h | h
    · exact (List.isPrefixOf_iff_prefix.mp h).subset hx
    · exact List.mem_cons_of_mem c (ih h)

/-- Behind characters of a kind, a phrase goes on with one more of the kind or with the first
character that is not of it. -/
theorem joints_of_kind {kind : Char → Bool} {c : Char} (ht : ∀ x ∈ t, kind x = true)
    (hc : c ∈ joints old t) : kind c = true ∨ (old.dropWhile kind).head? = some c := by
  induction t with
  | nil => cases hc
  | cons x t ih =>
    rw [joints, List.mem_append] at hc
    rcases hc with hc | hc
    · split at hc
      · rename_i hstart
        obtain ⟨u, rfl⟩ := List.isPrefixOf_iff_prefix.mp hstart
        cases u with
        | nil => simp at hc
        | cons d u =>
          have hd : c = d := by simpa using hc
          subst hd
          by_cases hkind : kind c = true
          · exact .inl hkind
          · right
            rw [List.dropWhile_append_of_pos ht, List.dropWhile_cons_of_neg hkind]
            rfl
      · cases hc
    · exact ih (fun y hy => ht y (by simp [hy])) hc

end Heads

section Words

variable {old new word t : List Char}

theorem occursIn_iff : occursIn word t = true ↔ word <:+: t := by
  induction t with
  | nil => simp [occursIn]
  | cons c t ih =>
    rw [occursIn, Bool.or_eq_true, List.isPrefixOf_iff_prefix, ih, List.infix_cons_iff]

theorem replaceAll_of_free (h : occursIn old t = false) : replaceAll old new t = t := by
  simpa [replaceAll, replaceFrom] using @replaceAll_append old new t [] h (by simp)

/-- A word neither stands in a text nor ends in it, and does not go on behind it. -/
structure Foreign (word text : List Char) : Prop where
  out : occursIn word text = false
  head : text.head?.any (!word.tail.contains ·) = true
  last : text.getLast?.any (!word.contains ·) = true

instance (word text : List Char) : Decidable (Foreign word text) :=
  decidable_of_iff (occursIn word text = false ∧ text.head?.any (!word.tail.contains ·) = true ∧
    text.getLast?.any (!word.contains ·) = true)
    ⟨fun h => ⟨h.1, h.2.1, h.2.2⟩, fun h => ⟨h.out, h.head, h.last⟩⟩

/-- What stands at the front of a text after replacement stood there before, unless a replacement
begins in it. -/
theorem prefix_of_replaceFrom {e : Char} (hfree : e ∉ word)
    (h : word <+: replaceFrom old (e :: new) 0 t) : word <+: t := by
  induction t generalizing word with
  | nil => exact h
  | cons c t ih =>
    cases word with
    | nil => exact List.nil_prefix
    | cons d word =>
      rw [List.mem_cons, not_or] at hfree
      rw [replaceFrom] at h
      split at h
      · rw [List.cons_append, List.cons_prefix_cons] at h
        exact absurd h.1.symm hfree.1
      · rw [List.cons_prefix_cons] at h ⊢
        exact ⟨h.1, ih hfree.2 h.2⟩

/-- A word that begins or stands after a text from which it is kept out stands behind it. -/
theorem Foreign.infix_of_append {text rest : List Char} (hforeign : Foreign word text)
    (h : word <:+: text ++ rest) : word <:+: rest := by
  rcases List.infix_append_iff.mp h with h | h | ⟨front, back, rfl, hfront, hback⟩
  · rw [← occursIn_iff, hforeign.out] at h
    cases h
  · exact h
  · rcases List.eq_nil_or_concat front with rfl | ⟨others, last, rfl⟩
    · exact hback.isInfix
    · -- A part of the word at the end of the text would have the last character of the text.
      obtain ⟨c, hc, hfree⟩ := (Option.any_eq_true _ _).mp hforeign.last
      obtain ⟨before, rfl⟩ := hfront
      simp only [List.concat_eq_append, ← List.append_assoc, List.getLast?_concat,
        Option.some.injEq] at hc
      subst hc
      simp at hfree

/-- A word that stands in a text after replacement stood in it before, if it is foreign to what has
been put there. -/
theorem infix_of_replaceFrom (hforeign : Foreign word new) (skip : Nat)
    (h : word <:+: replaceFrom old new skip t) : word <:+: t := by
  obtain ⟨e, he, hfree⟩ := (Option.any_eq_true _ _).mp hforeign.head
  obtain ⟨others, rfl⟩ := List.head?_eq_some_iff.mp he
  induction t generalizing skip with
  | nil => simpa only [replaceFrom] using h
  | cons c t ih =>
    cases skip with
    | succ skip => exact List.infix_cons (ih skip h)
    | zero =>
      rw [replaceFrom] at h
      split at h
      · exact List.infix_cons (ih _ (hforeign.infix_of_append h))
      · rcases List.infix_cons_iff.mp h with h | h
        · refine List.infix_cons_iff.mpr (.inl ?_)
          cases word with
          | nil => exact List.nil_prefix
          | cons d word =>
            rw [List.cons_prefix_cons] at h ⊢
            exact ⟨h.1, prefix_of_replaceFrom (by simpa using hfree) h.2⟩
        · exact List.infix_cons (ih 0 h)

/-- A word that stands in a text after the replacement of a table stood in it before, if each phrase
has the word in it or is replaced by something to which the word is foreign. -/
theorem infix_of_translate {table : List (String × String)}
    (htable : ∀ p ∈ table, occursIn word p.1.toList = true ∨ Foreign word p.2.toList)
    (h : word <:+: translate table t) : word <:+: t := by
  induction table generalizing t with
  | nil => exact h
  | cons p table ih =>
    have hfirst : word <:+: replaceAll p.1.toList p.2.toList t :=
      ih (fun q hq => htable q (List.mem_cons_of_mem p hq)) h
    rcases htable p List.mem_cons_self with hin | hforeign
    · cases hphrase : occursIn p.1.toList t with
      | true => exact (occursIn_iff.mp hin).trans (occursIn_iff.mp hphrase)
      | false => rwa [replaceAll_of_free hphrase] at hfirst
    · exact infix_of_replaceFrom hforeign 0 hfirst

/-- A character that the words for a phrase hold is not lost when the phrase is replaced. -/
theorem mem_replaceAll {c : Char} (hnew : c ∈ new) (h : c ∈ t) :
    c ∈ replaceAll old new t := by
  rw [replaceAll]
  induction t with
  | nil => cases h
  | cons d t ih =>
    rw [replaceFrom]
    split
    · exact List.mem_append_left _ hnew
    · rcases List.mem_cons.mp h with rfl | h
      · exact List.mem_cons_self
      · exact List.mem_cons_of_mem d (ih h)

theorem mem_translate {c : Char} {table : List (String × String)}
    (htable : ∀ p ∈ table, c ∈ p.2.toList) (h : c ∈ t) : c ∈ translate table t := by
  induction table generalizing t with
  | nil => exact h
  | cons p table ih =>
    exact ih (fun q hq => htable q (List.mem_cons_of_mem p hq))
      (mem_replaceAll (htable p List.mem_cons_self) h)

end Words

/-- The phrase for the distance in a script. -/
def distancePhrase : String := "distance_sensor.get_distance()"

/-- The call of the function for the distance. -/
def distanceCall : String := "get_distance()"

end HubScript.Hub
