import HubScript.Proofs.PhraseReplacement

/-!
# Phrases that replacement leaves behind

A phrase stands in a text after a replacement for one of two reasons: it stood there before, or it
has been put together at a seam, from what stood before a replaced phrase and the words that were
put in its place. The phrases of the sensors have one seam in all, in the call for the distance, so
that a phrase is left over exactly where the distance sensor is named twice in a row.
-/
namespace HubScript.Hub

open Text (occursIn)

section Replacement

variable {old new word t : List Char}

/-- What stands at the front of a text after replacement stood there before, or begins there and
goes on in what has been put in. -/
theorem prefix_replaceFrom (h : word <+: replaceFrom old new 0 t) :
    word <+: t ∨ ∃ u v, word = u ++ v ∧ v ≠ [] ∧ (v <+: new ∨ new <+: v) ∧ u ++ old <+: t := by
  induction t generalizing word with
  | nil => exact .inl h
  | cons c t ih =>
    cases word with
    | nil => exact .inl List.nil_prefix
    | cons d word =>
      rw [replaceFrom] at h
      split at h
      · rename_i hold
        have hmeets := List.prefix_or_prefix_of_prefix h (List.prefix_append new _)
        exact .inr ⟨[], d :: word, rfl, List.cons_ne_nil d word, hmeets,
          List.isPrefixOf_iff_prefix.mp hold⟩
      · obtain ⟨rfl, hword⟩ := List.cons_prefix_cons.mp h
        rcases ih hword with hin | ⟨u, v, rfl, hv, hmeets, hseam⟩
        · exact .inl (List.cons_prefix_cons.mpr ⟨rfl, hin⟩)
        · exact .inr ⟨d :: u, v, rfl, hv, hmeets, List.cons_prefix_cons.mpr ⟨rfl, hseam⟩⟩

theorem mem_joints {text front back : List Char} {c : Char} (hfront : front <:+ text)
    (hne : front ≠ []) : c ∈ joints (front ++ c :: back) text := by
  induction text with
  | nil => exact absurd (List.suffix_nil.mp hfront) hne
  | cons d text ih =>
    rw [joints, List.mem_append]
    rcases List.suffix_cons_iff.mp hfront with rfl | hlater
    · left
      have hprefix : (d :: text).isPrefixOf ((d :: text) ++ c :: back) = true :=
        List.isPrefixOf_iff_prefix.mpr (List.prefix_append _ _)
      have hdrop : ((d :: text) ++ c :: back).drop (text.length + 1) = c :: back :=
        List.drop_left
      rw [if_pos hprefix, hdrop]
      exact List.mem_singleton_self c
    · exact .inr (ih hlater)

/-- A word that neither stands in a text nor begins in it stands behind it. -/
theorem infix_of_apart {text rest : List Char} (hout : occursIn word text = false)
    (hjoints : joints word text = []) (h : word <:+: text ++ rest) : word <:+: rest := by
  rcases List.infix_append_iff.mp h with hin | hbehind | ⟨front, back, rfl, hfront, hback⟩
  · rw [← occursIn_iff, hout] at hin
    cases hin
  · exact hbehind
  · cases front with
    | nil => exact hback.isInfix
    | cons d front =>
      cases back with
      | nil =>
        rw [List.append_nil] at hout
        rw [occursIn_iff.mpr hfront.isInfix] at hout
        cases hout
      | cons c back =>
        have hjoint : c ∈ joints (d :: front ++ c :: back) text :=
          mem_joints hfront (List.cons_ne_nil d front)
        rw [hjoints] at hjoint
        cases hjoint

/-- A word that stands in a text after replacement is not the phrase and stood there before, or it
has been put together at a seam. -/
theorem infix_replaceFrom (hout : occursIn word new = false) (hjoints : joints word new = [])
    (skip : Nat) (h : word <:+: replaceFrom old new skip t) :
    word ≠ old ∧ word <:+: t ∨ ∃ n ∈ seams word new, word.take n ++ old <:+: t := by
  induction t generalizing skip with
  | nil =>
    obtain rfl : word = [] := List.infix_nil.mp (by simpa only [replaceFrom] using h)
    rw [occursIn_iff.mpr List.nil_infix] at hout
    cases hout
  | cons c t ih =>
    have hlater (skip : Nat) (h : word <:+: replaceFrom old new skip t) :
        word ≠ old ∧ word <:+: c :: t ∨ ∃ n ∈ seams word new, word.take n ++ old <:+: c :: t := by
      rcases ih skip h with ⟨hne, hin⟩ | ⟨n, hn, hseam⟩
      · exact .inl ⟨hne, List.infix_cons hin⟩
      · exact .inr ⟨n, hn, List.infix_cons hseam⟩
    cases skip with
    | succ skip => exact hlater skip h
    | zero =>
      by_cases hold : old.isPrefixOf (c :: t) = true
      · rw [replaceFrom, if_pos hold] at h
        exact hlater _ (infix_of_apart hout hjoints h)
      · have hcopy : replaceFrom old new 0 (c :: t) = c :: replaceFrom old new 0 t := by
          rw [replaceFrom, if_neg hold]
        rw [hcopy] at h
        rw [List.isPrefixOf_iff_prefix] at hold
        rcases List.infix_cons_iff.mp h with hfront | hin
        · rw [← hcopy] at hfront
          -- the phrase does not start here, or it would have been replaced
          rcases prefix_replaceFrom hfront with hword | ⟨u, v, rfl, hv, hmeets, hseam⟩
          · exact .inl ⟨fun heq => hold (heq ▸ hword), hword.isInfix⟩
          · have hu : u ≠ [] := by
              rintro rfl
              exact hold hseam
            refine .inr ⟨u.length, mem_seams hu hv hmeets, ?_⟩
            rw [List.take_left]
            exact hseam.isInfix
        · exact hlater 0 hin

theorem Outside.infix_replaceAll {word new : String} (h : Outside word new)
    (hin : word.toList <:+: replaceAll old new.toList t) :
    word.toList ≠ old ∧ word.toList <:+: t := by
  rcases infix_replaceFrom h.apart.1 h.apart.2 0 hin with hbefore | ⟨n, hn, -⟩
  · exact hbefore
  · rw [h.seamless] at hn
    cases hn

/-- A word outside of all that is put in was there before, and it is none of the phrases. -/
theorem infix_of_translate_outside {table : List (String × String)} {word : String}
    (htable : ∀ p ∈ table, Outside word p.2) (h : word.toList <:+: translate table t) :
    word.toList <:+: t ∧ ∀ p ∈ table, word ≠ p.1 := by
  induction table generalizing t with
  | nil => exact ⟨h, by simp⟩
  | cons p table ih =>
    obtain ⟨hfirst, hothers⟩ := ih (fun q hq => htable q (List.mem_cons_of_mem p hq)) h
    obtain ⟨hne, hbefore⟩ := (htable p List.mem_cons_self).infix_replaceAll hfirst
    refine ⟨hbefore, fun q hq => ?_⟩
    rcases List.mem_cons.mp hq with rfl | hq
    · exact fun heq => hne (congrArg String.toList heq)
    · exact hothers q hq

theorem translate_of_free {table : List (String × String)}
    (h : ∀ p ∈ table, ¬p.1.toList <:+: t) : translate table t = t := by
  induction table with
  | nil => rfl
  | cons p table ih =>
    have hfree : occursIn p.1.toList t = false := by
      rw [← Bool.not_eq_true, occursIn_iff]
      exact h p List.mem_cons_self
    rw [translate_cons, replaceAll_of_free hfree]
    exact ih fun q hq => h q (List.mem_cons_of_mem p hq)

theorem length_replaceFrom_le (hshort : new.length ≤ old.length) (skip : Nat)
    (hskip : skip ≤ t.length) : (replaceFrom old new skip t).length + skip ≤ t.length := by
  induction t generalizing skip with
  | nil =>
    rw [replaceFrom, List.length_nil, Nat.zero_add]
    exact hskip
  | cons c t ih =>
    cases skip with
    | succ skip =>
      have hrest := ih skip (Nat.le_of_succ_le_succ hskip)
      rw [replaceFrom, List.length_cons]
      omega
    | zero =>
      rw [replaceFrom]
      split
      · rename_i hold
        have hfits := (List.isPrefixOf_iff_prefix.mp hold).length_le
        rw [List.length_cons] at hfits
        have hrest := ih (old.length - 1) (by omega)
        rw [List.length_append, List.length_cons]
        omega
      · have hrest := ih 0 (Nat.zero_le _)
        rw [List.length_cons, List.length_cons]
        omega

/-- A text that holds a phrase becomes shorter if the words for it are shorter. -/
theorem length_replaceAll_lt (hshort : new.length < old.length) (h : old <:+: t) :
    (replaceAll old new t).length < t.length := by
  rw [replaceAll]
  induction t with
  | nil =>
    rw [List.infix_nil.mp h] at hshort
    cases hshort
  | cons c t ih =>
    rw [replaceFrom]
    split
    · rename_i hold
      have hfits := (List.isPrefixOf_iff_prefix.mp hold).length_le
      rw [List.length_cons] at hfits
      have hrest : (replaceFrom old new (old.length - 1) t).length + (old.length - 1) ≤ t.length :=
        length_replaceFrom_le (Nat.le_of_lt hshort) (old.length - 1) (by omega)
      rw [List.length_append, List.length_cons]
      omega
    · rename_i hold
      rcases List.infix_cons_iff.mp h with hfront | hlater
      · exact absurd (List.isPrefixOf_iff_prefix.mpr hfront) hold
      · have hrest := ih hlater
        rw [List.length_cons, List.length_cons]
        omega

end Replacement

section Vocabulary

/-- The name of the distance sensor where one of its readings follows. -/
def distanceSensor : String := "distance_sensor."

/-- The phrase for the distance in centimetres. -/
def distanceCmPhrase : String := "distance_sensor.get_distance_cm()"

/-- The phrase for the distance behind the name of its sensor. -/
def doubledDistance : String := "distance_sensor.distance_sensor.get_distance()"

def doubledDistanceCm : String := "distance_sensor.distance_sensor.get_distance_cm()"

theorem distancePhrase_eq :
    distancePhrase.toList = distanceSensor.toList ++ distanceCall.toList := by decide

theorem doubledDistance_eq :
    doubledDistance.toList = distanceSensor.toList ++ distancePhrase.toList := by decide

theorem doubledDistanceCm_eq :
    doubledDistanceCm.toList = distanceSensor.toList ++ distanceCmPhrase.toList := by decide

/-- The phrases after the two for the distance. -/
def otherPhrases : List (String × String) := phrases.drop 2

theorem phrases_eq : phrases =
    (distancePhrase, distanceCall) :: (distanceCmPhrase, distanceCall) :: otherPhrases := rfl

theorem translate_phrases (t : List Char) : translate phrases t =
    translate phrases.tail (replaceAll distancePhrase.toList distanceCall.toList t) := by
  rw [phrases_eq, translate_cons, List.tail_cons]

theorem distance_not_mem : ∀ p ∈ phrases.tail, p.1 ≠ distancePhrase := by decide

theorem phrases_outside_words : ∀ q ∈ phrases.tail, ∀ p ∈ phrases, Outside q.1 p.2 := by
  decide +kernel

theorem distance_outside_words : ∀ p ∈ otherPhrases, Outside distancePhrase p.2 := by
  decide +kernel

theorem phrases_outside_distance : ∀ p ∈ phrases.tail, Outside p.1 distancePhrase := by
  decide +kernel

theorem doubledDistanceCm_outside_call : Outside doubledDistanceCm distanceCall := by decide

theorem distance_outside_doubledDistanceCm : Outside distancePhrase doubledDistanceCm := by decide

/-- The one seam: the call for the distance is the phrase for it without the name of the sensor. -/
theorem seams_distance : seams distancePhrase.toList distanceCall.toList = [16] := by decide

theorem distance_apart_call : Apart distancePhrase distanceCall := by decide

end Vocabulary

section Residue

variable {t : List Char}

/-- No phrase but the one for the distance is ever left. -/
theorem eq_distance_of_left {p : String × String} (hp : p ∈ phrases)
    (h : p.1.toList <:+: translate phrases t) : p.1 = distancePhrase := by
  rw [phrases_eq] at hp
  rcases List.mem_cons.mp hp with rfl | htail
  · rfl
  · obtain ⟨-, hnone⟩ := infix_of_translate_outside (phrases_outside_words p htail) h
    exact absurd rfl (hnone p hp)

/-- The call for the distance makes a phrase again only behind the name of the sensor. -/
theorem distance_at_seam {old : List Char}
    (h : distancePhrase.toList <:+: replaceAll old distanceCall.toList t) :
    distancePhrase.toList ≠ old ∧ distancePhrase.toList <:+: t ∨
      distanceSensor.toList ++ old <:+: t := by
  rcases infix_replaceFrom distance_apart_call.1 distance_apart_call.2 0 h with
    hbefore | ⟨n, hn, hseam⟩
  · exact .inl hbefore
  · rw [seams_distance, List.mem_singleton] at hn
    rw [hn] at hseam
    exact .inr hseam

theorem doubled_of_left (h : distancePhrase.toList <:+: translate phrases t) :
    doubledDistance.toList <:+: t ∨ doubledDistanceCm.toList <:+: t := by
  rw [phrases_eq, translate_cons, translate_cons] at h
  have hsecond := (infix_of_translate_outside distance_outside_words h).1
  rcases distance_at_seam hsecond with ⟨-, hfirst⟩ | hcm
  · rcases distance_at_seam hfirst with ⟨hne, -⟩ | hdoubled
    · exact absurd rfl hne
    · rw [← doubledDistance_eq] at hdoubled
      exact .inl hdoubled
  · rw [← doubledDistanceCm_eq] at hcm
    exact .inr (doubledDistanceCm_outside_call.infix_replaceAll hcm).2

/-- The name of the sensor before a phrase for the distance stays when the phrase is replaced. -/
theorem distance_of_doubled {old : List Char} (hold : old ≠ [])
    (hout : occursIn old distanceSensor.toList = false)
    (hjoints : old.head?.any (joints old distanceSensor.toList).contains = false)
    (hreaches : reaches (distanceSensor.toList ++ old) old.tail = false)
    (h : distanceSensor.toList ++ old <:+: t) :
    distancePhrase.toList <:+: replaceAll old distanceCall.toList t := by
  obtain ⟨front, back, rfl⟩ := h
  have hhead : ∀ c ∈ (old ++ back).head?, c ∉ joints old distanceSensor.toList := by
    obtain ⟨d, rest, rfl⟩ := List.exists_cons_of_ne_nil hold
    intro c hc hmem
    obtain rfl := Option.mem_some_iff.mp hc
    exact absurd (List.contains_iff_mem.mpr hmem) (Bool.eq_false_iff.mp hjoints)
  have hbehind : replaceAll old distanceCall.toList (distanceSensor.toList ++ old ++ back) =
      distancePhrase.toList ++ replaceAll old distanceCall.toList back := by
    rw [List.append_assoc, replaceAll_append hout hhead, replaceAll_phrase hold,
      distancePhrase_eq, List.append_assoc]
  rw [List.append_assoc, replaceAll_split hreaches, hbehind, ← List.append_assoc]
  exact List.infix_append _ _ _

/-- Whichever reading the distance sensor named twice is asked for, its phrase is left. -/
theorem left_of_doubled (h : doubledDistance.toList <:+: t ∨ doubledDistanceCm.toList <:+: t) :
    distancePhrase.toList <:+: translate phrases t := by
  rw [phrases_eq, translate_cons]
  rcases h with h | h
  · rw [doubledDistance_eq] at h
    have hfirst := distance_of_doubled (by decide) (by decide) (by decide) (by decide) h
    exact infix_translate phrases_outside_distance hfirst
  · have hfirst : doubledDistanceCm.toList <:+:
        translate [(distancePhrase, distanceCall)] t :=
      infix_translate (List.forall_mem_singleton.mpr distance_outside_doubledDistanceCm) h
    rw [doubledDistanceCm_eq] at hfirst
    have hsecond := distance_of_doubled (by decide) (by decide) (by decide) (by decide) hfirst
    rw [translate_cons]
    exact infix_translate
      (fun p hp => phrases_outside_distance p (List.mem_cons_of_mem _ hp)) hsecond

/-- A text in which the phrase for the distance is left becomes shorter once more. -/
theorem translate_again_ne (h : distancePhrase.toList <:+: translate phrases t) :
    translate phrases (translate phrases t) ≠ translate phrases t := by
  have hrest : ∀ p ∈ phrases.tail, ¬p.1.toList <:+:
      replaceAll distancePhrase.toList distanceCall.toList (translate phrases t) := by
    intro p hp hin
    have houtside : Outside p.1 distanceCall :=
      phrases_outside_words p hp (distancePhrase, distanceCall) List.mem_cons_self
    have hleft := (houtside.infix_replaceAll hin).2
    exact distance_not_mem p hp (eq_distance_of_left (List.mem_of_mem_tail hp) hleft)
  have hagain : translate phrases (translate phrases t) =
      replaceAll distancePhrase.toList distanceCall.toList (translate phrases t) := by
    rw [translate_phrases, translate_of_free hrest]
  have hcall : distanceCall.toList.length < distancePhrase.toList.length := by decide
  have hshorter := length_replaceAll_lt hcall h
  intro hsame
  rw [hagain] at hsame
  rw [hsame] at hshorter
  exact Nat.lt_irrefl _ hshorter

end Residue

/-- A phrase is left in the words of the hub exactly if the distance sensor is named twice in a row
before one of its readings, and exactly then another translation would change the text again. -/
theorem phrase_left_iff (s : String) :
    ((∃ p ∈ phrases, mentions (toHub s) p.1 = true) ↔
      mentions s "distance_sensor.distance_sensor.get_distance()" = true ∨
        mentions s "distance_sensor.distance_sensor.get_distance_cm()" = true) ∧
    (toHub (toHub s) = toHub s ↔
      mentions s "distance_sensor.distance_sensor.get_distance()" = false ∧
        mentions s "distance_sensor.distance_sensor.get_distance_cm()" = false) := by
  have hresult : (toHub s).toList = translate phrases s.toList := by
    rw [toHub_eq, String.toList_ofList]
  have hleft : (∃ p ∈ phrases, mentions (toHub s) p.1 = true) ↔
      distancePhrase.toList <:+: translate phrases s.toList := by
    simp only [mentions, occursIn_iff, hresult]
    constructor
    · rintro ⟨p, hp, hin⟩
      rwa [eq_distance_of_left hp hin] at hin
    · exact fun hin => ⟨(distancePhrase, distanceCall), List.mem_cons_self, hin⟩
  have hdoubled : distancePhrase.toList <:+: translate phrases s.toList ↔
      mentions s doubledDistance = true ∨ mentions s doubledDistanceCm = true := by
    simp only [mentions, occursIn_iff]
    exact ⟨doubled_of_left, left_of_doubled⟩
  have hagain : toHub (toHub s) = toHub s ↔
      translate phrases (translate phrases s.toList) = translate phrases s.toList := by
    rw [toHub_eq (toHub s), hresult, toHub_eq, String.ofList_inj]
  refine ⟨hleft.trans hdoubled, ?_⟩
  rw [hagain, ← Bool.not_eq_true, ← Bool.not_eq_true, ← not_or]
  refine ⟨fun hsame hin => translate_again_ne (hdoubled.mpr hin) hsame, fun hnone => ?_⟩
  refine translate_of_free fun p hp hin => hnone (hdoubled.mp ?_)
  rwa [eq_distance_of_left hp hin] at hin

example : toHub "2 * distance_sensor.distance_sensor.get_distance_cm()" =
    "2 * distance_sensor.get_distance()" := by
  decide +kernel

end HubScript.Hub
