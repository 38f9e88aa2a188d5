import Mathlib.Data.List.Forall2
import PanelQuery.Text.Blank
import PanelQuery.Text.Search

/-!
# Words

A text spells its words with blanks around and between them (`Spells`), and these are the words that are read off it
(`spells_iff`). So no word is empty, a trimmed text has words unless it is empty (`words_ne_nil`), and the words are
still there when they are set apart by single blanks (`words_joinWith_words`). Two texts can be compared word by word,
whatever the case of their letters and the blanks around the words (`SpeltAlike`).
-/

namespace PanelQuery.Text

/-! ## Spelling -/

section Spelling

variable {p : Char → Bool} {word cs : List Char} {ws : List (List Char)} {sep : Char}

/-- Whether a text consists of words, with blanks around and between them; `p` tells the blanks. -/
inductive Spells (p : Char → Bool) : List (List Char) → List Char → Prop where
  | nil : Spells p [] []
  | blank {c : Char} {ws : List (List Char)} {cs : List Char} : p c = true → Spells p ws cs → Spells p ws (c :: cs)
  /-- A word ends where a blank follows, or nothing. -/
  | word {word : List Char} {ws : List (List Char)} {cs : List Char} : word ≠ [] → (∀ c ∈ word, p c = false) →
      (∀ c ∈ cs.head?, p c = true) → Spells p ws cs → Spells p (word :: ws) (word ++ cs)

/-- The characters of a run are gathered. -/
theorem runsBy_append {run : List Char} (hrun : ∀ c ∈ run, p c = false) :
    runsBy p word (run ++ cs) = runsBy p (run.reverse ++ word) cs := by
  induction run generalizing word with
  | nil => rfl
  | cons c run ih =>
    have hc : p c = false := hrun c List.mem_cons_self
    rw [List.cons_append, runsBy, hc, if_neg Bool.false_ne_true, ih fun d hd => hrun d (List.mem_cons_of_mem c hd),
      List.reverse_cons, List.append_assoc, List.singleton_append]

/-- A run ends where it is cut off. -/
theorem runsBy_of_head? (hword : word ≠ []) (hcs : ∀ c ∈ cs.head?, p c = true) :
    runsBy p word cs = word.reverse :: runsBy p [] cs := by
  have hnonempty : word.isEmpty = false := by simpa using hword
  cases cs with
  | nil => simp [runsBy, hnonempty]
  | cons c cs =>
    have hc : p c = true := hcs c rfl
    simp [runsBy, hc, hnonempty]

/-- The words that a text spells are read off it. -/
theorem Spells.runsBy_eq (h : Spells p ws cs) : runsBy p [] cs = ws := by
  induction h with
  | nil => rfl
  | blank hc _ ih =>
    rw [runsBy, if_pos hc]
    exact ih
  | word hne hword hcs _ ih =>
    rw [runsBy_append hword, List.append_nil, runsBy_of_head? (List.reverse_ne_nil_iff.mpr hne) hcs,
      List.reverse_reverse, ih]

/-- A text spells the words that are read off it, `word` being what was read of the first one. -/
theorem spells_runsBy (hword : ∀ c ∈ word, p c = false) : Spells p (runsBy p word cs) (word.reverse ++ cs) := by
  have hreverse : ∀ {word : List Char}, (∀ c ∈ word, p c = false) → ∀ c ∈ word.reverse, p c = false :=
    fun hword c hc => hword c (List.mem_reverse.mp hc)
  fun_induction runsBy p word cs with
  | case1 word hempty =>
    rw [List.isEmpty_iff.mp hempty]
    exact .nil
  | case2 word hnonempty =>
    refine .word ?_ (hreverse hword) (fun c hc => by cases hc) .nil
    simpa using hnonempty
  | case3 word c cs hc hempty ih =>
    rw [List.isEmpty_iff.mp hempty]
    exact .blank hc (ih fun d hd => by cases hd)
  | case4 word c cs hc hnonempty ih =>
    refine .word ?_ (hreverse hword) (fun d hd => ?_) (.blank hc (ih fun d hd => by cases hd))
    · simpa using hnonempty
    · rwa [← Option.some.inj hd]
  | case5 word c cs hc ih =>
    have hspells := ih fun d hd => by
      rcases List.mem_cons.mp hd with rfl | hd
      · simpa using hc
      · exact hword d hd
    rwa [List.reverse_cons, List.append_assoc] at hspells

theorem spells_iff : Spells p ws cs ↔ runsBy p [] cs = ws := by
  constructor
  · exact Spells.runsBy_eq
  · rintro rfl
    exact spells_runsBy fun c hc => by cases hc

theorem Spells.ne_nil_of_mem (h : Spells p ws cs) (hmem : word ∈ ws) : word ≠ [] := by
  induction h with
  | nil => cases hmem
  | blank _ _ ih => exact ih hmem
  | word hne _ _ _ ih =>
    rcases List.mem_cons.mp hmem with rfl | hmem
    · exact hne
    · exact ih hmem

/-- A text without words is blank. -/
theorem Spells.forall_of_nil (h : Spells p [] cs) : ∀ c ∈ cs, p c = true := by
  generalize hws : [] = ws at h
  induction h with
  | nil => exact fun c hc => by cases hc
  | blank hblank _ ih => exact List.forall_mem_cons.mpr ⟨hblank, ih hws⟩
  | word => cases hws

/-- Words set apart by single blanks are spelt by that. -/
theorem Spells.intercalate (h : Spells p ws cs) (hsep : p sep = true) : Spells p ws ([sep].intercalate ws) := by
  induction h with
  | nil => exact .nil
  | blank _ _ ih => exact ih
  | @word word ws cs hne hword hcs hrest ih =>
    cases ws with
    | nil =>
      have hlast : Spells p [word] (word ++ []) := .word hne hword (fun c hc => by cases hc) .nil
      rw [List.intercalate_singleton]
      rwa [List.append_nil] at hlast
    | cons next ws =>
      rw [List.intercalate_cons_cons, List.append_assoc]
      refine .word hne hword (fun c hc => ?_) (.blank hsep ih)
      rwa [← Option.some.inj hc]

end Spelling

/-! ## The words of a text -/

section Words

variable {s t : String}

theorem spells_words : Spells isBlank (runsBy isBlank [] s.toList) s.toList := spells_iff.mpr rfl

theorem ne_empty_of_mem_words {word : String} (h : word ∈ words s) : word ≠ "" := by
  obtain ⟨run, hrun, rfl⟩ := List.mem_map.mp h
  exact fun hempty => spells_words.ne_nil_of_mem hrun (String.ofList_eq_empty_iff.mp hempty)

/-- What is left after trimming has a character that is not cut. -/
theorem exists_mem_trimBy {p : Char → Bool} {cs : List Char} (h : trimBy p cs ≠ []) :
    ∃ c ∈ trimBy p cs, p c = false := by
  have hne : (cs.dropWhile p).reverse.dropWhile p ≠ [] := fun hnil => h (by rw [trimBy, hnil, List.reverse_nil])
  exact ⟨_, List.mem_reverse.mpr (List.head_mem hne), List.head_dropWhile_not p hne⟩

/-- A trimmed text that is not empty has words. -/
theorem words_ne_nil (h : trim s ≠ "") : words (trim s) ≠ [] := by
  have hne : trimBy isBlank s.toList ≠ [] := fun hnil => h (by rw [trim, hnil])
  obtain ⟨c, hc, hblank⟩ := exists_mem_trimBy hne
  intro hnil
  have hspells := spells_iff.mpr (List.map_eq_nil_iff.mp hnil)
  rw [trim, String.toList_ofList] at hspells
  rw [hspells.forall_of_nil c hc] at hblank
  cases hblank

/-- Texts that are not all empty are not empty when joined. -/
theorem joinWith_ne_empty {separator text : String} {texts : List String} (h : text ≠ "") :
    joinWith separator (text :: texts) ≠ "" := by
  cases texts with
  | nil => rwa [joinWith, String.intercalate_singleton]
  | cons next rest =>
    rw [joinWith, String.intercalate_cons_cons]
    simp [h]

theorem toList_joinWith_words : (joinWith " " (words s)).toList = [' '].intercalate (runsBy isBlank [] s.toList) := by
  rw [joinWith, String.toList_intercalate, words, List.map_map]
  simp [Function.comp_def]

/-- Setting the words of a text apart by single blanks keeps them. -/
theorem words_joinWith_words : words (joinWith " " (words s)) = words s := by
  have hspells : Spells isBlank (runsBy isBlank [] s.toList) (joinWith " " (words s)).toList := by
    rw [toList_joinWith_words]
    exact spells_words.intercalate rfl
  rw [words, spells_iff.mp hspells, words]

/-! ## Texts that are spelt alike -/

/-- Whether two texts differ in the case of ASCII letters only. -/
def SameLetters (cs ds : List Char) : Prop := cs.map Char.toUpper = ds.map Char.toUpper

/-- Whether two texts spell the same words, whatever the case of their ASCII letters and the blanks around them. -/
def SpeltAlike (s t : String) : Prop :=
  ∃ ws vs, Spells isBlank ws s.toList ∧ Spells isBlank vs t.toList ∧ List.Forall₂ SameLetters ws vs

theorem sameLetters_intercalate {sep : List Char} {ws vs : List (List Char)} (h : List.Forall₂ SameLetters ws vs) :
    SameLetters (sep.intercalate ws) (sep.intercalate vs) := by
  induction h with
  | nil => rfl
  | cons hword hrest ih =>
    cases hrest with
    | nil => rwa [List.intercalate_singleton, List.intercalate_singleton]
    | cons _ _ =>
      rw [List.intercalate_cons_cons, List.intercalate_cons_cons]
      unfold SameLetters at *
      rw [List.map_append, List.map_append, List.map_append, List.map_append, hword, ih]

theorem speltAlike_iff :
    SpeltAlike s t ↔ List.Forall₂ SameLetters (runsBy isBlank [] s.toList) (runsBy isBlank [] t.toList) := by
  constructor
  · rintro ⟨ws, vs, hs, ht, hwords⟩
    rwa [spells_iff.mp hs, spells_iff.mp ht]
  · exact fun hwords => ⟨_, _, spells_words, spells_words, hwords⟩

instance : DecidableRel SameLetters := fun cs ds =>
  inferInstanceAs (Decidable (cs.map Char.toUpper = ds.map Char.toUpper))

instance : Decidable (SpeltAlike s t) := decidable_of_iff _ speltAlike_iff.symm

/-- Set apart by single blanks, texts that are spelt alike differ in the case of letters only. -/
theorem SpeltAlike.joined (h : SpeltAlike s t) :
    SameLetters (joinWith " " (words s)).toList (joinWith " " (words t)).toList := by
  rw [toList_joinWith_words, toList_joinWith_words]
  exact sameLetters_intercalate (speltAlike_iff.mp h)

end Words

end PanelQuery.Text
