import PanelQuery.Form.Row
import PanelQuery.Proofs.Text.Splice
import PanelQuery.Proofs.Text.Words

/-!
# Operators as they are read

An operator is read from the words of a text. So the operator of a row, which is not blank, has a text
(`Row.text_ne_empty_of_operator?`).

The text of an operator is canonical: it is read as that operator. Texts that are spelt alike are read as operators
that no predicate tells apart (`Operator.Alike`), and as the same one if that is known (`Operator.read_canonical`).
-/

namespace PanelQuery

/-! ## Reading -/

namespace Operator

variable {raw raw' text text' : String} {a b op : Operator}

/-- The words of a text with single blanks between them. -/
def spaced (raw : String) : String := Text.joinWith " " (Text.words raw)

theorem spaced_spaced : spaced (spaced raw) = spaced raw := by
  rw [spaced, spaced, Text.words_joinWith_words]

theorem spaced_ne_empty (h : Text.words raw ≠ []) : spaced raw ≠ "" := by
  obtain ⟨word, rest, hwords⟩ := List.exists_cons_of_ne_nil h
  have hword : word ≠ "" := Text.ne_empty_of_mem_words (s := raw) (by rw [hwords]; exact List.mem_cons_self)
  rw [spaced, hwords]
  exact Text.joinWith_ne_empty hword

theorem read_eq : read raw = (known? (upper (spaced raw))).getD (other (spaced raw)) := rfl

theorem read_of_known? (h : known? (upper (spaced raw)) = some op) : read raw = op := by
  rw [read_eq, h, Option.getD_some]

theorem read_of_known?_eq_none (h : known? (upper (spaced raw)) = none) : read raw = other (spaced raw) := by
  rw [read_eq, h, Option.getD_none]

/-- Only the words of a text are read. -/
theorem read_spaced : read (spaced raw) = read raw := by
  rw [read_eq, spaced_spaced, ← read_eq]

theorem isKnown_of_known? (h : known? text = some op) : op.isKnown = true := by
  unfold known? at h
  split at h <;> cases h <;> rfl

theorem text_ne_empty_of_isKnown (h : op.isKnown = true) : op.text ≠ "" := by
  cases op with
  | other text => cases h
  | _ => decide

/-- The operator that a text with words stands for has a text. -/
theorem text_read_ne_empty (h : Text.words raw ≠ []) : (read raw).text ≠ "" := by
  cases hknown : known? (upper (spaced raw)) with
  | some op =>
    rw [read_of_known? hknown]
    exact text_ne_empty_of_isKnown (isKnown_of_known? hknown)
  | none =>
    rw [read_of_known?_eq_none hknown]
    exact spaced_ne_empty h

/-- A known operator is read from its text. -/
theorem read_text_of_isKnown (h : op.isKnown = true) : read op.text = op := by
  cases op with
  | other text => cases h
  | _ => rfl

/-- The operator that is read from a text is read from its own text, too. -/
theorem read_text_read : read (read raw).text = read raw := by
  cases hknown : known? (upper (spaced raw)) with
  | some op =>
    rw [read_of_known? hknown]
    exact read_text_of_isKnown (isKnown_of_known? hknown)
  | none =>
    rw [read_of_known?_eq_none hknown]
    exact read_spaced.trans (read_of_known?_eq_none hknown)

/-! ## Operators that are spelt alike -/

/-- Whether two operators are told apart by none of the predicates. -/
structure Alike (a b : Operator) : Prop where
  class_eq : a.class? = b.class?
  negated_eq : a.isNegated = b.isNegated
  like_eq : a.isLike = b.isLike
  matchesText_eq : a.matchesText = b.matchesText
  matchesIds_eq : a.matchesIds = b.matchesIds

theorem Alike.refl : Alike a a := ⟨rfl, rfl, rfl, rfl, rfl⟩

/-- No letter becomes an exclamation mark. -/
theorem toUpper_eq_mark_iff {c : Char} : c.toUpper = '!' ↔ c = '!' := by
  constructor
  · intro h
    unfold Char.toUpper at h
    split at h
    · next hlower =>
      have hcode := congrArg (fun d => d.val.toNat) h
      simp only [UInt32.toNat_add, UInt32.toNat_sub] at hcode
      have hfirst : 97 ≤ c.val.toNat := hlower.1
      have hlast : c.val.toNat ≤ 122 := hlower.2
      change (c.val.toNat + (2 ^ 32 - 97 + 65) % 2 ^ 32) % 2 ^ 32 = 33 at hcode
      omega
    · exact h
  · rintro rfl
    decide

theorem contains_upper_mark : Text.contains (upper text) "!" = Text.contains text "!" := by
  have hmark : ∀ cs : List Char, Text.occursIn "!".toList cs = true ↔ '!' ∈ cs := fun cs =>
    Text.occursIn_iff.trans (List.singleton_infix_iff '!' cs)
  rw [Bool.eq_iff_iff, Text.contains, Text.contains, hmark, hmark, upper, String.toList_ofList, List.mem_map]
  constructor
  · rintro ⟨c, hc, hupper⟩
    rwa [← toUpper_eq_mark_iff.mp hupper]
  · exact fun hmem => ⟨'!', hmem, toUpper_eq_mark_iff.mpr rfl⟩

/-- Unknown texts that differ in case only negate alike. -/
theorem alike_other (h : upper text = upper text') : (other text).Alike (other text') where
  class_eq := rfl
  negated_eq := by
    rw [isNegated, isNegated, h, ← contains_upper_mark, h, contains_upper_mark]
  like_eq := rfl
  matchesText_eq := rfl
  matchesIds_eq := rfl

theorem upper_spaced_eq (h : Text.SpeltAlike raw raw') : upper (spaced raw) = upper (spaced raw') :=
  congrArg String.ofList h.joined

/-- **The text of an operator is canonical.** It is read as the operator that it is the text of. Two texts that are
spelt alike are read as operators that no predicate tells apart, and as the same operator if one of them is known. -/
theorem read_canonical (raw : String) :
    read (read raw).text = read raw ∧
    ∀ raw', Text.SpeltAlike raw raw' → (read raw).Alike (read raw') ∧
      ((read raw).isKnown = true ∨ (read raw').isKnown = true → read raw = read raw') := by
  refine ⟨read_text_read, fun raw' halike => ?_⟩
  have hupper : upper (spaced raw) = upper (spaced raw') := upper_spaced_eq halike
  cases hknown : known? (upper (spaced raw)) with
  | some op =>
    have hsame : read raw = read raw' := (read_of_known? hknown).trans (read_of_known? (hupper ▸ hknown)).symm
    rw [hsame]
    exact ⟨.refl, fun _ => rfl⟩
  | none =>
    rw [read_of_known?_eq_none hknown, read_of_known?_eq_none (hupper ▸ hknown)]
    refine ⟨alike_other hupper, fun hsome => ?_⟩
    rcases hsome with hfirst | hsecond
    · cases hfirst
    · cases hsecond

/-- A known operator between wide blanks, and an unknown one whose text negates. -/
theorem read_canonical_not_like :
    (Text.SpeltAlike "not\u3000Like " "NOT LIKE" ∧ (read "NOT LIKE").isKnown = true ∧
      read "not\u3000Like " = read "NOT LIKE") ∧
    Text.SpeltAlike "sounds  not like" "SOUNDS Not\tlike" ∧
      (read "sounds  not like").Alike (read "SOUNDS Not\tlike") := by
  have hknown : Text.SpeltAlike "not\u3000Like " "NOT LIKE" := by decide
  have hunknown : Text.SpeltAlike "sounds  not like" "SOUNDS Not\tlike" := by decide
  exact ⟨⟨hknown, rfl, ((read_canonical _).2 _ hknown).2 (.inr rfl)⟩, hunknown, ((read_canonical _).2 _ hunknown).1⟩

end Operator

/-- An operator of a row that is not blank has a text. -/
theorem Row.text_ne_empty_of_operator? {r : Row} {op : Operator} (h : r.operator? = some op) : op.text ≠ "" := by
  unfold Row.operator? at h
  simp only [Option.ite_none_left_eq_some, Option.some.injEq] at h
  obtain ⟨hblank, rfl⟩ := h
  have hne : Text.trim r.op ≠ "" := by simpa using hblank
  exact Operator.text_read_ne_empty (Text.words_ne_nil hne)

end PanelQuery
