import Mathlib.Data.List.Infix
import PanelQuery.Text.Search

/-!
# Splicing and replacing

A text is spliced piece by piece: a piece in which nothing is recognised is copied (`splice_of_isCopied`), a part gives
its replacement (`splice_of_part`), and where the parts of a piece do not depend on what follows it, the text may be cut
behind the piece (`splice_append`).

Replacing a pattern is splicing at its occurrences. If the replacement has no character in common with the pattern, no
occurrence is left (`not_infix_replaced`); and no other pattern of that kind comes to occur (`infix_of_infix_replaced`).
-/

namespace PanelQuery.Text

/-! ## Splicing -/

section Splicing

variable {part? : List Char → Option (List Char × Nat)} {u w r : List Char} {c : Char}

/-- Whether nothing is recognised within `u`, with `w` behind it. -/
def IsCopied (part? : List Char → Option (List Char × Nat)) (u w : List Char) : Prop :=
  ∀ s, s <:+ u → s ≠ [] → part? (s ++ w) = none

/-- Whether all parts within `u` end there and are the same without `w` behind them. -/
structure IsCut (part? : List Char → Option (List Char × Nat)) (u w : List Char) : Prop where
  same : ∀ s, s <:+ u → s ≠ [] → part? (s ++ w) = part? s
  fits : ∀ s r n, s <:+ u → part? s = some (r, n) → n ≤ s.length

theorem IsCopied.tail (h : IsCopied part? (c :: u) w) : IsCopied part? u w :=
  fun s hs => h s (hs.trans (List.suffix_cons c u))

theorem IsCut.tail (h : IsCut part? (c :: u) w) : IsCut part? u w where
  same s hs := h.same s (hs.trans (List.suffix_cons c u))
  fits s r n hs := h.fits s r n (hs.trans (List.suffix_cons c u))

theorem splice_skip : ∀ (n : Nat) (cs : List Char), splice part? n cs = splice part? 0 (cs.drop n)
  | 0, _ => rfl
  | n + 1, [] => by simp [splice]
  | n + 1, _ :: cs => by rw [splice, splice_skip n cs, List.drop_succ_cons]

/-- A part at the front gives its replacement. -/
theorem splice_of_part (hu : u ≠ []) (h : part? (u ++ w) = some (r, u.length)) :
    splice part? 0 (u ++ w) = r ++ splice part? 0 w := by
  cases u with
  | nil => exact absurd rfl hu
  | cons c u =>
    rw [List.cons_append] at h ⊢
    simp only [splice, h]
    rw [splice_skip, List.length_cons, Nat.add_sub_cancel, List.drop_left]

theorem splice_of_isCopied : ∀ {u : List Char}, IsCopied part? u w →
    splice part? 0 (u ++ w) = u ++ splice part? 0 w
  | [], _ => rfl
  | c :: u, h => by
    have hnone := h (c :: u) List.suffix_rfl (List.cons_ne_nil c u)
    rw [List.cons_append] at hnone ⊢
    simp only [splice, hnone]
    rw [splice_of_isCopied h.tail, List.cons_append]

/-- A text in which nothing is recognised stays as it is. -/
theorem splice_eq_self (h : IsCopied part? u []) : splice part? 0 u = u := by
  have hcopied := splice_of_isCopied h
  rwa [List.append_nil, splice, List.append_nil] at hcopied

/-- A text stays as it is where each part gives itself. -/
theorem splice_eq_self_of_parts (h : ∀ s r n, part? s = some (r, n) → r ≠ [] ∧ n = r.length ∧ r <+: s) :
    ∀ cs : List Char, splice part? 0 cs = cs
  | [] => rfl
  | c :: cs => by
    cases hpart : part? (c :: cs) with
    | none =>
      simp only [splice, hpart]
      rw [splice_eq_self_of_parts h cs]
    | some part =>
      obtain ⟨hne, hlength, rest, hrest⟩ := h (c :: cs) part.1 part.2 hpart
      have hshorter : rest.length < (c :: cs).length := by
        have := List.length_pos_iff.mpr hne
        rw [← hrest, List.length_append]
        omega
      rw [← hrest] at hpart ⊢
      rw [splice_of_part hne (hpart.trans (by rw [← hlength])), splice_eq_self_of_parts h rest]
termination_by cs => cs.length
decreasing_by
  · exact Nat.lt_succ_self _
  · exact hshorter

/-- Splicing after a cut, also where the reader is `n` characters before the end of a part. -/
theorem splice_append_skip : ∀ {u : List Char} {n : Nat}, IsCut part? u w → n ≤ u.length →
    splice part? n (u ++ w) = splice part? n u ++ splice part? 0 w
  | [], 0, _, _ => rfl
  | c :: u, n + 1, h, hn => by
    rw [List.cons_append, splice, splice, splice_append_skip h.tail (Nat.le_of_succ_le_succ hn)]
  | c :: u, 0, h, _ => by
    have hsame := h.same (c :: u) List.suffix_rfl (List.cons_ne_nil c u)
    rw [List.cons_append] at hsame ⊢
    simp only [splice, hsame]
    cases hpart : part? (c :: u) with
    | none =>
      dsimp only
      rw [splice_append_skip h.tail (Nat.zero_le _), List.cons_append]
    | some part =>
      have hfits : part.2 ≤ u.length + 1 := h.fits (c :: u) part.1 part.2 List.suffix_rfl hpart
      dsimp only
      rw [splice_append_skip h.tail (Nat.sub_le_of_le_add hfits), List.append_assoc]

/-- A text is spliced in two pieces, if no part reaches over the cut. -/
theorem splice_append (h : IsCut part? u w) : splice part? 0 (u ++ w) = splice part? 0 u ++ splice part? 0 w :=
  splice_append_skip h (Nat.zero_le _)

end Splicing

/-! ## Occurrences -/

section Occurrences

variable {p r u w : List Char}

theorem occursIn_iff : ∀ {cs : List Char}, occursIn p cs = true ↔ p <:+: cs
  | [] => by simp [occursIn]
  | c :: cs => by
    rw [occursIn, Bool.or_eq_true, List.isPrefixOf_iff_prefix, occursIn_iff, List.infix_cons_iff]

/-- An occurrence that begins within `u` and whose later characters are not the next one ends within `u`. -/
theorem prefix_of_prefix_append (hu : u ≠ []) (hw : ∀ c ∈ w.head?, c ∉ p.tail) (h : p <+: u ++ w) : p <+: u := by
  rcases List.prefix_or_prefix_of_prefix h (List.prefix_append u w) with hpu | ⟨s, rfl⟩
  · exact hpu
  · cases u with
    | nil => exact absurd rfl hu
    | cons c u =>
      cases s with
      | nil => exact by rw [List.append_nil]
      | cons d s =>
        -- what the occurrence still lacks behind `u` begins with the next character
        obtain ⟨w', rfl⟩ := (List.prefix_append_right_inj _).mp h
        exact absurd (List.mem_append_right u List.mem_cons_self) (hw d rfl)

theorem eq_nil_of_prefix_cons {c : Char} (hc : c ∉ p) (h : p <+: c :: w) : p = [] := by
  rcases List.prefix_cons_iff.mp h with rfl | ⟨t, rfl, -⟩
  · rfl
  · exact absurd List.mem_cons_self hc

theorem infix_of_infix_append (hp : p ≠ []) (hr : ∀ c ∈ p, c ∉ r) (h : p <:+: r ++ w) : p <:+: w := by
  induction r with
  | nil => exact h
  | cons d r ih =>
    rw [List.cons_append] at h
    rcases List.infix_cons_iff.mp h with hbegins | hoccurs
    · exact absurd (eq_nil_of_prefix_cons (fun hd => hr d hd List.mem_cons_self) hbegins) hp
    · exact ih (fun c hc hmem => hr c hc (List.mem_cons_of_mem d hmem)) hoccurs

/-- An occurrence does not reach over a character that the pattern lacks. -/
theorem infix_append_cons_iff {c : Char} (hc : c ∉ p) : p <:+: u ++ c :: w ↔ p <:+: u ∨ p <:+: w := by
  constructor
  · intro h
    rcases List.infix_append_iff.mp h with hu | hw | ⟨front, rest, rfl, hfront, hrest⟩
    · exact .inl hu
    · rcases List.infix_cons_iff.mp hw with hbegins | hw
      · rw [eq_nil_of_prefix_cons hc hbegins]
        exact .inl List.nil_infix
      · exact .inr hw
    · have hnil := eq_nil_of_prefix_cons (fun hmem => hc (List.mem_append_right front hmem)) hrest
      rw [hnil, List.append_nil]
      exact .inl hfront.isInfix
  · rintro (hu | hw)
    · exact hu.trans (List.prefix_append u (c :: w)).isInfix
    · exact (hw.trans (List.suffix_cons c w).isInfix).trans (List.suffix_append u (c :: w)).isInfix

/-! ## Replacing -/

theorem occurrence?_eq_none_iff {cs : List Char} : occurrence? p r cs = none ↔ ¬p <+: cs := by
  simp [occurrence?, List.isPrefixOf_iff_prefix]

theorem occurrence?_append_self : occurrence? p r (p ++ w) = some (r, p.length) :=
  if_pos <| List.isPrefixOf_iff_prefix.mpr (List.prefix_append p w)

/-- A text with the occurrences of a pattern replaced. -/
def replaced (p r cs : List Char) : List Char := splice (occurrence? p r) 0 cs

theorem toList_replaceAll {text pattern replacement : String} (h : pattern ≠ "") :
    (replaceAll text pattern replacement).toList = replaced pattern.toList replacement.toList text.toList := by
  have hempty : pattern.isEmpty = false := by simpa using h
  simp [replaceAll, replaced, hempty]

theorem replaced_append_self (hp : p ≠ []) : replaced p r (p ++ w) = r ++ replaced p r w :=
  splice_of_part hp occurrence?_append_self

/-- A piece in which no occurrence begins is copied. -/
theorem replaced_append (h : ∀ s, s <:+ u → s ≠ [] → ¬p <+: s ++ w) : replaced p r (u ++ w) = u ++ replaced p r w :=
  splice_of_isCopied fun s hs hne => occurrence?_eq_none_iff.mpr (h s hs hne)

theorem replaced_cons {c : Char} {cs : List Char} (h : ¬p <+: c :: cs) :
    replaced p r (c :: cs) = c :: replaced p r cs := by
  refine replaced_append (u := [c]) fun s hs hne => ?_
  rcases List.suffix_cons_iff.mp hs with rfl | hs
  · exact h
  · exact absurd (List.suffix_nil.mp hs) hne

theorem replaced_eq_self (h : ¬p <:+: u) : replaced p r u = u := by
  refine splice_eq_self fun s hs _ => occurrence?_eq_none_iff.mpr fun hbegins => h ?_
  rw [List.append_nil] at hbegins
  exact hbegins.isInfix.trans hs.isInfix

end Occurrences

/-! ## Replacements of other characters -/

section Disjoint

variable {p r : List Char}

/-- What a text with replacements begins with, the text began with, if the replacement is of other characters. -/
theorem prefix_of_prefix_replaced (hp : p ≠ []) (hr : r ≠ []) : ∀ {q cs : List Char}, (∀ c ∈ q, c ∉ r) →
    q <+: replaced p r cs → q <+: cs
  | [], _, _, _ => List.nil_prefix
  | d :: q, [], _, h => h
  | d :: q, c :: cs, hq, h => by
    by_cases hbegins : p <+: c :: cs
    · -- the replacement would have to begin with the first character of `q`
      obtain ⟨w, hw⟩ := hbegins
      obtain ⟨e, r, rfl⟩ := List.exists_cons_of_ne_nil hr
      rw [← hw, replaced_append_self hp] at h
      obtain ⟨rfl, -⟩ := List.cons_prefix_cons.mp h
      exact absurd List.mem_cons_self (hq d List.mem_cons_self)
    · rw [replaced_cons hbegins] at h
      obtain ⟨rfl, hrest⟩ := List.cons_prefix_cons.mp h
      refine List.cons_prefix_cons.mpr ⟨rfl, ?_⟩
      exact prefix_of_prefix_replaced hp hr (fun c hc => hq c (List.mem_cons_of_mem d hc)) hrest

/-- What occurs in a text with replacements, occurs in the text where the pattern does not. -/
theorem exists_suffix_of_infix_replaced (hp : p ≠ []) (hr : r ≠ []) {q : List Char} (hq : q ≠ [])
    (hdisjoint : ∀ c ∈ q, c ∉ r) : ∀ {cs : List Char}, q <:+: replaced p r cs → ∃ s, s <:+ cs ∧ q <+: s ∧ ¬p <+: s
  | [], h => absurd (List.infix_nil.mp h) hq
  | c :: cs, h => by
    by_cases hbegins : p <+: c :: cs
    · obtain ⟨w, hw⟩ := hbegins
      have hlength : w.length < (c :: cs).length := by
        have := List.length_pos_iff.mpr hp
        rw [← hw, List.length_append]
        omega
      rw [← hw, replaced_append_self hp] at h
      obtain ⟨s, hs, hfound⟩ :=
        exists_suffix_of_infix_replaced hp hr hq hdisjoint (infix_of_infix_append hq hdisjoint h)
      exact ⟨s, hw ▸ List.suffix_append_of_suffix hs, hfound⟩
    · have hfront : q <+: replaced p r (c :: cs) → q <+: c :: cs := prefix_of_prefix_replaced hp hr hdisjoint
      rw [replaced_cons hbegins] at h hfront
      rcases List.infix_cons_iff.mp h with hq | hoccurs
      · exact ⟨c :: cs, List.suffix_rfl, hfront hq, hbegins⟩
      · obtain ⟨s, hs, hfound⟩ := exists_suffix_of_infix_replaced hp hr hq hdisjoint hoccurs
        exact ⟨s, hs.trans (List.suffix_cons c cs), hfound⟩
termination_by cs => cs.length
decreasing_by
  · exact hlength
  · exact Nat.lt_succ_self _

variable {cs : List Char}

/-- No occurrence is left. -/
theorem not_infix_replaced (hp : p ≠ []) (hr : r ≠ []) (hdisjoint : ∀ c ∈ p, c ∉ r) : ¬p <:+: replaced p r cs := by
  intro h
  obtain ⟨s, -, hs, hnot⟩ := exists_suffix_of_infix_replaced hp hr hp hdisjoint h
  exact hnot hs

/-- Nothing comes to occur that has no character in common with the replacement. -/
theorem infix_of_infix_replaced (hp : p ≠ []) (hr : r ≠ []) {q : List Char} (hq : q ≠ [])
    (hdisjoint : ∀ c ∈ q, c ∉ r) (h : q <:+: replaced p r cs) : q <:+: cs := by
  obtain ⟨s, hs, hbegins, -⟩ := exists_suffix_of_infix_replaced hp hr hq hdisjoint h
  exact hbegins.isInfix.trans hs.isInfix

end Disjoint

end PanelQuery.Text
