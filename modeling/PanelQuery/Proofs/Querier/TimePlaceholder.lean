import PanelQuery.Proofs.Text.Splice
import PanelQuery.Querier.TimePlaceholder

/-!
# Bounds of time in statements

The four kinds of slots that a statement may have for the bounds of time (`TimeSlot`) are filled one after the other. In
a statement that is laid out as texts and slots (`layOut`), an occurrence of a placeholder is a bare slot
(`prefix_layOut`), so that each step fills the slots of its kind and no others (`fillIn_layOut`), provided that no bare
slot stands between two quotes (`AreOpen`). In any statement no placeholder is left, since the characters of numbers
cannot be part of one (`substituteTime_complete`).
-/

namespace PanelQuery

/-! ## Slots -/

/-- A bound of a range of time. -/
inductive RangeEnd where
  | start
  | stop
  deriving DecidableEq, Repr

namespace RangeEnd

/-- What stands for the bound in a statement. -/
def placeholder : RangeEnd → List Char
  | start => timeFromPlaceholder.toList
  | stop => timeToPlaceholder.toList

/-- The bound of a range as text. -/
def value (range : TimeRange) : RangeEnd → List Char
  | start => (toString range.start).toList
  | stop => (toString range.stop).toList

end RangeEnd

/-- A slot for a bound, which may be put between single quotes. -/
structure TimeSlot where
  bound : RangeEnd
  isQuoted : Bool
  deriving DecidableEq, Repr

namespace TimeSlot

/-- What stands in a statement that is not filled in. -/
def text (slot : TimeSlot) : List Char :=
  if slot.isQuoted then '\x27' :: (slot.bound.placeholder ++ ['\x27']) else slot.bound.placeholder

/-- What stands in a statement with the slots in `done` filled in. -/
def written (range : TimeRange) (done : List TimeSlot) (slot : TimeSlot) : List Char :=
  if slot ∈ done then slot.bound.value range else slot.text

end TimeSlot

/-! ## Characters -/

section Characters

variable {range : TimeRange} {b b' : RangeEnd} {slot : TimeSlot} {done : List TimeSlot} {c : Char} {w s : List Char}

/-- Whether a character may occur in a number. -/
def isNumeral (c : Char) : Bool := c.isDigit || c == '-'

theorem toList_negSucc (m : Nat) : (toString (Int.negSucc m)).toList = '-' :: m.succ.repr.toList := by
  rw [show toString (Int.negSucc m) = "-" ++ m.succ.repr from rfl, String.toList_append]
  rfl

theorem isNumeral_of_mem_toString {n : Int} (h : c ∈ (toString n).toList) : isNumeral c = true := by
  have hdigits : ∀ m : Nat, c ∈ m.repr.toList → isNumeral c = true := fun m hm => by
    rw [Nat.repr, String.toList_ofList] at hm
    simp [isNumeral, Nat.isDigit_of_mem_toDigits (by decide) (by decide) hm]
  cases n with
  | ofNat m => exact hdigits m h
  | negSucc m =>
    rw [toList_negSucc] at h
    rcases List.mem_cons.mp h with rfl | hmem
    · rfl
    · exact hdigits _ hmem

theorem toString_ne_nil {n : Int} : (toString n).toList ≠ [] := by
  cases n with
  | ofNat m => exact String.toList_ofList.trans_ne Nat.toDigits_ne_nil
  | negSucc m =>
    rw [toList_negSucc]
    exact List.cons_ne_nil _ _

namespace RangeEnd

/-- A bound is written in the characters of numbers. -/
theorem isNumeral_of_mem_value (h : c ∈ b.value range) : isNumeral c = true := by
  cases b <;> exact isNumeral_of_mem_toString h

theorem value_ne_nil : b.value range ≠ [] := by
  cases b <;> exact toString_ne_nil

theorem placeholder_eq_cons (b : RangeEnd) : b.placeholder = '$' :: b.placeholder.tail := by
  cases b <;> rfl

/-- Behind its dollar sign a placeholder has no other, no quote, and no character of a number. -/
theorem of_mem_tail : ∀ c ∈ b.placeholder.tail, c ≠ '$' ∧ c ≠ '\x27' ∧ isNumeral c = false := by
  have hall : (b.placeholder.tail.all fun c => c ≠ '$' ∧ c ≠ '\x27' ∧ isNumeral c = false) = true := by
    cases b <;> decide
  exact fun c hc => of_decide_eq_true (List.all_eq_true.mp hall c hc)

theorem not_mem_placeholder : '\x27' ∉ b.placeholder := by
  cases b <;> decide

theorem placeholder_ne_nil : b.placeholder ≠ [] := by
  cases b <;> decide

/-- No placeholder begins with the other. -/
theorem eq_of_prefix_placeholder (h : b.placeholder <+: b'.placeholder ++ w) : b = b' := by
  cases b <;> cases b'
  · rfl
  · simp [placeholder, timeFromPlaceholder, timeToPlaceholder] at h
  · simp [placeholder, timeFromPlaceholder, timeToPlaceholder] at h
  · rfl

/-- No bound begins with a placeholder, whatever comes behind it. -/
theorem not_placeholder_prefix_value : ¬b.placeholder <+: b'.value range ++ w := by
  intro h
  obtain ⟨c, cs, hvalue⟩ := List.exists_cons_of_ne_nil (show b'.value range ≠ [] from value_ne_nil)
  rw [b.placeholder_eq_cons, hvalue] at h
  obtain ⟨rfl, -⟩ := List.cons_prefix_cons.mp h
  have hnumeral : isNumeral '$' = true := isNumeral_of_mem_value (hvalue ▸ List.mem_cons_self)
  exact absurd hnumeral (by decide)

end RangeEnd

namespace TimeSlot

theorem text_quoted : text ⟨b, true⟩ = '\x27' :: (b.placeholder ++ ['\x27']) := rfl

theorem text_bare : text ⟨b, false⟩ = b.placeholder := rfl

theorem placeholder_infix_text (slot : TimeSlot) : slot.bound.placeholder <:+: slot.text := by
  unfold text
  split
  · exact List.infix_cons (List.prefix_append _ _).isInfix
  · exact List.infix_rfl

theorem text_ne_nil (slot : TimeSlot) : slot.text ≠ [] := by
  obtain ⟨b, isQuoted⟩ := slot
  cases isQuoted
  · exact RangeEnd.placeholder_ne_nil
  · exact List.cons_ne_nil _ _

theorem isNumeral_of_mem_text (h : c ∈ slot.text) : isNumeral c = false := by
  have hall : (slot.text.all fun c => isNumeral c = false) = true := by
    obtain ⟨b, isQuoted⟩ := slot
    cases b <;> cases isQuoted <;> decide
  exact of_decide_eq_true (List.all_eq_true.mp hall c h)

/-- A slot does not begin with a character of a number. -/
theorem isNumeral_of_text_prefix_cons (h : slot.text <+: c :: w) : isNumeral c = false := by
  obtain ⟨d, cs, htext⟩ := List.exists_cons_of_ne_nil slot.text_ne_nil
  rw [htext] at h
  obtain ⟨rfl, -⟩ := List.cons_prefix_cons.mp h
  exact isNumeral_of_mem_text (htext ▸ List.mem_cons_self)

theorem written_of_mem (h : slot ∈ done) : slot.written range done = slot.bound.value range := if_pos h

theorem written_of_not_mem (h : slot ∉ done) : slot.written range done = slot.text := if_neg h

theorem written_ne_nil : slot.written range done ≠ [] := by
  unfold written
  split
  · exact RangeEnd.value_ne_nil
  · exact slot.text_ne_nil

/-- A quote in a slot is one of those around its placeholder. -/
theorem written_of_quote_mem (h : '\x27' ∈ slot.written range done) : slot ∉ done ∧ slot.isQuoted = true := by
  by_cases hdone : slot ∈ done
  · rw [written_of_mem hdone] at h
    exact absurd (RangeEnd.isNumeral_of_mem_value h) (by decide)
  · rw [written_of_not_mem hdone] at h
    obtain ⟨b, isQuoted⟩ := slot
    cases isQuoted
    · exact absurd h RangeEnd.not_mem_placeholder
    · exact ⟨hdone, rfl⟩

/-- No slot begins with another. -/
theorem eq_of_prefix_text {other : TimeSlot} (h : slot.text <+: other.text ++ w) : slot = other := by
  obtain ⟨b, isQuoted⟩ := slot
  obtain ⟨b', isQuoted'⟩ := other
  cases isQuoted <;> cases isQuoted'
  · obtain rfl : b = b' := RangeEnd.eq_of_prefix_placeholder h
    rfl
  · rw [text_bare, b.placeholder_eq_cons] at h
    exact absurd (List.cons_prefix_cons.mp h).1 (by decide)
  · rw [text_bare, b'.placeholder_eq_cons] at h
    exact absurd (List.cons_prefix_cons.mp h).1 (by decide)
  · rw [text_quoted, text_quoted, List.cons_append, List.append_assoc] at h
    obtain rfl : b = b' :=
      RangeEnd.eq_of_prefix_placeholder ((List.prefix_append _ _).trans (List.cons_prefix_cons.mp h).2)
    rfl

/-- Only the whole of a placeholder is an ending of it that begins with its first character. -/
theorem eq_of_suffix_placeholder (h : '$' :: s <:+ b.placeholder) : '$' :: s = b.placeholder := by
  rw [b.placeholder_eq_cons] at h ⊢
  rcases List.suffix_cons_iff.mp h with heq | hs
  · exact heq
  · exact absurd rfl (RangeEnd.of_mem_tail '$' (hs.mem List.mem_cons_self)).1

/-- What follows a quote in a quoted slot is the rest of the slot, or nothing. -/
theorem eq_or_eq_nil_of_suffix_text (h : '\x27' :: s <:+ text ⟨b, true⟩) :
    s = b.placeholder ++ ['\x27'] ∨ s = [] := by
  rw [text_quoted] at h
  rcases List.suffix_cons_iff.mp h with heq | hs
  · exact .inl (List.cons.inj heq).2
  · rcases List.suffix_concat_iff.mp hs with hnil | ⟨t, ht, hsuffix⟩
    · cases hnil
    · cases t with
      | nil => exact .inr (List.cons.inj ht).2
      | cons c t =>
        cases (List.cons.inj ht).1
        exact absurd (hsuffix.mem List.mem_cons_self) RangeEnd.not_mem_placeholder

/-- What stands in a slot does not begin like the rest of a placeholder. -/
theorem not_mem_tail_of_head? (h : c ∈ (slot.written range done).head?) : c ∉ b.placeholder.tail := by
  intro htail
  obtain ⟨hdollar, hquote, hnumeral⟩ := RangeEnd.of_mem_tail c htail
  by_cases hdone : slot ∈ done
  · rw [written_of_mem hdone] at h
    rw [RangeEnd.isNumeral_of_mem_value (List.mem_of_mem_head? h)] at hnumeral
    cases hnumeral
  · rw [written_of_not_mem hdone] at h
    obtain ⟨b', isQuoted⟩ := slot
    cases isQuoted
    · rw [text_bare, b'.placeholder_eq_cons] at h
      exact hdollar (Option.some.inj h).symm
    · exact hquote (Option.some.inj h).symm

end TimeSlot

end Characters

/-! ## Statements -/

/-- Slots, each followed by a text, in a statement. -/
def layOut (write : TimeSlot → List Char) : List (TimeSlot × List Char) → List Char
  | [] => []
  | (slot, text) :: rest => write slot ++ (text ++ layOut write rest)

/-- Whether no placeholder occurs in a text. -/
def LacksPlaceholder (text : List Char) : Prop := ∀ b : RangeEnd, ¬b.placeholder <:+: text

/-- Whether no bare slot stands between two single quotes, with `before` in front of the first slot. -/
def AreOpen (write : TimeSlot → List Char) (before : List Char) : List (TimeSlot × List Char) → Prop
  | [] => True
  | (slot, text) :: rest =>
    (slot.isQuoted = false → before.getLast? = some '\x27' → (text ++ layOut write rest).head? ≠ some '\x27') ∧
      AreOpen write (before ++ write slot ++ text) rest

section Statements

variable {range : TimeRange} {b : RangeEnd} {slot : TimeSlot} {done : List TimeSlot}
  {before front text s : List Char} {rest : List (TimeSlot × List Char)}

theorem not_mem_tail_of_head?_layOut :
    ∀ c ∈ (layOut (TimeSlot.written range done) rest).head?, c ∉ b.placeholder.tail := by
  intro c hc
  cases rest with
  | nil => cases hc
  | cons part rest =>
    rw [layOut, List.head?_append_of_ne_nil _ TimeSlot.written_ne_nil] at hc
    exact TimeSlot.not_mem_tail_of_head? hc

/-- A placeholder that begins within a text, or right behind it, is that of a bare slot behind it. -/
theorem prefix_layOut (htext : LacksPlaceholder text) (hs : s <:+ text)
    (h : b.placeholder <+: s ++ layOut (TimeSlot.written range done) rest) :
    s = [] ∧ ∃ behind others, rest = (⟨b, false⟩, behind) :: others ∧ ⟨b, false⟩ ∉ done := by
  by_cases hne : s = []
  · subst hne
    refine ⟨rfl, ?_⟩
    rw [List.nil_append] at h
    cases rest with
    | nil => exact absurd (List.prefix_nil.mp h) RangeEnd.placeholder_ne_nil
    | cons part others =>
      obtain ⟨⟨b', isQuoted⟩, behind⟩ := part
      rw [layOut] at h
      by_cases hdone : ⟨b', isQuoted⟩ ∈ done
      · rw [TimeSlot.written_of_mem hdone] at h
        exact absurd h RangeEnd.not_placeholder_prefix_value
      · rw [TimeSlot.written_of_not_mem hdone] at h
        cases isQuoted with
        | false =>
          obtain rfl := RangeEnd.eq_of_prefix_placeholder h
          exact ⟨behind, others, rfl, hdone⟩
        | true =>
          rw [TimeSlot.text_quoted, b.placeholder_eq_cons] at h
          exact absurd (List.cons_prefix_cons.mp h).1 (by decide)
  · have hbegins := Text.prefix_of_prefix_append hne not_mem_tail_of_head?_layOut h
    exact absurd (hbegins.isInfix.trans hs.isInfix) (htext b)

/-- A placeholder with a quote behind it does not begin where a quote is in front of it, other than in a slot. -/
theorem not_prefix_of_areOpen (htext : LacksPlaceholder text) (hs : s <:+ text)
    (hbefore : s = [] → before.getLast? = some '\x27') (hopen : AreOpen (TimeSlot.written range done) before rest) :
    ¬b.placeholder ++ ['\x27'] <+: s ++ layOut (TimeSlot.written range done) rest := by
  intro h
  obtain ⟨rfl, behind, others, rfl, hdone⟩ := prefix_layOut htext hs ((List.prefix_append _ _).trans h)
  rw [List.nil_append, layOut, TimeSlot.written_of_not_mem hdone, TimeSlot.text_bare, List.prefix_append_right_inj] at h
  obtain ⟨w, hw⟩ := h
  refine hopen.1 rfl (hbefore rfl) ?_
  rw [← hw]
  rfl

/-- No slot begins within a text between slots. -/
theorem not_prefix_in_text (hfront : LacksPlaceholder front) (hs : s <:+ front) (hne : s ≠ [])
    (hopen : AreOpen (TimeSlot.written range done) (before ++ front) rest) :
    ¬slot.text <+: s ++ layOut (TimeSlot.written range done) rest := by
  obtain ⟨b, isQuoted⟩ := slot
  intro h
  cases isQuoted with
  | false => exact hne (prefix_layOut hfront hs h).1
  | true =>
    obtain ⟨c, s, rfl⟩ := List.exists_cons_of_ne_nil hne
    obtain ⟨rfl, hbehind⟩ := List.cons_prefix_cons.mp h
    refine not_prefix_of_areOpen hfront ((List.suffix_cons _ s).trans hs) (fun hnil => ?_) hopen hbehind
    subst hnil
    obtain ⟨w, rfl⟩ := hs
    rw [← List.append_assoc, List.getLast?_concat]

/-- Within a slot that is filled in, or of another kind, no slot begins. -/
theorem not_prefix_in_slot {other : TimeSlot} (hother : other ∈ done ∨ slot ≠ other)
    (hquoted : slot.isQuoted = false → ∀ b, ⟨b, true⟩ ∈ done) (htext : LacksPlaceholder text)
    (hs : s <:+ other.written range done) (hne : s ≠ [])
    (hopen : AreOpen (TimeSlot.written range done) (before ++ other.written range done ++ text) rest) :
    ¬slot.text <+: s ++ (text ++ layOut (TimeSlot.written range done) rest) := by
  intro h
  obtain ⟨c, s, rfl⟩ := List.exists_cons_of_ne_nil hne
  have hc : c ∈ other.written range done := hs.mem List.mem_cons_self
  have hnumeral : isNumeral c = false := TimeSlot.isNumeral_of_text_prefix_cons h
  have hdone : other ∉ done := by
    intro hdone
    rw [TimeSlot.written_of_mem hdone] at hc
    rw [RangeEnd.isNumeral_of_mem_value hc] at hnumeral
    cases hnumeral
  rw [TimeSlot.written_of_not_mem hdone] at hs hopen
  have hwhole : c :: s ≠ other.text := fun heq =>
    hother.resolve_left hdone (TimeSlot.eq_of_prefix_text (heq ▸ h))
  obtain ⟨b, isQuoted⟩ := slot
  obtain ⟨b', isQuoted'⟩ := other
  cases isQuoted with
  | false =>
    rw [TimeSlot.text_bare, b.placeholder_eq_cons] at h
    obtain ⟨rfl, -⟩ := List.cons_prefix_cons.mp h
    cases isQuoted' with
    | false => exact hwhole (TimeSlot.eq_of_suffix_placeholder hs)
    | true => exact hdone (hquoted rfl b')
  | true =>
    obtain ⟨rfl, hbehind⟩ := List.cons_prefix_cons.mp h
    cases isQuoted' with
    | false => exact RangeEnd.not_mem_placeholder (hs.mem List.mem_cons_self)
    | true =>
      rcases TimeSlot.eq_or_eq_nil_of_suffix_text hs with rfl | rfl
      · exact hwhole rfl
      · refine not_prefix_of_areOpen htext List.suffix_rfl (fun hnil => ?_) hopen hbehind
        rw [hnil, List.append_nil, TimeSlot.text_quoted, ← List.cons_append, ← List.append_assoc, List.getLast?_concat]

/-- Filling the slots of one kind: the quoted ones go first. -/
def fillIn (range : TimeRange) (slot : TimeSlot) (cs : List Char) : List Char :=
  Text.replaced slot.text (slot.bound.value range) cs

/-- One step fills in the slots of its kind, and nothing else. -/
theorem fillIn_layOut (slot : TimeSlot) (hquoted : slot.isQuoted = false → ∀ b, ⟨b, true⟩ ∈ done) :
    ∀ {rest : List (TimeSlot × List Char)} {before front : List Char}, LacksPlaceholder front →
      (∀ part ∈ rest, LacksPlaceholder part.2) → AreOpen (TimeSlot.written range done) (before ++ front) rest →
      fillIn range slot (front ++ layOut (TimeSlot.written range done) rest) =
        front ++ layOut (TimeSlot.written range (slot :: done)) rest
  | [], _, front, hfront, _, hopen => by
    rw [fillIn, Text.replaced_append fun s hs hne => not_prefix_in_text hfront hs hne hopen]
    rfl
  | (other, text) :: rest, before, front, hfront, hrest, hopen => by
    have htext : LacksPlaceholder text := hrest _ List.mem_cons_self
    have ih := fillIn_layOut slot hquoted htext (fun part hpart => hrest part (List.mem_cons_of_mem _ hpart)) hopen.2
    rw [fillIn] at ih ⊢
    rw [Text.replaced_append fun s hs hne => not_prefix_in_text hfront hs hne hopen]
    refine congrArg (front ++ ·) ?_
    rw [layOut, layOut]
    by_cases hslot : other = slot ∧ other ∉ done
    · obtain ⟨rfl, hdone⟩ := hslot
      rw [TimeSlot.written_of_not_mem hdone, Text.replaced_append_self other.text_ne_nil, ih,
        TimeSlot.written_of_mem List.mem_cons_self]
    · have hother : other ∈ done ∨ slot ≠ other := by
        by_cases hdone : other ∈ done
        · exact .inl hdone
        · exact .inr fun heq => hslot ⟨heq.symm, hdone⟩
      have hmem : other ∈ slot :: done ↔ other ∈ done :=
        List.mem_cons.trans (or_iff_right_of_imp fun heq => hother.resolve_right (not_not_intro heq.symm))
      have hsame : other.written range (slot :: done) = other.written range done := by
        simp only [TimeSlot.written, hmem]
      rw [Text.replaced_append fun s hs hne => not_prefix_in_slot hother hquoted htext hs hne hopen.2, ih, hsame]

/-- Filling in slots puts no quotes around bare ones. -/
theorem AreOpen.written : ∀ {rest : List (TimeSlot × List Char)} {before after : List Char},
    (after.getLast? = some '\x27' → before.getLast? = some '\x27') → AreOpen TimeSlot.text before rest →
      AreOpen (TimeSlot.written range done) after rest
  | [], _, _, _, _ => trivial
  | (slot, text) :: rest, before, after, hlast, hopen => by
    refine ⟨fun hbare hafter hhead => hopen.1 hbare (hlast hafter) ?_, hopen.2.written fun h => ?_⟩
    · cases text with
      | cons c text => exact hhead
      | nil =>
        cases rest with
        | nil => exact hhead
        | cons part rest =>
          obtain ⟨next, behind⟩ := part
          rw [List.nil_append, layOut, List.head?_append_of_ne_nil _ TimeSlot.written_ne_nil] at hhead
          rw [List.nil_append, layOut, List.head?_append_of_ne_nil _ next.text_ne_nil]
          have hmem := (TimeSlot.written_of_quote_mem (List.mem_of_mem_head? hhead)).1
          rwa [TimeSlot.written_of_not_mem hmem] at hhead
    · rw [List.getLast?_append] at h ⊢
      cases htext : text.getLast? with
      | some c => rwa [htext] at h
      | none =>
        rw [htext, Option.none_or, List.getLast?_append_of_ne_nil _ TimeSlot.written_ne_nil] at h
        rw [Option.none_or, List.getLast?_append_of_ne_nil _ slot.text_ne_nil]
        have hmem := (TimeSlot.written_of_quote_mem (List.mem_of_mem_getLast? h)).1
        rwa [TimeSlot.written_of_not_mem hmem] at h

end Statements

/-! ## Substitution -/

section Substitution

variable {range : TimeRange} {sql : String}

/-- The slots are filled in one kind after the other, the quoted ones first. -/
theorem toList_substituteTime : (substituteTime sql range).toList =
    fillIn range ⟨.stop, false⟩ (fillIn range ⟨.start, false⟩
      (fillIn range ⟨.stop, true⟩ (fillIn range ⟨.start, true⟩ sql.toList))) := by
  unfold substituteTime
  rw [Text.toList_replaceAll (by decide), Text.toList_replaceAll (by decide), Text.toList_replaceAll (by decide),
    Text.toList_replaceAll (by decide)]
  rfl

/-- A statement without placeholders is left alone. -/
theorem substituteTime_eq_self (h : LacksPlaceholder sql.toList) : substituteTime sql range = sql := by
  have hfill : ∀ slot, fillIn range slot sql.toList = sql.toList := fun slot =>
    Text.replaced_eq_self fun hoccurs => h slot.bound (slot.placeholder_infix_text.trans hoccurs)
  rw [← String.toList_inj, toList_substituteTime, hfill, hfill, hfill, hfill]

/-- Substitution leaves no placeholder, whatever the statement. -/
theorem lacksPlaceholder_substituteTime : LacksPlaceholder (substituteTime sql range).toList := by
  have hdisjoint : ∀ b b' : RangeEnd, ∀ c ∈ b.placeholder, c ∉ b'.value range := fun b b' c hc hvalue => by
    have hnumeral := TimeSlot.isNumeral_of_mem_text (show c ∈ TimeSlot.text ⟨b, false⟩ from hc)
    rw [RangeEnd.isNumeral_of_mem_value hvalue] at hnumeral
    cases hnumeral
  rw [toList_substituteTime]
  intro b h
  cases b with
  | stop => exact Text.not_infix_replaced RangeEnd.placeholder_ne_nil RangeEnd.value_ne_nil (hdisjoint _ _) h
  | start =>
    have hoccurs := Text.infix_of_infix_replaced (TimeSlot.text_ne_nil _) RangeEnd.value_ne_nil
      RangeEnd.placeholder_ne_nil (hdisjoint _ _) h
    exact Text.not_infix_replaced RangeEnd.placeholder_ne_nil RangeEnd.value_ne_nil (hdisjoint _ _) hoccurs

/-- In a statement of slots, each slot is filled in and nothing else is changed. -/
theorem substituteTime_layOut {front : List Char} {rest : List (TimeSlot × List Char)} (hfront : LacksPlaceholder front)
    (hrest : ∀ part ∈ rest, LacksPlaceholder part.2) (hopen : AreOpen TimeSlot.text front rest) :
    substituteTime (String.ofList (front ++ layOut TimeSlot.text rest)) range =
      String.ofList (front ++ layOut (fun slot => slot.bound.value range) rest) := by
  have hnone : TimeSlot.text = TimeSlot.written range [] :=
    funext fun slot => (TimeSlot.written_of_not_mem List.not_mem_nil).symm
  have hall : (fun slot => slot.bound.value range) =
      TimeSlot.written range [⟨.stop, false⟩, ⟨.start, false⟩, ⟨.stop, true⟩, ⟨.start, true⟩] := by
    funext slot
    obtain ⟨b, isQuoted⟩ := slot
    cases b <;> cases isQuoted <;> exact (TimeSlot.written_of_mem (by decide)).symm
  have hopen' : ∀ done, AreOpen (TimeSlot.written range done) ([] ++ front) rest := fun done => hopen.written id
  rw [← String.toList_inj, toList_substituteTime, String.toList_ofList, String.toList_ofList, hall, hnone,
    fillIn_layOut ⟨.start, true⟩ nofun hfront hrest (hopen' _),
    fillIn_layOut ⟨.stop, true⟩ nofun hfront hrest (hopen' _),
    fillIn_layOut ⟨.start, false⟩ (fun _ b => by cases b <;> decide) hfront hrest (hopen' _),
    fillIn_layOut ⟨.stop, false⟩ (fun _ b => by cases b <;> decide) hfront hrest (hopen' _)]

/-- **Substitution of time.** No placeholder is left, and there is nothing to do a second time. In a statement that is
laid out as texts without placeholders, and slots of which no bare one stands between two quotes, every slot gets its
bound, and the texts are as they were. -/
theorem substituteTime_complete (sql : String) (range : TimeRange) :
    (∀ b : RangeEnd, Text.occursIn b.placeholder (substituteTime sql range).toList = false) ∧
    (∀ other, substituteTime (substituteTime sql range) other = substituteTime sql range) ∧
    ∀ front rest, LacksPlaceholder front → (∀ part ∈ rest, LacksPlaceholder part.2) → AreOpen TimeSlot.text front rest →
      sql = String.ofList (front ++ layOut TimeSlot.text rest) →
      substituteTime sql range = String.ofList (front ++ layOut (fun slot => slot.bound.value range) rest) := by
  refine ⟨fun b => ?_, fun other => substituteTime_eq_self lacksPlaceholder_substituteTime, ?_⟩
  · exact Bool.eq_false_iff.mpr fun h => lacksPlaceholder_substituteTime b (Text.occursIn_iff.mp h)
  · rintro front rest hfront hrest hopen rfl
    exact substituteTime_layOut hfront hrest hopen

/-- Quoted slots side by side, bare ones with a quote on one side, half a placeholder, and a bound below zero. -/
theorem substituteTime_complete_adjacent :
    let range : TimeRange := ⟨-5, 10⟩
    let front := "time >= '".toList
    let rest : List (TimeSlot × List Char) :=
      [(⟨.start, false⟩, " AND x = ".toList), (⟨.stop, true⟩, []), (⟨.start, true⟩, "' $\x7b__to".toList),
        (⟨.stop, false⟩, "'".toList)]
    let sql := "time >= '$\x7b__from:date:seconds\x7d AND x = '$\x7b__to:date:seconds\x7d'" ++
      "'$\x7b__from:date:seconds\x7d'' $\x7b__to$\x7b__to:date:seconds\x7d'"
    LacksPlaceholder front ∧ (∀ part ∈ rest, LacksPlaceholder part.2) ∧ AreOpen TimeSlot.text front rest ∧
      sql = String.ofList (front ++ layOut TimeSlot.text rest) ∧
      substituteTime sql range = "time >= '-5 AND x = 10-5' $\x7b__to10'" := by
  intro range front rest sql
  have hfront : LacksPlaceholder front := fun b => by cases b <;> decide
  have hrest : ∀ part ∈ rest, LacksPlaceholder part.2 := by
    have hall : ∀ b : RangeEnd, ∀ part ∈ rest, ¬b.placeholder <:+: part.2 := fun b => by cases b <;> decide
    exact fun part hpart b => hall b part hpart
  have hopen : AreOpen TimeSlot.text front rest := by
    refine ⟨?_, ?_, ?_, ?_, trivial⟩ <;> decide
  have hsql : sql = String.ofList (front ++ layOut TimeSlot.text rest) := by decide
  exact ⟨hfront, hrest, hopen, hsql,
    ((substituteTime_complete sql range).2.2 front rest hfront hrest hopen hsql).trans (by decide)⟩

end Substitution

end PanelQuery
