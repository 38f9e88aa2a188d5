import Mathlib.Data.List.TakeWhile
import PanelQuery.Proofs.Text.Splice
import PanelQuery.Variable.Interpolate

/-!
# Variables in text, piece by piece

A text in which all braces are closed (`Text.ClosesBraces`) is interpolated by itself, whatever reference follows it
(`Text.ClosesBraces.isCut`), and a reference to a name with a value is replaced by that value
(`VarContext.interpolate_braced`). Together they make interpolation compositional
(`VarContext.interpolate_reference`): a value is copied, whatever is in it, and not read again.
-/

namespace PanelQuery

/-! ## Names behind a dollar sign -/

section Names

variable {cs braced inner w : List Char} {c : Char}

/-- What is read up to a character that does not occur in it. -/
theorem takeWhile_ne_append (h : c ∉ inner) : (inner ++ c :: w).takeWhile (· != c) = inner := by
  have hall : ∀ d ∈ inner, (d != c) = true := fun d hd => bne_iff_ne.mpr fun heq : d = c => h (heq ▸ hd)
  rw [List.takeWhile_append_of_pos hall, List.takeWhile_cons_of_neg (by simp), List.append_nil]

theorem leadingName?_braced (h : '\x7d' ∉ inner) :
    leadingName? ('\x7b' :: (inner ++ '\x7d' :: w)) = some (beforeColon inner, inner.length + 2) := by
  have hinner : (inner ++ '\x7d' :: w).takeWhile (· != '\x7d') = inner := takeWhile_ne_append h
  have hlength : inner.length < (inner ++ '\x7d' :: w).length := by simp
  rw [leadingName?, hinner]
  exact if_pos hlength

theorem leadingName?_of_ne (h : ∀ braced, cs ≠ '\x7b' :: braced) :
    leadingName? cs = some (cs.takeWhile isNameChar, (cs.takeWhile isNameChar).length) := by
  unfold leadingName?
  split
  · next braced => exact absurd rfl (h braced)
  · rfl

/-- A name ends where its text does. -/
theorem length_le_of_leadingName? {name : List Char} {length : Nat} (h : leadingName? cs = some (name, length)) :
    length ≤ cs.length := by
  unfold leadingName? at h
  split at h
  · next braced =>
    obtain ⟨hclosed, heq⟩ := Option.ite_none_right_eq_some.mp h
    cases heq
    rw [List.length_cons]
    omega
  · cases h
    have hname : cs.takeWhile isNameChar <+: cs := List.takeWhile_prefix isNameChar
    exact hname.length_le

/-- A name is the same with another reference behind it, if its braces are closed. -/
theorem leadingName?_append (h : ∀ braced, cs = '\x7b' :: braced → '\x7d' ∈ braced) :
    leadingName? (cs ++ '$' :: w) = leadingName? cs := by
  by_cases hbraced : ∃ braced, cs = '\x7b' :: braced
  · obtain ⟨braced, rfl⟩ := hbraced
    obtain ⟨inner, rest, rfl, hinner⟩ := List.eq_append_cons_of_mem (h braced rfl)
    rw [List.cons_append, List.append_assoc, List.cons_append, leadingName?_braced hinner, leadingName?_braced hinner]
  · -- a dollar sign is no character of a name
    have hstop : ('$' :: w).takeWhile isNameChar = [] := List.takeWhile_cons_of_neg (by decide)
    have hname : (cs ++ '$' :: w).takeWhile isNameChar = cs.takeWhile isNameChar := by
      have htake : cs.takeWhile isNameChar <+: cs := List.takeWhile_prefix isNameChar
      rw [List.takeWhile_append, hstop, List.append_nil]
      split
      · next hlength => exact (htake.eq_of_length hlength).symm
      · rfl
    have hbehind : ∀ braced, cs ++ '$' :: w ≠ '\x7b' :: braced := by
      cases cs with
      | nil => simp
      | cons c cs => exact fun braced heq => hbraced ⟨cs, by rw [(List.cons.inj heq).1]⟩
    rw [leadingName?_of_ne hbehind, leadingName?_of_ne (not_exists.mp hbraced), hname]

end Names

/-! ## References -/

section References

variable {value? : String → Option String} {u inner w : List Char}

/-- Whether every brace that is opened behind a dollar sign is closed. -/
def Text.ClosesBraces (cs : List Char) : Prop := ∀ s, s <:+ cs → ['$', '\x7b'] <+: s → '\x7d' ∈ s

instance {cs : List Char} : Decidable (Text.ClosesBraces cs) :=
  decidable_of_iff (∀ s ∈ cs.tails, ['$', '\x7b'] <+: s → '\x7d' ∈ s) (by simp [Text.ClosesBraces])

/-- References end in a text that closes its braces, if another one follows it. -/
theorem Text.ClosesBraces.isCut (h : Text.ClosesBraces u) : Text.IsCut (referencePart? value?) u ('$' :: w) where
  same s hs hne := by
    cases s with
    | nil => exact absurd rfl hne
    | cons c cs =>
      by_cases hc : c = '$'
      · subst hc
        have hname : leadingName? (cs ++ '$' :: w) = leadingName? cs := by
          refine leadingName?_append fun braced hbraced => ?_
          subst hbraced
          simpa using h _ hs (by simp)
        rw [List.cons_append, referencePart?, referencePart?, hname]
      · rw [List.cons_append]
        unfold referencePart?
        split
        · next heq => exact absurd (List.cons.inj heq).1 hc
        · split
          · next heq => exact absurd (List.cons.inj heq).1 hc
          · rfl
  fits s r n hs hpart := by
    unfold referencePart? at hpart
    split at hpart
    · next cs =>
      obtain ⟨⟨name, length⟩, hname, hpart⟩ := Option.bind_eq_some_iff.mp hpart
      obtain ⟨value, -, hpart⟩ := Option.bind_eq_some_iff.mp hpart
      cases hpart
      exact Nat.succ_le_succ (length_le_of_leadingName? hname)
    · cases hpart

/-- A reference in braces is recognised up to the first brace that closes. -/
theorem referencePart?_braced {value : String} (hinner : '\x7d' ∉ inner)
    (hvalue : value? (String.ofList (beforeColon inner)) = some value) :
    referencePart? value? ('$' :: '\x7b' :: (inner ++ '\x7d' :: w)) = some (value.toList, inner.length + 3) := by
  rw [referencePart?, leadingName?_braced hinner]
  simp [hvalue]

end References

namespace VarContext

variable {ctx : VarContext} {front back value : String}

theorem toList_interpolate (text : String) :
    (ctx.interpolate text).toList = Text.splice (referencePart? ctx.joined?) 0 text.toList :=
  String.toList_ofList

/-- A reference in braces gives its value, between the texts around it. -/
theorem interpolate_braced {inner : String} (hfront : Text.ClosesBraces front.toList) (hinner : '\x7d' ∉ inner.toList)
    (hvalue : ctx.joined? (String.ofList (beforeColon inner.toList)) = some value) :
    ctx.interpolate (front ++ "$\x7b" ++ inner ++ "\x7d" ++ back) =
      ctx.interpolate front ++ value ++ ctx.interpolate back := by
  have hopening : "$\x7b".toList = ['$', '\x7b'] := rfl
  have hclosing : "\x7d".toList = ['\x7d'] := rfl
  have hpart := referencePart?_braced (w := back.toList) hinner hvalue
  have hreference : Text.splice (referencePart? ctx.joined?) 0
      ('$' :: '\x7b' :: (inner.toList ++ '\x7d' :: back.toList)) =
        value.toList ++ Text.splice (referencePart? ctx.joined?) 0 back.toList := by
    have hsplit : '$' :: '\x7b' :: (inner.toList ++ '\x7d' :: back.toList) =
        '$' :: '\x7b' :: (inner.toList ++ ['\x7d']) ++ back.toList := by simp
    rw [hsplit] at hpart ⊢
    exact Text.splice_of_part (List.cons_ne_nil _ _) (by simpa using hpart)
  rw [← String.toList_inj]
  simp only [String.toList_append, toList_interpolate, hopening, hclosing, List.append_assoc, List.cons_append,
    List.nil_append]
  rw [Text.splice_append hfront.isCut, hreference]

/-- A text is as it was where no name has a value. -/
theorem interpolate_eq_self (h : ∀ name, ctx.joined? name = none) (text : String) : ctx.interpolate text = text := by
  rw [← String.toList_inj, toList_interpolate]
  refine Text.splice_eq_self fun s _ _ => ?_
  rw [List.append_nil]
  unfold referencePart?
  split
  · simp [h]
  · rfl

theorem joined?_empty (name : String) : VarContext.empty.joined? name = none := by
  simp [joined?, values?, declared?, binding?, VarContext.empty]

/-- **Interpolation is compositional.** -/
theorem interpolate_reference (ctx : VarContext) (front name value back : String)
    (hfront : Text.ClosesBraces front.toList) (hname : '\x7d' ∉ name.toList ∧ ':' ∉ name.toList)
    (hvalue : ctx.joined? name = some value) :
    ctx.interpolate (front ++ "$\x7b" ++ name ++ "\x7d" ++ back) =
      ctx.interpolate front ++ value ++ ctx.interpolate back ∧
    (∀ format : String, '\x7d' ∉ format.toList →
      ctx.interpolate (front ++ "$\x7b" ++ (name ++ ":" ++ format) ++ "\x7d" ++ back) =
        ctx.interpolate front ++ value ++ ctx.interpolate back) ∧
    ∀ text, VarContext.empty.interpolate text = text := by
  have hall : ∀ c ∈ name.toList, (c != ':') = true := fun c hc => bne_iff_ne.mpr fun heq : c = ':' => hname.2 (heq ▸ hc)
  refine ⟨interpolate_braced hfront hname.1 ?_, fun format hformat => interpolate_braced hfront ?_ ?_,
    interpolate_eq_self joined?_empty⟩
  · rw [beforeColon, List.takeWhile_eq_self_iff.mpr hall, String.ofList_toList, hvalue]
  · simp [hname.1, hformat]
  · have hbefore : beforeColon (name ++ ":" ++ format).toList = name.toList := by
      simp only [beforeColon, String.toList_append, List.append_assoc]
      rw [List.takeWhile_append_of_pos hall]
      simp
    rw [hbefore, String.ofList_toList, hvalue]

/-- Values that are references themselves are copied, with a dollar sign right in front and an open brace behind. -/
theorem interpolate_reference_nested :
    let host : Variable := ⟨"host", some "query",
      some ⟨.many [.text "$host", .text "$\x7bhost\x7d"], .one .empty⟩, [], none, none⟩
    let ctx : VarContext := ⟨[host], []⟩
    let front := "$\x7bno\x7d $host $"
    Text.ClosesBraces front.toList ∧ ('\x7d' ∉ "host".toList ∧ ':' ∉ "host".toList) ∧
      ctx.joined? "host" = some "$host,$\x7bhost\x7d" ∧ '\x7d' ∉ "csv:$".toList ∧
      ctx.interpolate (front ++ "$\x7b" ++ "host" ++ "\x7d" ++ " $\x7bhost") =
        "$\x7bno\x7d $host,$\x7bhost\x7d $" ++ "$host,$\x7bhost\x7d" ++ " $\x7bhost" ∧
      ctx.interpolate (front ++ "$\x7b" ++ ("host" ++ ":" ++ "csv:$") ++ "\x7d" ++ " $\x7bhost") =
        "$\x7bno\x7d $host,$\x7bhost\x7d $" ++ "$host,$\x7bhost\x7d" ++ " $\x7bhost" := by
  intro host ctx front
  have hfront : Text.ClosesBraces front.toList := by decide
  have hname : '\x7d' ∉ "host".toList ∧ ':' ∉ "host".toList := by decide
  have hvalue : ctx.joined? "host" = some "$host,$\x7bhost\x7d" := by decide
  have hformat : '\x7d' ∉ "csv:$".toList := by decide
  obtain ⟨hplain, hformatted, -⟩ := interpolate_reference ctx front "host" _ " $\x7bhost" hfront hname hvalue
  exact ⟨hfront, hname, hvalue, hformat, hplain.trans (by decide), (hformatted _ hformat).trans (by decide)⟩

end VarContext

end PanelQuery
