import Mathlib.Data.List.TakeWhile
import PanelQuery.Json.Lexer
import PanelQuery.Json.Print

/-!
# Lexemes of printed values

The compact text of a value is cut into the lexemes of the value (`Json.tokens_compress`). A lexeme is read from its
characters whatever has been read before: a text from its quotes and escapes (`Lexer.foldl_quote`), a word and a mark by
themselves, and a number if its own text is read as that number (`Number.IsExact`), since what follows it is a mark and
ends it. Whole numbers of 64 bits are read from their texts (`Number.isExact_whole`).
-/

namespace PanelQuery

/-- Whether a number is read from its text. -/
def Number.IsExact (n : Number) : Prop := Json.tokens n.text = [.atom (.number n)]

namespace Json

/-! ## Parts of values -/

mutual
/-- Whether all numbers in a value are read from their texts. -/
def IsExact : Json → Prop
  | number n => n.IsExact
  | array items => AreExact items
  | object fields => AreFieldsExact fields
  | _ => True

/-- Whether all numbers in these items are read from their texts. -/
def AreExact : List Json → Prop
  | [] => True
  | item :: rest => IsExact item ∧ AreExact rest

/-- Whether all numbers in these fields are read from their texts. -/
def AreFieldsExact : List (String × Json) → Prop
  | [] => True
  | (_, value) :: rest => IsExact value ∧ AreFieldsExact rest
end

theorem areExact_iff : ∀ {items : List Json}, AreExact items ↔ ∀ item ∈ items, item.IsExact
  | [] => by simp [AreExact]
  | item :: rest => by rw [AreExact, areExact_iff, List.forall_mem_cons]

theorem areFieldsExact_iff : ∀ {fields : Fields}, AreFieldsExact fields ↔ ∀ field ∈ fields, field.2.IsExact
  | [] => by simp [AreFieldsExact]
  | (name, value) :: rest => by rw [AreFieldsExact, areFieldsExact_iff, List.forall_mem_cons]

mutual
def lexemes : Json → List Token
  | text s => [.text s]
  | array items => .openArray :: (lexemesOfItems items ++ [.closeArray])
  | object fields => .openObject :: (lexemesOfFields fields ++ [.closeObject])
  | value => [.atom value]

/-- The lexemes of items, with commas between them. -/
def lexemesOfItems : List Json → List Token
  | [] => []
  | [item] => lexemes item
  | item :: rest => lexemes item ++ .comma :: lexemesOfItems rest

/-- The lexemes of fields, with commas between them. -/
def lexemesOfFields : List (String × Json) → List Token
  | [] => []
  | [(name, value)] => .text name :: .colon :: lexemes value
  | (name, value) :: rest => .text name :: .colon :: (lexemes value ++ .comma :: lexemesOfFields rest)
end

/-! ## Characters and lexemes -/

namespace Lexer

/-- Whether a lexer is at the end of these lexemes, last first: at most a numeral goes on, and that may end. -/
inductive Ends : Lexer → List Token → Prop where
  | between (tokens : List Token) : Ends ⟨tokens, .between⟩ tokens
  | numeral {tokens ended : List Token} {read : List Char} {place : Numeral.Place}
      (h : endNumeral? tokens read place = some ended) : Ends ⟨tokens, .numeral read place⟩ ended

variable {s : Lexer} {tokens below ended : List Token} {token : Token} {c : Char} {cs : List Char} {q : Quote}

theorem Ends.finish (h : s.Ends ended) : s.finish = ended.reverse := by
  cases h with
  | between => rfl
  | numeral h => simp only [Lexer.finish, h, Option.getD_some]

/-! ### Marks -/

theorem eq_of_mark? (h : mark? c = some token) :
    c = '[' ∨ c = ']' ∨ c = '\x7b' ∨ c = '\x7d' ∨ c = ',' ∨ c = ':' := by
  unfold mark? at h
  split at h
  · exact .inl rfl
  · exact .inr (.inl rfl)
  · exact .inr (.inr (.inl rfl))
  · exact .inr (.inr (.inr (.inl rfl)))
  · exact .inr (.inr (.inr (.inr (.inl rfl))))
  · exact .inr (.inr (.inr (.inr (.inr rfl))))
  · cases h

/-- No numeral goes on with a mark. -/
theorem next?_of_mark? (h : mark? c = some token) (place : Numeral.Place) : place.next? c = none := by
  rcases eq_of_mark? h with rfl | rfl | rfl | rfl | rfl | rfl <;> cases place <;> rfl

theorem start_of_mark? (h : mark? c = some token) : start tokens c = ⟨token :: tokens, .between⟩ := by
  rcases eq_of_mark? h with rfl | rfl | rfl | rfl | rfl | rfl <;> cases h <;> rfl

/-- A mark ends what goes on and is a lexeme by itself. -/
theorem Ends.step_of_mark? (h : s.Ends ended) (hmark : mark? c = some token) :
    s.step c = ⟨token :: ended, .between⟩ := by
  cases h with
  | between => exact start_of_mark? hmark
  | numeral h => simp only [step, next?_of_mark? hmark, h, start_of_mark? hmark]

/-! ### Texts -/

theorem pushUnit_of_lt (h : c.toNat < 32) : q.pushUnit c.toNat = q.push c := by
  have hlow : ¬(0xD800 ≤ c.toNat ∧ c.toNat < 0xDC00) := by omega
  have hhigh : ¬(0xDC00 ≤ c.toNat ∧ c.toNat < 0xE000) := by omega
  rw [Quote.pushUnit, if_neg hlow, if_neg hhigh, Char.ofNat_toNat]

theorem hexDigit?_lowerHexDigit {n : Nat} (h : n < 16) : Text.hexDigit? (Text.lowerHexDigit n) = some n := by
  have hall : ∀ m : Fin 16, Text.hexDigit? (Text.lowerHexDigit m) = some m.val := by decide
  exact hall ⟨n, h⟩

/-- A character inside quotes is read as itself. -/
theorem foldl_escapeChar : (escapeChar c).foldl step ⟨tokens, .quoted q⟩ = ⟨tokens, .quoted (q.push c)⟩ := by
  unfold escapeChar
  split
  · rfl
  · rfl
  · rfl
  · rfl
  · rfl
  · rfl
  · rfl
  · next hquote hslash _ _ _ _ _ =>
    split
    · next hlt =>
      have hhigh := hexDigit?_lowerHexDigit (show c.toNat / 16 < 16 by omega)
      have hlow := hexDigit?_lowerHexDigit (Nat.mod_lt c.toNat (by decide : 0 < 16))
      have hzero : Text.hexDigit? '0' = some 0 := by decide
      have hcode : c.toNat / 16 * 16 + c.toNat % 16 = c.toNat := Nat.div_add_mod' ..
      simp [step, hzero, hhigh, hlow, hcode, pushUnit_of_lt hlt]
    · next hlt => simp [step, show c ≠ '"' from hquote, show c ≠ '\\' from hslash, hlt]

theorem foldl_escaped : ∀ (cs : List Char) (q : Quote),
    (cs.flatMap escapeChar).foldl step ⟨tokens, .quoted q⟩ = ⟨tokens, .quoted (cs.foldl Quote.push q)⟩
  | [], _ => rfl
  | c :: cs, q => by rw [List.flatMap_cons, List.foldl_append, foldl_escapeChar, foldl_escaped cs, List.foldl_cons]

theorem foldl_push : ∀ (cs read : List Char),
    cs.foldl Quote.push ⟨read, none, true⟩ = ⟨cs.reverse ++ read, none, true⟩
  | [], _ => rfl
  | c :: cs, read => by
    rw [List.reverse_cons, List.append_assoc]
    exact foldl_push cs (c :: read)

/-- A text in quotes is read as one lexeme. -/
theorem foldl_quote (s : String) (tokens : List Token) :
    (quote s).toList.foldl step ⟨tokens, .between⟩ = ⟨.text s :: tokens, .between⟩ := by
  have hopen : step ⟨tokens, .between⟩ '"' = ⟨tokens, .quoted ⟨[], none, true⟩⟩ := rfl
  have hclose : step ⟨tokens, .quoted ⟨s.toList.reverse, none, true⟩⟩ '"' = ⟨.text s :: tokens, .between⟩ := by
    simp [step, Quote.token]
  have htext : (quote s).toList = '"' :: (s.toList.flatMap escapeChar ++ ['"']) := by
    simp only [quote, String.toList_append, String.toList_ofList]
    rfl
  rw [htext, List.foldl_cons, List.foldl_append, hopen, foldl_escaped, foldl_push, List.append_nil]
  exact hclose

/-! ### Numbers -/

/-- The lexer with other lexemes before those it has read. -/
def atop (s : Lexer) (below : List Token) : Lexer := ⟨s.tokens ++ below, s.mode⟩

theorem start_atop : start (tokens ++ below) c = (start tokens c).atop below := by
  unfold start
  split
  · rfl
  · split
    · rfl
    · split <;> rfl

theorem endNumeral?_append {read : List Char} {place : Numeral.Place} :
    endNumeral? (tokens ++ below) read place = (endNumeral? tokens read place).map (· ++ below) := by
  unfold endNumeral?
  split <;> rfl

/-- What has been read before does not matter to the next character. -/
theorem step_atop : (s.atop below).step c = (s.step c).atop below := by
  obtain ⟨tokens, mode⟩ := s
  cases mode with
  | between => exact start_atop
  | word rest value =>
    match rest with
    | [] => rfl
    | [_] => simp only [step, atop]; split <;> rfl
    | _ :: _ :: _ => simp only [step, atop]; split <;> rfl
  | numeral read place =>
    simp only [step, atop, endNumeral?_append]
    cases place.next? c with
    | some place => rfl
    | none =>
      cases endNumeral? tokens read place with
      | none => rfl
      | some ended => exact start_atop
  | quoted q =>
    simp only [step, atop]
    split
    · rfl
    · split
      · rfl
      · split <;> rfl
  | escape q =>
    simp only [step, atop]
    split
    · rfl
    · split <;> rfl
  | unicode q code left =>
    simp only [step, atop]
    split <;> rfl
  | broken => rfl

theorem foldl_atop : ∀ (cs : List Char) (s : Lexer), cs.foldl step (s.atop below) = (cs.foldl step s).atop below
  | [], _ => rfl
  | c :: cs, s => by rw [List.foldl_cons, step_atop, foldl_atop cs, List.foldl_cons]

theorem Ends.atop (h : s.Ends ended) : (s.atop below).Ends (ended ++ below) := by
  cases h with
  | between => exact .between _
  | numeral h => exact .numeral (by rw [endNumeral?_append, h]; rfl)

/-- Whether a lexer that is past what is no lexeme has said so. -/
def IsCandid (s : Lexer) : Prop := s.mode = .broken → s.tokens.head? = some .broken

theorem isCandid_fail : s.fail.IsCandid := fun _ => rfl

theorem isCandid_start : (start tokens c).IsCandid := by
  unfold start
  split
  · exact nofun
  · split
    · exact nofun
    · split
      · exact nofun
      · exact nofun
      · exact nofun
      · exact isCandid_fail

theorem IsCandid.step (h : s.IsCandid) : (s.step c).IsCandid := by
  obtain ⟨tokens, mode⟩ := s
  cases mode with
  | between => exact isCandid_start
  | word rest value =>
    match rest with
    | [] => exact isCandid_fail
    | [_] =>
      simp only [Lexer.step]
      split
      · exact nofun
      · exact isCandid_fail
    | _ :: _ :: _ =>
      simp only [Lexer.step]
      split
      · exact nofun
      · exact isCandid_fail
  | numeral read place =>
    simp only [Lexer.step]
    cases place.next? c with
    | some place => exact nofun
    | none =>
      cases endNumeral? tokens read place with
      | none => exact isCandid_fail
      | some ended => exact isCandid_start
  | quoted q =>
    simp only [Lexer.step]
    split
    · exact nofun
    · split
      · exact nofun
      · split
        · exact isCandid_fail
        · exact nofun
  | escape q =>
    simp only [Lexer.step]
    split
    · exact nofun
    · split
      · exact nofun
      · exact isCandid_fail
  | unicode q code left =>
    simp only [Lexer.step]
    split
    · exact isCandid_fail
    · exact nofun
    · exact nofun
  | broken => exact h

theorem IsCandid.foldl : ∀ (cs : List Char) {s : Lexer}, s.IsCandid → (cs.foldl Lexer.step s).IsCandid
  | [], _, h => h
  | _ :: cs, _, h => IsCandid.foldl cs h.step

/-- Where lexemes end in a value, the lexer has come to its end. -/
theorem IsCandid.ends {value : Json} (h : s.IsCandid) (hfinish : s.finish = [.atom value]) :
    s.Ends [.atom value] := by
  obtain ⟨tokens, mode⟩ := s
  have hfail : (fail ⟨tokens, mode⟩).tokens.reverse ≠ [.atom value] := fun heq => by
    rw [List.reverse_eq_iff] at heq
    cases heq
  cases mode with
  | between =>
    have hfinish : tokens.reverse = [.atom value] := hfinish
    rw [List.reverse_eq_iff.mp hfinish]
    exact .between _
  | numeral read place =>
    simp only [Lexer.finish] at hfinish
    cases hend : endNumeral? tokens read place with
    | none =>
      rw [hend] at hfinish
      exact absurd hfinish hfail
    | some ended =>
      rw [hend] at hfinish
      have hfinish : ended.reverse = [.atom value] := hfinish
      rw [List.reverse_eq_iff.mp hfinish] at hend
      exact .numeral hend
  | broken =>
    have hfinish : tokens.reverse = [.atom value] := hfinish
    have hhead := h rfl
    rw [List.reverse_eq_iff.mp hfinish] at hhead
    cases hhead
  | _ => exact absurd hfinish hfail

/-- The text of an exact number is read as one lexeme. -/
theorem ends_text {n : Number} (h : n.IsExact) (tokens : List Token) :
    (n.text.toList.foldl step ⟨tokens, .between⟩).Ends (.atom (.number n) :: tokens) := by
  have hcandid : (n.text.toList.foldl step .empty).IsCandid := IsCandid.foldl _ nofun
  have hatop : n.text.toList.foldl step ⟨tokens, .between⟩ = (n.text.toList.foldl step .empty).atop tokens :=
    foldl_atop _ .empty
  rw [hatop]
  exact (hcandid.ends h).atop

/-! ### Values -/

mutual
/-- The text of a value is read as its lexemes, whatever has been read before. -/
theorem ends_compress : ∀ {v : Json}, v.IsExact → ∀ tokens : List Token,
    (v.compress.toList.foldl step ⟨tokens, .between⟩).Ends (v.lexemes.reverse ++ tokens)
  | .null, _, tokens => .between _
  | .bool true, _, tokens => .between _
  | .bool false, _, tokens => .between _
  | .number n, h, tokens => ends_text h tokens
  | .text s, _, tokens => by
    rw [compress, foldl_quote]
    exact .between _
  | .array items, h, tokens => by
    have hitems := ends_compressItems h (.openArray :: tokens)
    have htext : (compress (.array items)).toList = '[' :: ((compressItems items).toList ++ [']']) := by
      simp only [compress, String.toList_append]
      rfl
    rw [htext, List.foldl_cons, List.foldl_append, List.foldl_cons, List.foldl_nil]
    show Ends (step (List.foldl step ⟨.openArray :: tokens, .between⟩ _) ']') _
    rw [hitems.step_of_mark? rfl, lexemes, List.reverse_cons, List.reverse_append]
    simp only [List.append_assoc]
    exact .between _
  | .object fields, h, tokens => by
    have hfields := ends_compressFields h (.openObject :: tokens)
    have htext : (compress (.object fields)).toList = '\x7b' :: ((compressFields fields).toList ++ ['\x7d']) := by
      simp only [compress, String.toList_append]
      rfl
    rw [htext, List.foldl_cons, List.foldl_append, List.foldl_cons, List.foldl_nil]
    show Ends (step (List.foldl step ⟨.openObject :: tokens, .between⟩ _) '\x7d') _
    rw [hfields.step_of_mark? rfl, lexemes, List.reverse_cons, List.reverse_append]
    simp only [List.append_assoc]
    exact .between _

theorem ends_compressItems : ∀ {items : List Json}, AreExact items → ∀ tokens : List Token,
    ((compressItems items).toList.foldl step ⟨tokens, .between⟩).Ends ((lexemesOfItems items).reverse ++ tokens)
  | [], _, tokens => .between _
  | [item], h, tokens => ends_compress h.1 tokens
  | item :: next :: rest, h, tokens => by
    have hitem := ends_compress h.1 tokens
    have hrest := ends_compressItems h.2 (.comma :: ((lexemes item).reverse ++ tokens))
    have htext : (compressItems (item :: next :: rest)).toList =
        item.compress.toList ++ ',' :: (compressItems (next :: rest)).toList := by
      simp only [compressItems, String.toList_append, List.append_assoc]
      rfl
    rw [htext, List.foldl_append, List.foldl_cons, hitem.step_of_mark? rfl]
    simpa only [lexemesOfItems, List.reverse_append, List.reverse_cons, List.append_assoc, List.cons_append,
      List.nil_append] using hrest

theorem ends_compressFields : ∀ {fields : Fields}, AreFieldsExact fields → ∀ tokens : List Token,
    ((compressFields fields).toList.foldl step ⟨tokens, .between⟩).Ends ((lexemesOfFields fields).reverse ++ tokens)
  | [], _, tokens => .between _
  | [(name, value)], h, tokens => by
    have hvalue := ends_compress h.1 (.colon :: .text name :: tokens)
    have htext : (compressFields [(name, value)]).toList = (quote name).toList ++ ':' :: value.compress.toList := by
      simp only [compressFields, String.toList_append, List.append_assoc]
      rfl
    rw [htext, List.foldl_append, foldl_quote, List.foldl_cons, (Ends.between _).step_of_mark? rfl]
    simpa only [lexemesOfFields, List.reverse_cons, List.append_assoc, List.cons_append, List.nil_append] using hvalue
  | (name, value) :: next :: rest, h, tokens => by
    have hvalue := ends_compress h.1 (.colon :: .text name :: tokens)
    have hrest := ends_compressFields h.2 (.comma :: ((lexemes value).reverse ++ .colon :: .text name :: tokens))
    have htext : (compressFields ((name, value) :: next :: rest)).toList =
        (quote name).toList ++ ':' :: (value.compress.toList ++ ',' :: (compressFields (next :: rest)).toList) := by
      simp only [compressFields, String.toList_append, List.append_assoc]
      rfl
    rw [htext, List.foldl_append, foldl_quote, List.foldl_cons, (Ends.between _).step_of_mark? rfl, List.foldl_append,
      List.foldl_cons, hvalue.step_of_mark? rfl]
    simpa only [lexemesOfFields, List.reverse_append, List.reverse_cons, List.append_assoc, List.cons_append,
      List.nil_append] using hrest
end

end Lexer

/-- **A printed value is cut into its lexemes.** -/
theorem tokens_compress {v : Json} (h : v.IsExact) : tokens v.compress = v.lexemes := by
  have hends := Lexer.ends_compress h []
  rw [List.append_nil] at hends
  exact hends.finish.trans (List.reverse_reverse _)

end Json

/-! ## Whole numbers -/

namespace Json.Numeral

variable {tokens : List Token} {read : List Char} {s : Lexer} {m : Nat} {n : Int}

/-- The digits of a number start with a zero only if that is all. -/
theorem exists_toDigits_eq_cons (m : Nat) : ∃ c cs, Nat.toDigits 10 m = c :: cs ∧ (c = '0' → cs = []) := by
  induction m using Nat.base_induction 10 (by decide) with
  | single m hm => exact ⟨_, [], Nat.toDigits_of_lt_base hm, fun _ => rfl⟩
  | digit m k hk hm ih =>
    obtain ⟨c, cs, heq, hzero⟩ := ih
    refine ⟨c, cs ++ Nat.toDigits 10 k, ?_, fun hc => ?_⟩
    · rw [← Nat.toDigits_append_toDigits (by decide) hm hk, heq, List.cons_append]
    · have hvalue := @Nat.ofDigitChars_ten_toDigits m
      rw [heq, hc, hzero hc] at hvalue
      exact absurd hvalue (Nat.ne_of_lt hm)

theorem isDigit_toDigits {c : Char} (h : c ∈ Nat.toDigits 10 m) : c.isDigit = true :=
  Nat.isDigit_of_mem_toDigits (by decide) (by decide) h

theorem foldl_digits : ∀ {cs read : List Char}, (∀ c ∈ cs, c.isDigit = true) →
    cs.foldl Lexer.step ⟨tokens, .numeral read .whole⟩ = ⟨tokens, .numeral (cs.reverse ++ read) .whole⟩
  | [], _, _ => rfl
  | c :: cs, read, h => by
    have hstep : Lexer.step ⟨tokens, .numeral read .whole⟩ c = ⟨tokens, .numeral (c :: read) .whole⟩ := by
      simp [Lexer.step, Place.next?, h c List.mem_cons_self]
    rw [List.foldl_cons, hstep, foldl_digits fun d hd => h d (List.mem_cons_of_mem _ hd), List.reverse_cons,
      List.append_assoc]
    rfl

/-- The digits of a number are read as a numeral that may end. -/
theorem foldl_toDigits (m : Nat) (hfirst : ∀ c, c.isDigit = true →
      s.step c = ⟨tokens, .numeral (c :: read) (if c = '0' then .zero else .whole)⟩) :
    ∃ place, place.isEnd = true ∧
      (Nat.toDigits 10 m).foldl Lexer.step s = ⟨tokens, .numeral ((Nat.toDigits 10 m).reverse ++ read) place⟩ := by
  obtain ⟨c, cs, heq, hzero⟩ := exists_toDigits_eq_cons m
  have hdigits : ∀ d ∈ c :: cs, d.isDigit = true := fun d hd => isDigit_toDigits (heq ▸ hd)
  rw [heq, List.foldl_cons, hfirst c (hdigits c List.mem_cons_self)]
  by_cases hc : c = '0'
  · rw [if_pos hc, hzero hc]
    exact ⟨.zero, rfl, rfl⟩
  · refine ⟨.whole, rfl, ?_⟩
    rw [if_neg hc, foldl_digits fun d hd => hdigits d (List.mem_cons_of_mem _ hd), List.reverse_cons,
      List.append_assoc]
    rfl

theorem eq_of_isDigit {c : Char} (h : c.isDigit = true) :
    c = '0' ∨ c = '1' ∨ c = '2' ∨ c = '3' ∨ c = '4' ∨ c = '5' ∨ c = '6' ∨ c = '7' ∨ c = '8' ∨ c = '9' := by
  rw [Char.isDigit_iff_toNat] at h
  simp only [← Char.toNat_inj, Char.reduceToNat] at h ⊢
  omega

theorem first?_of_isDigit {c : Char} (h : c.isDigit = true) :
    Place.first? c = some (if c = '0' then .zero else .whole) := by
  rcases eq_of_isDigit h with rfl | rfl | rfl | rfl | rfl | rfl | rfl | rfl | rfl | rfl <;> rfl

theorem step_of_isDigit {c : Char} (h : c.isDigit = true) :
    Lexer.step ⟨tokens, .between⟩ c = ⟨tokens, .numeral [c] (if c = '0' then .zero else .whole)⟩ := by
  rcases eq_of_isDigit h with rfl | rfl | rfl | rfl | rfl | rfl | rfl | rfl | rfl | rfl <;> rfl

theorem step_of_isDigit_of_sign {c : Char} (h : c.isDigit = true) :
    Lexer.step ⟨tokens, .numeral ['-'] .sign⟩ c = ⟨tokens, .numeral [c, '-'] (if c = '0' then .zero else .whole)⟩ := by
  have hsign : (c == '-') = false := by
    rw [beq_eq_false_iff_ne]
    rintro rfl
    cases h
  simp [Lexer.step, Place.next?, hsign, first?_of_isDigit h]

/-- What is left of the digits of a number is nothing. -/
theorem spanDigits_toDigits : Decimal.spanDigits (Nat.toDigits 10 m) = (Nat.toDigits 10 m, []) := by
  have hdigits : ∀ c ∈ Nat.toDigits 10 m, c.isDigit = true := fun c => isDigit_toDigits
  rw [Decimal.spanDigits, List.takeWhile_eq_self_iff.mpr hdigits, List.dropWhile_eq_nil_iff.mpr hdigits]

theorem digitsValue_toDigits : Decimal.digitsValue (Nat.toDigits 10 m) = m := @Nat.ofDigitChars_ten_toDigits m

theorem signed_toDigits : Decimal.signed (Nat.toDigits 10 m) = (false, Nat.toDigits 10 m) := by
  obtain ⟨c, cs, heq, -⟩ := exists_toDigits_eq_cons m
  have hdigit : c.isDigit = true := isDigit_toDigits (heq ▸ List.mem_cons_self)
  rw [heq]
  unfold Decimal.signed
  split
  · cases ‹_›
    cases hdigit
  · cases ‹_›
    cases hdigit
  · rfl

theorem read?_toDigits (h : m < wordLimit) : read? (Nat.toDigits 10 m) = some (.whole m) := by
  simp [read?, parts, signed_toDigits, spanDigits_toDigits, whole?, digitsValue_toDigits, h]

theorem read?_neg_toDigits (hpos : 0 < m) (h : m ≤ twoTo 63) :
    read? ('-' :: Nat.toDigits 10 m) = some (.whole (-m)) := by
  simp [read?, parts, Decimal.signed, spanDigits_toDigits, whole?, digitsValue_toDigits, hpos, h]

/-- A number is exact if its text is a numeral with its value. -/
theorem isExact_of_foldl {n : Number} {place : Place} (hend : place.isEnd = true) (hread : read? n.text.toList = some n)
    (hfold : n.text.toList.foldl Lexer.step .empty = ⟨[], .numeral n.text.toList.reverse place⟩) : n.IsExact := by
  have htoken : numeralToken n.text.toList = .atom (.number n) := by rw [numeralToken, hread]
  have hended : Lexer.endNumeral? [] n.text.toList.reverse place = some [.atom (.number n)] := by
    rw [Lexer.endNumeral?, if_pos hend, List.reverse_reverse, htoken]
  rw [Number.IsExact, tokens, hfold, (Lexer.Ends.numeral hended).finish, List.reverse_singleton]

end Json.Numeral

open Json.Numeral in
/-- Whole numbers of 64 bits, with or without a sign, are read from their texts. -/
theorem Number.isExact_whole {n : Int} (hlow : leastInt64 ≤ n) (hhigh : n < wordLimit) : (whole n).IsExact := by
  cases n with
  | ofNat m =>
    have htext : (whole (Int.ofNat m)).text.toList = Nat.toDigits 10 m := Nat.toList_repr
    obtain ⟨place, hend, hfold⟩ := foldl_toDigits m fun c => @step_of_isDigit [] c
    rw [List.append_nil] at hfold
    refine isExact_of_foldl hend ?_ ?_ <;> rw [htext]
    · exact read?_toDigits (Int.ofNat_lt.mp hhigh)
    · exact hfold
  | negSucc m =>
    have htext : (whole (Int.negSucc m)).text.toList = '-' :: Nat.toDigits 10 (m + 1) := by
      show ("-" ++ (m + 1).repr).toList = _
      rw [String.toList_append, Nat.toList_repr]
      rfl
    have hlimit : twoTo 63 = 9223372036854775808 := rfl
    obtain ⟨place, hend, hfold⟩ := foldl_toDigits (m + 1) fun c => @step_of_isDigit_of_sign [] c
    refine isExact_of_foldl hend ?_ ?_ <;> rw [htext]
    · rw [leastInt64] at hlow
      exact read?_neg_toDigits (Nat.succ_pos m) (by omega)
    · rw [List.reverse_cons, ← hfold]
      rfl

end PanelQuery
