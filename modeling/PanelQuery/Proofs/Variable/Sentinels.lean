import PanelQuery.Proofs.Variable.Override
import PanelQuery.Variable.Interpolate

/-!
# Sentinels among choices

A choice of a variable may be a sentinel, for all options, no filter or any value. As a sentinel counts a whole text,
alone or in a list (`VarContext.reading`). References are resolved to that reading unless one text is chosen that has a
sentinel in it, or an empty list (`VarValue.IsClear`): the text is taken for the sentinel, and the list for any value
(`VarContext.sentinels_recognised_iff`). No sentinel is left among the values that are picked
(`VarContext.isSentinel_of_mem_pick`).
-/

namespace PanelQuery

/-! ## Texts -/

/-- A text occurs in itself. -/
theorem Text.contains_self (text : String) : Text.contains text text = true := by
  unfold Text.contains
  cases text.toList with
  | nil => rfl
  | cons c cs => simp [Text.occursIn]

theorem Scalar.isSentinel_eq_false_iff {s : Scalar} :
    s.isSentinel = false ↔ s ≠ .text allSentinel ∧ s ≠ .text disabledSentinel ∧ s ≠ .text anySentinel := by
  simp [Scalar.isSentinel, and_assoc]

/-- The values that a reference stands for. -/
def Resolved.values : Resolved → List Scalar
  | one value => [value]
  | many values => values
  | disabled => []
  | any => []

/-! ## Values -/

namespace VarValue

variable {v : VarValue} {needle : String} {values : List Scalar}

/-- Whether a text is chosen and nothing else. -/
def IsOnly (v : VarValue) (text : String) : Prop := v.toList ≠ [] ∧ ∀ s ∈ v.toList, s = .text text

instance {text : String} : Decidable (v.IsOnly text) := inferInstanceAs (Decidable (_ ∧ _))

/-- Whether one text is chosen that is not `needle` but has it somewhere in it. -/
def Hides (v : VarValue) (needle : String) : Prop :=
  ∃ text, v = .one (.text text) ∧ Text.contains text needle = true ∧ text ≠ needle

/-- Whether a value is no empty list and hides neither the sentinel for all options nor that for no filter. -/
structure IsClear (v : VarValue) : Prop where
  ne_nil : v ≠ .many []
  all : ¬v.Hides allSentinel
  disabled : ¬v.Hides disabledSentinel

theorem mentions_many_iff : (many values).mentions needle = true ↔ .text needle ∈ values := by
  simp [mentions]

/-- A value mentions the texts that it has, and hidden ones. -/
theorem mentions_iff : v.mentions needle = true ↔ .text needle ∈ v.toList ∨ v.Hides needle := by
  cases v with
  | many values => simp [mentions_many_iff, toList, Hides]
  | one value =>
    cases value with
    | text s =>
      by_cases heq : s = needle
      · simp [mentions, Scalar.text?, toList, Hides, heq, Text.contains_self]
      · simp [mentions, Scalar.text?, toList, Hides, heq, Ne.symm heq]
    | bool b => simp [mentions, Scalar.text?, toList, Hides]
    | number n => simp [mentions, Scalar.text?, toList, Hides]

/-- Any value is chosen by an empty list too. -/
theorem isAny_iff : v.isAny = true ↔ v = .many [] ∨ v.IsOnly anySentinel := by
  cases v with
  | many values => cases values <;> simp [isAny, IsOnly, toList]
  | one value => simp [isAny, IsOnly, toList]

/-- A value that is not taken for a sentinel leaves none. -/
theorem isSentinel_of_mem_resolvedReal {s : Scalar} (hall : v.mentions allSentinel ≠ true)
    (hdisabled : v.mentions disabledSentinel ≠ true) (hany : v.isAny ≠ true) (hs : s ∈ v.resolvedReal.values) :
    s.isSentinel = false := by
  have hmem : s ∈ v.toList := by
    cases v with
    | many values => exact (List.mem_filter.mp hs).1
    | one value => exact hs
  refine Scalar.isSentinel_eq_false_iff.mpr ⟨?_, ?_, ?_⟩
  · rintro rfl
    exact hall (mentions_iff.mpr (.inl hmem))
  · rintro rfl
    exact hdisabled (mentions_iff.mpr (.inl hmem))
  · rintro rfl
    cases v with
    | many values => exact absurd (List.mem_filter.mp hs).2 (by decide)
    | one value =>
      cases List.mem_singleton.mp hmem
      exact hany rfl

end VarValue

/-! ## Names -/

theorem ne_empty_of_reference? {text name : String} (h : reference? text = some name) : name ≠ "" := by
  unfold reference? at h
  obtain ⟨cs, -, hname⟩ := Option.bind_eq_some_iff.mp h
  obtain ⟨hcs, rfl⟩ : cs.isEmpty = false ∧ String.ofList cs = name := by simpa using hname
  rintro hempty
  rw [String.ofList_eq_empty_iff] at hempty
  simp [hempty] at hcs

theorem ValueItem.ne_empty_of_variableName? {item : ValueItem} {name : String} (h : item.variableName? = some name) :
    name ≠ "" := by
  unfold variableName? at h
  obtain ⟨text, -, hname⟩ := Option.bind_eq_some_iff.mp h
  split at hname
  · next found hfound =>
    cases hname
    exact ne_empty_of_reference? hfound
  · split at hname
    · next hmarked =>
      cases hname
      simpa using (Bool.and_eq_true_iff.mp hmarked).2
    · cases hname
  · cases hname

/-! ## Choices -/

namespace VarContext

variable {v : Variable} {c : Current} {useText : Bool}

/-- What a choice stands for where only a whole text is a sentinel: the real options if all are chosen, else nothing if
the variable is switched off, else anything if only that is chosen, and else what is chosen. -/
def reading (v : Variable) (c : Current) (useText : Bool) : Resolved :=
  if .text allSentinel ∈ c.value.toList then
    .many (v.realOptions.map fun option => if useText then option.text else option.value)
  else if .text disabledSentinel ∈ c.value.toList then .disabled
  else if c.value.IsOnly anySentinel then .any
  else (if useText then c.text else c.value).resolvedReal

theorem pick_eq_reading (hplain : v.isPlainText = false) (h : c.value.IsClear) :
    pick v c useText = reading v c useText := by
  have hall := VarValue.mentions_iff.trans (or_iff_left h.all)
  have hdisabled := VarValue.mentions_iff.trans (or_iff_left h.disabled)
  have hany := VarValue.isAny_iff.trans (or_iff_right h.ne_nil)
  unfold pick reading
  simp only [hplain, hall, hdisabled, hany, Bool.false_eq_true, if_false]

/-- A value that mentions one of these sentinels switches its variable off, or is expanded. -/
theorem pick_of_mentions (hplain : v.isPlainText = false)
    (h : c.value.mentions allSentinel = true ∨ c.value.mentions disabledSentinel = true) :
    pick v c false = .disabled ∨ ∃ values, pick v c false = .many values := by
  by_cases hall : c.value.mentions allSentinel = true
  · exact .inr ⟨_, by rw [pick, hplain, if_neg Bool.false_ne_true, if_pos hall]⟩
  · exact .inl (by rw [pick, hplain, if_neg Bool.false_ne_true, if_neg hall, if_pos (h.resolve_left hall)])

/-- One text that is no sentinel for all or for no filter is read as itself, or as any value. -/
theorem reading_text {text : String} (hc : c.value = .one (.text text)) (hall : text ≠ allSentinel)
    (hdisabled : text ≠ disabledSentinel) : reading v c false = .any ∨ reading v c false = .one (.text text) := by
  have hnotAll : Scalar.text allSentinel ∉ c.value.toList := by simpa [hc, VarValue.toList] using hall.symm
  have hnotDisabled : Scalar.text disabledSentinel ∉ c.value.toList := by
    simpa [hc, VarValue.toList] using hdisabled.symm
  rw [reading, if_neg hnotAll, if_neg hnotDisabled]
  split
  · exact .inl rfl
  · rw [hc]
    exact .inr rfl

theorem pick_ne_reading_text {text : String} (hplain : v.isPlainText = false) (hc : c.value = .one (.text text))
    (hall : text ≠ allSentinel) (hdisabled : text ≠ disabledSentinel)
    (h : c.value.mentions allSentinel = true ∨ c.value.mentions disabledSentinel = true) :
    pick v c false ≠ reading v c false := by
  rcases pick_of_mentions hplain h with hpick | ⟨values, hpick⟩ <;>
    rcases reading_text (v := v) hc hall hdisabled with hreading | hreading <;> simp [hpick, hreading]

/-- Values are picked as they are read only if none hides a sentinel. -/
theorem isClear_of_pick_eq_reading (hplain : v.isPlainText = false) (h : pick v c false = reading v c false) :
    c.value.IsClear := by
  constructor
  · intro hnil
    have hpick : pick v c false = .any := by simp [pick, hplain, hnil, VarValue.mentions, VarValue.isAny]
    have hreading : reading v c false = .many [] := by
      simp [reading, hnil, VarValue.toList, VarValue.IsOnly, VarValue.resolvedReal]
    cases (hpick.symm.trans h).trans hreading
  · intro hhides
    have hmentions := VarValue.mentions_iff.mpr (.inr hhides)
    obtain ⟨text, hc, hcontains, hne⟩ := hhides
    have hother : text ≠ disabledSentinel := by
      rintro rfl
      exact absurd hcontains (by decide)
    exact pick_ne_reading_text hplain hc hne hother (.inl hmentions) h
  · intro hhides
    have hmentions := VarValue.mentions_iff.mpr (.inr hhides)
    obtain ⟨text, hc, hcontains, hne⟩ := hhides
    have hother : text ≠ allSentinel := by
      rintro rfl
      exact absurd hcontains (by decide)
    exact pick_ne_reading_text hplain hc hother hne (.inr hmentions) h

/-- The values that are picked are no sentinels. -/
theorem isSentinel_of_mem_pick {s : Scalar} (hplain : v.isPlainText = false) (hs : s ∈ (pick v c false).values) :
    s.isSentinel = false := by
  unfold pick at hs
  rw [hplain, if_neg Bool.false_ne_true] at hs
  split at hs
  · obtain ⟨option, hoption, rfl⟩ := List.mem_map.mp hs
    simpa using (List.mem_filter.mp hoption).2
  · next hall =>
    split at hs
    · cases hs
    · next hdisabled =>
      split at hs
      · cases hs
      · next hany => exact VarValue.isSentinel_of_mem_resolvedReal hall hdisabled hany hs

/-! ## References -/

section References

variable {ctx : VarContext} {item : ValueItem} {name : String}

/-- Whether a value item refers to a variable with options to choose from. -/
def RefersTo (ctx : VarContext) (item : ValueItem) (name : String) (v : Variable) : Prop :=
  item.variableName? = some name ∧ ctx.typed? name = some v ∧ v.isPlainText = false

/-- The choice that a reference is resolved to. -/
theorem resolveItem_of_refersTo {op : Option Operator} (h : ctx.RefersTo item name v) :
    ctx.resolveItem item op = pick v (ctx.current v name item.value) (op.any Operator.isLike) := by
  obtain ⟨hname, hv, -⟩ := h
  rw [resolveItem_eq hname, hv]
  rfl

/-- The value of a name in a running text: a scoped one goes before the variable's own. -/
def chosen? (ctx : VarContext) (v : Variable) (name : String) : Option VarValue :=
  ((ctx.binding? name).map Binding.value).or (v.current.map Current.value)

/-- In a running text only whole texts are sentinels. -/
theorem values?_eq (hname : name ≠ "") (hdeclared : ctx.declared? name = some v) :
    ctx.values? name = (ctx.chosen? v name).map fun value =>
      if .text allSentinel ∈ value.toList then v.realOptions.map VarOption.value else value.toList := by
  have hempty : name.isEmpty = false := by simpa using hname
  have hvalues : ∀ value : VarValue,
      (if value.toList.any (· == .text allSentinel) then some (v.realOptions.map VarOption.value)
        else some value.toList) =
        some (if .text allSentinel ∈ value.toList then v.realOptions.map VarOption.value else value.toList) := by
    intro value
    have hall : value.toList.any (· == .text allSentinel) = true ↔ .text allSentinel ∈ value.toList := by simp
    rw [apply_ite some]
    simp only [hall]
  unfold values? chosen?
  rw [hempty, hdeclared]
  cases ctx.binding? name with
  | some bound => exact hvalues bound.value
  | none =>
    cases hcurrent : v.current with
    | some current =>
      simp only [Option.bind_some, hcurrent]
      exact hvalues current.value
    | none => simp [hcurrent]

/-- **Which choices are recognised as sentinels.** Where values are compared, a reference stands for what its choice
reads as exactly if that hides no sentinel in a text and is no empty list; where texts are matched it does then too. In
a running text only a whole text stands for all options. -/
theorem sentinels_recognised_iff (ctx : VarContext) (item : ValueItem) (name : String) (v : Variable)
    (h : ctx.RefersTo item name v) :
    (∀ op : Option Operator, op.any Operator.isLike = false →
      (ctx.resolveItem item op = reading v (ctx.current v name item.value) false ↔
        (ctx.current v name item.value).value.IsClear)) ∧
    ((ctx.current v name item.value).value.IsClear → ∀ op,
      ctx.resolveItem item op = reading v (ctx.current v name item.value) (op.any Operator.isLike)) ∧
    ctx.values? name = (ctx.chosen? v name).map fun value =>
      if .text allSentinel ∈ value.toList then v.realOptions.map VarOption.value else value.toList := by
  refine ⟨fun op hop => ?_, fun hclear op => ?_, ?_⟩
  · rw [resolveItem_of_refersTo h, hop]
    exact ⟨isClear_of_pick_eq_reading h.2.2, pick_eq_reading h.2.2⟩
  · rw [resolveItem_of_refersTo h]
    exact pick_eq_reading h.2.2 hclear
  · exact values?_eq (ValueItem.ne_empty_of_variableName? h.1) (declared?_of_typed? h.2.1)

/-- A text with the sentinel for no filter in it switches its variable off, and an empty list matches anything. -/
theorem sentinels_recognised_not :
    let v : Variable := ⟨"env", some "custom", some ⟨.one (.text "x__disabled"), .one (.text "x")⟩, [], none, none⟩
    let item : ValueItem := .literal (.text "$env")
    let ctx : VarContext := ⟨[v], []⟩
    let cleared : VarContext := ⟨[v], [("env", ⟨.many [], none⟩)]⟩
    ctx.RefersTo item "env" v ∧ ctx.resolveItem item (some .equal) ≠ .one (.text "x__disabled") ∧
      cleared.RefersTo item "env" v ∧ cleared.resolveItem item (some .equal) ≠ .many [] := by
  intro v item ctx cleared
  have hrefers : ctx.RefersTo item "env" v := ⟨by decide, by decide, by decide⟩
  have hcleared : cleared.RefersTo item "env" v := ⟨by decide, by decide, by decide⟩
  refine ⟨hrefers, fun hsame => ?_, hcleared, fun hsame => ?_⟩
  · have hclear :=
      ((sentinels_recognised_iff ctx item "env" v hrefers).1 (some .equal) rfl).mp (hsame.trans (by decide))
    exact hclear.disabled ⟨"x__disabled", rfl, by decide, by decide⟩
  · have hclear :=
      ((sentinels_recognised_iff cleared item "env" v hcleared).1 (some .equal) rfl).mp (hsame.trans (by decide))
    exact hclear.ne_nil rfl

end References

end VarContext

end PanelQuery
