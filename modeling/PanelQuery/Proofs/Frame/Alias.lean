import PanelQuery.Frame.Alias
import PanelQuery.Proofs.Variable.Interpolation

/-!
# Aliases, piece by piece

A reference to a column ends with the first brace that closes it and gives one text (`columnPart?_written`): that of the
value, or the reference as it is written (`referenceText`). References in an alias that closes its braces stay the same
whatever reference follows (`Text.ClosesBraces.isCut_columnPart?`), so an alias is rendered piece by piece
(`renderAlias_written`). Hence rendering is a single pass: a value is copied, and what is in it is not read again
(`renderAlias_reference`).
-/

namespace PanelQuery

/-! ## References to columns -/

/-- A reference to a column as it is written. -/
def writtenReference (name : List Char) : List Char := '$' :: '\x7b' :: (name ++ ['\x7d'])

/-- What stands in the place of a reference: the text of the value, or the reference itself if the record does not have
the column or its name has a blank in it. -/
def referenceText (record : Record) (name : List Char) : List Char :=
  match Fields.get? (String.ofList name) record with
  | some value => if name.any Text.isBlank then writtenReference name else value.shown.toList
  | none => writtenReference name

section References

variable {record : Record} {value : Json} {name cs u w : List Char}

theorem writtenReference_ne_nil : writtenReference name ≠ [] := List.cons_ne_nil _ _

/-- A reference to a column of the record stands for the value as it is shown. -/
theorem referenceText_of_get? (hvalue : Fields.get? (String.ofList name) record = some value)
    (hname : ∀ c ∈ name, Text.isBlank c = false) : referenceText record name = value.shown.toList := by
  have hblank : name.any Text.isBlank = false := by simpa using hname
  simp [referenceText, hvalue, hblank]

/-- A reference to no column, or with blanks in its name, stands for itself. -/
theorem referenceText_of_unknown
    (h : Fields.get? (String.ofList name) record = none ∨ ∃ c ∈ name, Text.isBlank c = true) :
    referenceText record name = writtenReference name := by
  unfold referenceText
  split
  · next value hvalue =>
    rcases h with hnone | hblank
    · rw [hnone] at hvalue
      cases hvalue
    · exact if_pos (List.any_eq_true.mpr hblank)
  · rfl

/-- A written reference is read to its end, whatever comes behind it. -/
theorem columnPart?_written (h : '\x7d' ∉ name) : columnPart? record (writtenReference name ++ w) =
    some (referenceText record name, (writtenReference name).length) := by
  have hname : (name ++ '\x7d' :: w).takeWhile (· != '\x7d') = name := takeWhile_ne_append h
  have hlength : name.length < (name ++ '\x7d' :: w).length := by simp
  simp only [writtenReference, List.cons_append, List.append_assoc, List.nil_append, columnPart?, hname, if_pos hlength,
    referenceText]
  cases Fields.get? (String.ofList name) record <;> rfl

theorem columnPart?_eq_none (h : ¬['$', '\x7b'] <+: cs) : columnPart? record cs = none := by
  unfold columnPart?
  split
  · exact absurd (by simp) h
  · rfl

/-- Nothing is read where no brace closes. -/
theorem columnPart?_eq_none_of_open (h : '\x7d' ∉ cs) : columnPart? record cs = none := by
  unfold columnPart?
  split
  · next braced =>
    have hname : ∀ c ∈ braced, (c != '\x7d') = true := fun c hc =>
      bne_iff_ne.mpr fun heq : c = '\x7d' => h (List.mem_cons_of_mem _ (List.mem_cons_of_mem _ (heq ▸ hc)))
    simp [List.takeWhile_eq_self_iff.mpr hname]
  · rfl

/-- A brace that opens and one that closes make a reference. -/
theorem exists_written_of_prefix (hopen : ['$', '\x7b'] <+: cs) (hclose : '\x7d' ∈ cs) :
    ∃ name w, cs = writtenReference name ++ w ∧ '\x7d' ∉ name := by
  obtain ⟨braced, rfl⟩ := hopen
  have hclose : '\x7d' ∈ braced := by simpa using hclose
  obtain ⟨name, w, rfl, hname⟩ := List.eq_append_cons_of_mem hclose
  exact ⟨name, w, by simp [writtenReference], hname⟩

/-- References end in an alias that closes its braces, if another one follows it. -/
theorem Text.ClosesBraces.isCut_columnPart? (h : Text.ClosesBraces u) :
    Text.IsCut (columnPart? record) u ('$' :: w) where
  same s hs hne := by
    by_cases hopen : ['$', '\x7b'] <+: s
    · obtain ⟨name, rest, rfl, hname⟩ := exists_written_of_prefix hopen (h s hs hopen)
      rw [List.append_assoc, columnPart?_written hname, columnPart?_written hname]
    · -- the dollar sign behind the alias is no brace that opens
      have hbehind : ¬['$', '\x7b'] <+: s ++ '$' :: w := fun hopen' =>
        hopen (Text.prefix_of_prefix_append hne (by simp) hopen')
      rw [columnPart?_eq_none hbehind, columnPart?_eq_none hopen]
  fits s r n hs hpart := by
    by_cases hopen : ['$', '\x7b'] <+: s
    · obtain ⟨name, rest, rfl, hname⟩ := exists_written_of_prefix hopen (h s hs hopen)
      rw [columnPart?_written hname] at hpart
      cases hpart
      rw [List.length_append]
      exact Nat.le_add_right _ _
    · rw [columnPart?_eq_none hopen] at hpart
      cases hpart

/-- Without columns every reference gives itself. -/
theorem splice_columnPart?_nil (cs : List Char) : Text.splice (columnPart? []) 0 cs = cs := by
  refine Text.splice_eq_self_of_parts (fun s r n hpart => ?_) cs
  by_cases hopen : ['$', '\x7b'] <+: s
  · by_cases hclose : '\x7d' ∈ s
    · obtain ⟨name, rest, rfl, hname⟩ := exists_written_of_prefix hopen hclose
      rw [columnPart?_written hname, referenceText_of_unknown (.inl rfl)] at hpart
      cases hpart
      exact ⟨writtenReference_ne_nil, rfl, List.prefix_append _ _⟩
    · rw [columnPart?_eq_none_of_open hclose] at hpart
      cases hpart
  · rw [columnPart?_eq_none hopen] at hpart
    cases hpart

end References

/-! ## Aliases -/

section Aliases

variable {record : Record} {front back name : String}

/-- Rendering goes through the alias from its front, reference by reference. -/
theorem toList_renderAlias (aliasName : String) :
    (renderAlias aliasName record).toList = Text.splice (columnPart? record) 0 aliasName.toList :=
  String.toList_ofList

/-- A reference gives its text, between the texts of what is around it. -/
theorem renderAlias_written (hfront : Text.ClosesBraces front.toList) (hname : '\x7d' ∉ name.toList) :
    renderAlias (front ++ "$\x7b" ++ name ++ "\x7d" ++ back) record =
      renderAlias front record ++ String.ofList (referenceText record name.toList) ++ renderAlias back record := by
  have hwritten : (front ++ "$\x7b" ++ name ++ "\x7d" ++ back).toList =
      front.toList ++ (writtenReference name.toList ++ back.toList) := by
    have hopening : "$\x7b".toList = ['$', '\x7b'] := rfl
    have hclosing : "\x7d".toList = ['\x7d'] := rfl
    simp only [String.toList_append, hopening, hclosing, writtenReference, List.append_assoc, List.cons_append,
      List.nil_append]
  have hcut : Text.IsCut (columnPart? record) front.toList (writtenReference name.toList ++ back.toList) :=
    hfront.isCut_columnPart?
  rw [← String.toList_inj, toList_renderAlias, hwritten, Text.splice_append hcut,
    Text.splice_of_part writtenReference_ne_nil (columnPart?_written hname)]
  simp only [String.toList_append, toList_renderAlias, String.toList_ofList, List.append_assoc]

/-- An alias in which no brace is opened stays as it is. -/
theorem renderAlias_eq_self {aliasName : String} (h : ¬['$', '\x7b'] <:+: aliasName.toList) :
    renderAlias aliasName record = aliasName := by
  rw [← String.toList_inj, toList_renderAlias]
  refine Text.splice_eq_self fun s hs _ => columnPart?_eq_none fun hopen => h ?_
  rw [List.append_nil] at hopen
  exact hopen.isInfix.trans hs.isInfix

/-- **An alias is rendered in a single pass.** Between an alias that closes its braces and whatever follows, a reference
to a column of the record gives the text of its value, whatever that is; one to no column, or with a blank in its name,
stays as it is written. Nothing else is changed. -/
theorem renderAlias_reference (record : Record) :
    (∀ front name back value, Text.ClosesBraces front.toList → '\x7d' ∉ name.toList →
      (∀ c ∈ name.toList, Text.isBlank c = false) → Fields.get? name record = some value →
      renderAlias (front ++ "$\x7b" ++ name ++ "\x7d" ++ back) record =
        renderAlias front record ++ value.shown ++ renderAlias back record) ∧
    (∀ front name back, Text.ClosesBraces front.toList → '\x7d' ∉ name.toList →
      (Fields.get? name record = none ∨ ∃ c ∈ name.toList, Text.isBlank c = true) →
      renderAlias (front ++ "$\x7b" ++ name ++ "\x7d" ++ back) record =
        renderAlias front record ++ ("$\x7b" ++ name ++ "\x7d") ++ renderAlias back record) ∧
    (∀ aliasName, renderAlias aliasName [] = aliasName) ∧
    ∀ aliasName : String, ¬['$', '\x7b'] <:+: aliasName.toList → renderAlias aliasName record = aliasName := by
  refine ⟨fun front name back value hfront hname hblank hvalue => ?_, fun front name back hfront hname hunknown => ?_,
    fun aliasName => ?_, fun _ => renderAlias_eq_self⟩
  · have hvalue : Fields.get? (String.ofList name.toList) record = some value := by rwa [String.ofList_toList]
    rw [renderAlias_written hfront hname, referenceText_of_get? hvalue hblank, String.ofList_toList]
  · have hunknown : Fields.get? (String.ofList name.toList) record = none ∨
        ∃ c ∈ name.toList, Text.isBlank c = true := by
      rwa [String.ofList_toList]
    have hwritten : String.ofList (writtenReference name.toList) = "$\x7b" ++ name ++ "\x7d" := by
      rw [← String.toList_inj, String.toList_ofList, String.toList_append, String.toList_append]
      rfl
    rw [renderAlias_written hfront hname, referenceText_of_unknown hunknown, hwritten]
  · rw [← String.toList_inj, toList_renderAlias, splice_columnPart?_nil]

/-- Values that are references themselves are copied, between references that stay as they are written. -/
theorem renderAlias_reference_nested :
    let record : Record := [("pod", .text "$\x7bpod\x7d$\x7bzone\x7d"), ("zone", .null)]
    let front := "$\x7bno\x7d$\x7bzone\x7d$"
    Text.ClosesBraces front.toList ∧ '\x7d' ∉ "pod".toList ∧ (∀ c ∈ "pod".toList, Text.isBlank c = false) ∧
      Fields.get? "pod" record = some (.text "$\x7bpod\x7d$\x7bzone\x7d") ∧
      renderAlias (front ++ "$\x7b" ++ "pod" ++ "\x7d" ++ "\x7d $\x7bpod") record =
        "$\x7bno\x7dnull$" ++ "$\x7bpod\x7d$\x7bzone\x7d" ++ "\x7d $\x7bpod" := by
  intro record front
  have hfront : Text.ClosesBraces front.toList := by decide
  have hname : '\x7d' ∉ "pod".toList := by decide
  have hblank : ∀ c ∈ "pod".toList, Text.isBlank c = false := fun c hc => by
    have hall : ("pod".toList.all fun c => Text.isBlank c == false) = true := by decide
    exact beq_iff_eq.mp (List.all_eq_true.mp hall c hc)
  have hvalue : Fields.get? "pod" record = some (.text "$\x7bpod\x7d$\x7bzone\x7d") := rfl
  have hrendered := (renderAlias_reference record).1 front "pod" "\x7d $\x7bpod" _ hfront hname hblank hvalue
  exact ⟨hfront, hname, hblank, hvalue, hrendered.trans (by decide)⟩

end Aliases

end PanelQuery
