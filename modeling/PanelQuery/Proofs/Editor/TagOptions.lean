import PanelQuery.Flame
import PanelQuery.Proofs.Editor.Settling

/-!
# Options of tags

Every tag that has a name for one of its sides is offered by its table, and so is one whose sides have its own name
(`Tag.exists_mem_options`). A row that compares such a tag stays as it is (`Form.getElem?_filter_sanitize`). A tag whose
sides have no names is one column as well where details of spans are concerned (`Flame.isUnsided`), but it is not
offered (`Tag.forall_isOffered_iff`).
-/

namespace PanelQuery

/-! ## Rows that compare tags -/

namespace Form

variable {f : Form} {t : TableOptions} {r : Row}

/-- A row that compares a tag of the table stays as it is. -/
theorem getElem?_filter_sanitize {i : Nat} (hr : f.filter[i]? = some r) (hkind : r.kind = .tag)
    (htag : t.HasTag .filter r.key) : (f.sanitize t).filter[i]? = some r := by
  have hallows : (clauseOptions t f .filter).allows r = true := (allows_tag_iff hkind).mpr ⟨htag, nofun⟩
  have hfit : r.fit t .filter = r := by
    rw [Row.fit_eq_of_ne_select t .filter r (by decide)]
    simp [Row.fitParams, hkind]
  have hrows : (f.sanitize t).filter = f.filter.map _ := rows_sanitize (c := .filter)
  rw [hrows, List.getElem?_map, hr, Option.map_some, Row.keepOffered_of_allows hallows, hfit]

end Form

/-! ## Tags -/

namespace Tag

variable {tag : Tag} {table : Table} {o : FieldOption}

/-- The options of a tag are among those of its table. -/
theorem mem_options_of (htag : tag ∈ table.tags) (ho : o ∈ tag.options) : o ∈ (TableOptions.of table).tags :=
  List.mem_flatMap.mpr ⟨tag, htag, ho⟩

theorem isComparable_plainOption (hmap : tag.isMap = false) (hname : tag.name ∉ incomparableTags) :
    tag.plainOption.isComparable = true := by
  have hkind : tag.kind ≠ "map" := by simpa [isMap] using hmap
  simp [FieldOption.isComparable, FieldOption.isPlain, FieldOption.tagType, plainOption, option, hkind, hname]

/-- A tag that is one column has one option. -/
theorem options_of_isPlain (h : tag.name = tag.clientName ∧ tag.name = tag.serverName) :
    tag.options = [tag.plainOption] := by
  rw [options, if_pos (by simp [← h.1, ← h.2])]

/-- A tag with sides has an option for each of the columns that it has. -/
theorem options_of_not_isPlain (h : ¬(tag.name = tag.clientName ∧ tag.name = tag.serverName)) :
    tag.options = tag.sharedOption?.toList ++ (tag.sideOption? tag.clientName "client" .source).toList ++
      (tag.sideOption? tag.serverName "server" .target).toList := by
  rw [options, if_neg (by simpa using h)]

theorem isPlain_of_eq_empty (h : tag.clientName = "" → tag.serverName = "" → tag.name = "")
    (hclient : tag.clientName = "") (hserver : tag.serverName = "") :
    tag.name = tag.clientName ∧ tag.name = tag.serverName := by
  rw [h hclient hserver, hclient, hserver]
  exact ⟨rfl, rfl⟩

/-- A tag without sides is one column, unless all of its side names are empty. -/
theorem isPlain_of_isUnsided (h : tag.clientName = "" → tag.serverName = "" → tag.name = "")
    (hunsided : Flame.isUnsided tag = true) : tag.name = tag.clientName ∧ tag.name = tag.serverName := by
  simp only [Flame.isUnsided, Bool.or_eq_true, Bool.and_eq_true, beq_iff_eq, String.isEmpty_iff] at hunsided
  rcases hunsided with hnames | ⟨hclient, hserver⟩
  · exact hnames
  · exact isPlain_of_eq_empty h hclient hserver

/-- A side with a name has an option. -/
theorem sideOption?_of_ne (tag : Tag) {name : String} (sideName : String) (side : Side) (h : name ≠ "") :
    ∃ o, tag.sideOption? name sideName side = some o ∧ o.kind = .tag tag.kind ∧ o.value = name := by
  rw [sideOption?, if_neg (by simpa using h)]
  exact ⟨_, rfl, rfl, rfl⟩

/-- A tag has an option of its type with one of its names, unless it has a name and its sides have none. -/
theorem exists_mem_options (h : tag.clientName = "" → tag.serverName = "" → tag.name = "") :
    ∃ o ∈ tag.options, o.kind = .tag tag.kind ∧ tag.isNamed o.value = true := by
  by_cases hplain : tag.name = tag.clientName ∧ tag.name = tag.serverName
  · rw [options_of_isPlain hplain]
    exact ⟨_, List.mem_singleton_self _, rfl, by simp [isNamed, plainOption, option]⟩
  · rw [options_of_not_isPlain hplain]
    by_cases hclient : tag.clientName = ""
    · have hserver : tag.serverName ≠ "" := fun hserver => hplain (isPlain_of_eq_empty h hclient hserver)
      obtain ⟨o, ho, hkind, hvalue⟩ := sideOption?_of_ne tag "server" .target hserver
      refine ⟨o, List.mem_append_right _ (Option.mem_toList.mpr ho), hkind, ?_⟩
      simp [isNamed, hvalue]
    · obtain ⟨o, ho, hkind, hvalue⟩ := sideOption?_of_ne tag "client" .source hclient
      refine ⟨o, List.mem_append_left _ (List.mem_append_right _ (Option.mem_toList.mpr ho)), hkind, ?_⟩
      simp [isNamed, hvalue]

/-- A tag with a name whose sides have none has no option. -/
theorem options_eq_nil (hname : tag.name ≠ "") (hclient : tag.clientName = "") (hserver : tag.serverName = "") :
    tag.options = [] := by
  rw [options_of_not_isPlain fun hplain => hname (hplain.1.trans hclient)]
  simp [sharedOption?, sideOption?, hclient, hserver]

/-- Whether a tag can be chosen: it has an option, and if it has no sides of its own, one for the tag as such, so that
rows that compare it stay as they are. -/
structure IsOffered (tag : Tag) (table : Table) : Prop where
  some : ∃ o ∈ (TableOptions.of table).tags, o.kind = .tag tag.kind ∧ tag.isNamed o.value = true
  plain : Flame.isUnsided tag = true → ∃ o ∈ (TableOptions.of table).tags,
    o.value = tag.name ∧ o.kind = .tag tag.kind ∧ o.side = none ∧ o.whereOnly = false
  kept : Flame.isUnsided tag = true → tag.isMap = false → tag.name ∉ incomparableTags →
    ∀ (f : Form) (i : Nat) (r : Row), f.filter[i]? = Option.some r → r.kind = .tag → r.key = tag.name →
      (f.sanitize (TableOptions.of table)).filter[i]? = Option.some r

/-- **Which tags can be chosen.** A tag can be chosen in every table that has it exactly if it has a name for one of its
sides, or no name at all. -/
theorem forall_isOffered_iff (tag : Tag) : (∀ table : Table, tag ∈ table.tags → tag.IsOffered table) ↔
    (tag.clientName = "" → tag.serverName = "" → tag.name = "") := by
  constructor
  · intro h hclient hserver
    refine Decidable.byContradiction fun hname => ?_
    obtain ⟨o, ho, -⟩ := (h ⟨[tag], [], []⟩ (List.mem_singleton_self tag)).some
    rw [TableOptions.of, List.flatMap_singleton, options_eq_nil hname hclient hserver] at ho
    cases ho
  · intro h table htag
    have hplain : Flame.isUnsided tag = true → tag.plainOption ∈ (TableOptions.of table).tags := by
      intro hunsided
      refine mem_options_of htag ?_
      rw [options_of_isPlain (isPlain_of_isUnsided h hunsided)]
      exact List.mem_singleton_self _
    constructor
    · obtain ⟨o, ho, hoption⟩ := exists_mem_options h
      exact ⟨o, mem_options_of htag ho, hoption⟩
    · exact fun hunsided => ⟨_, hplain hunsided, rfl, rfl, rfl, rfl⟩
    · intro hunsided hmap hcomparable f i r hr hkind hkey
      exact Form.getElem?_filter_sanitize hr hkind
        ⟨_, hplain hunsided, hkey.symm, isComparable_plainOption hmap hcomparable⟩

/-- A resource whose sides have no names is one column among the details of a span, but it has no option, so that a row
that compares it loses its key. -/
theorem forall_isOffered_not :
    let pod : Tag := ⟨"pod", "", "", "Pod", "resource", "Universal Tag", ["=", "IN", "LIKE"], false, []⟩
    let table : Table := ⟨[pod], [], []⟩
    let f : Form := { Form.new .trafficQuery with filter := [{ Row.tag "pod" with op := "IN" }] }
    Flame.detailTags table = [⟨"Universal Tag", "pod", false, false⟩] ∧
      (¬∀ table : Table, pod ∈ table.tags → pod.IsOffered table) ∧
      (TableOptions.of table).tags = [] ∧ (f.sanitize (TableOptions.of table)).filter.map Row.key = [""] := by
  intro pod table f
  refine ⟨by decide, fun hoffered => ?_, by decide, by decide⟩
  exact absurd ((forall_isOffered_iff pod).mp hoffered rfl rfl) (by decide)

end Tag

end PanelQuery
