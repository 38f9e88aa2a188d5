import PanelQuery.Json.Decoder
import PanelQuery.Proofs.Json.Lexemes

/-!
# Printed values are read back

The lexemes of a value are read as a draft without any fault (`Draft.ofText_compress`), whatever containers are open
around it. What is left to a reader is how many containers are open at once: the value of the draft is the printed one
if it is not nested too deep, and there is none otherwise (`Draft.strict?_ofJson`). So a text that has been printed is
read as its value (`Json.parse?_compress`), and a decoder gives what it decodes of the value unless it finds fault with
the draft (`Decoder.read_compress`).
-/

namespace PanelQuery

namespace Json

mutual
/-- How many containers are open at once in a value. -/
def depth : Json → Nat
  | array items => depthOfItems items + 1
  | object fields => depthOfFields fields + 1
  | _ => 0

/-- How many containers are open at once in one of these items. -/
def depthOfItems : List Json → Nat
  | [] => 0
  | item :: rest => max (depth item) (depthOfItems rest)

/-- How many containers are open at once in one of these fields. -/
def depthOfFields : List (String × Json) → Nat
  | [] => 0
  | (_, value) :: rest => max (depth value) (depthOfFields rest)
end

end Json

namespace Draft

mutual
/-- The draft of a value, which has no faults. -/
def ofJson : Json → Draft
  | .array items => .array (ofItems items) true
  | .object fields => .object (ofFields fields) .closed
  | v => .value v

def ofItems : List Json → List Draft
  | [] => []
  | item :: rest => ofJson item :: ofItems rest

/-- The drafts of fields, all of which have a name. -/
def ofFields : List (String × Json) → List (Option String × Draft)
  | [] => []
  | (name, v) :: rest => (some name, ofJson v) :: ofFields rest
end

/-! ## Reading lexemes -/

namespace Reader

variable {frames : List Frame} {await : Await}

mutual
/-- The lexemes of a value are read as its draft, in whatever containers it stands. -/
theorem foldl_lexemes : ∀ (v : Json) (frames : List Frame) (await : Await), await = .value ∨ await = .firstItem →
    v.lexemes.foldl step (.within frames await) = complete (ofJson v) frames
  | .null, frames, _, h => by rcases h with rfl | rfl <;> rfl
  | .bool b, frames, _, h => by rcases h with rfl | rfl <;> rfl
  | .number n, frames, _, h => by rcases h with rfl | rfl <;> rfl
  | .text s, frames, _, h => by rcases h with rfl | rfl <;> rfl
  | .array items, frames, await, h => by
    have hopen : step (.within frames await) .openArray = .within (.array [] :: frames) .firstItem := by
      rcases h with rfl | rfl <;> rfl
    rw [Json.lexemes, List.foldl_cons, hopen]
    cases items with
    | nil => rfl
    | cons item rest =>
      rw [List.foldl_append, foldl_lexemesOfItems (item :: rest) (List.cons_ne_nil _ _) frames [] .firstItem (.inr rfl),
        List.append_nil]
      show complete (.array (List.reverse (List.reverse _)) true) frames = _
      rw [List.reverse_reverse]
      rfl
  | .object fields, frames, await, h => by
    have hopen : step (.within frames await) .openObject = .within (.object [] :: frames) .firstName := by
      rcases h with rfl | rfl <;> rfl
    rw [Json.lexemes, List.foldl_cons, hopen]
    cases fields with
    | nil => rfl
    | cons field rest =>
      rw [List.foldl_append, foldl_lexemesOfFields (field :: rest) (List.cons_ne_nil _ _) frames [] .firstName
        (.inr rfl), List.append_nil]
      show complete (.object (List.reverse (List.reverse _)) .closed) frames = _
      rw [List.reverse_reverse]
      rfl

theorem foldl_lexemesOfItems : ∀ (items : List Json), items ≠ [] → ∀ (frames : List Frame) (done : List Draft)
    (await : Await), await = .value ∨ await = .firstItem →
    (Json.lexemesOfItems items).foldl step (.within (.array done :: frames) await) =
      .within (.array ((ofItems items).reverse ++ done) :: frames) .separator
  | [], hne, _, _, _, _ => absurd rfl hne
  | [item], _, frames, done, await, h => foldl_lexemes item (.array done :: frames) await h
  | item :: next :: rest, _, frames, done, await, h => by
    have hitem := foldl_lexemes item (.array done :: frames) await h
    have hrest := foldl_lexemesOfItems (next :: rest) (List.cons_ne_nil _ _) frames (ofJson item :: done) .value
      (.inl rfl)
    have hdone : (ofItems (item :: next :: rest)).reverse ++ done =
        (ofItems (next :: rest)).reverse ++ ofJson item :: done := by
      rw [ofItems, List.reverse_cons, List.append_assoc]
      rfl
    rw [Json.lexemesOfItems, List.foldl_append, hitem, List.foldl_cons, hdone]
    · exact hrest
    · exact nofun

theorem foldl_lexemesOfFields : ∀ (fields : Fields), fields ≠ [] → ∀ (frames : List Frame)
    (done : List (Option String × Draft)) (await : Await), await = .name ∨ await = .firstName →
    (Json.lexemesOfFields fields).foldl step (.within (.object done :: frames) await) =
      .within (.object ((ofFields fields).reverse ++ done) :: frames) .separator
  | [], hne, _, _, _, _ => absurd rfl hne
  | [(name, v)], _, frames, done, await, h => by
    have hname : step (.within (.object done :: frames) await) (.text name) =
        .within (.field done (some name) :: frames) .colon := by
      rcases h with rfl | rfl <;> rfl
    have hvalue := foldl_lexemes v (.field done (some name) :: frames) .value (.inl rfl)
    rw [Json.lexemesOfFields, List.foldl_cons, hname]
    exact hvalue
  | (name, v) :: next :: rest, _, frames, done, await, h => by
    have hname : step (.within (.object done :: frames) await) (.text name) =
        .within (.field done (some name) :: frames) .colon := by
      rcases h with rfl | rfl <;> rfl
    have hvalue := foldl_lexemes v (.field done (some name) :: frames) .value (.inl rfl)
    have hrest := foldl_lexemesOfFields (next :: rest) (List.cons_ne_nil _ _) frames ((some name, ofJson v) :: done)
      .name (.inl rfl)
    have hdone : (ofFields ((name, v) :: next :: rest)).reverse ++ done =
        (ofFields (next :: rest)).reverse ++ (some name, ofJson v) :: done := by
      rw [ofFields, List.reverse_cons, List.append_assoc]
      rfl
    rw [Json.lexemesOfFields, List.foldl_cons, hname, List.foldl_cons, List.foldl_append]
    · show List.foldl step (List.foldl step (.within (.field done (some name) :: frames) .value) _) _ = _
      rw [hvalue, List.foldl_cons, hdone]
      exact hrest
    · exact nofun
end

end Reader

/-- **A printed value is read as its draft**, and nothing follows it. -/
theorem ofText_compress {v : Json} (h : v.IsExact) : ofText v.compress = (ofJson v, true) := by
  rw [ofText, Json.tokens_compress h, Reader.foldl_lexemes v [] .value (.inl rfl)]
  rfl

/-! ## Values of drafts -/

mutual
/-- A draft without faults has a value exactly if there is room for its containers. -/
theorem strict?_ofJson : ∀ (v : Json) (room : Nat),
    strict? room (ofJson v) = if v.depth ≤ room then some v else none
  | .null, _ => rfl
  | .bool _, _ => rfl
  | .number _, _ => rfl
  | .text _, _ => rfl
  | .array items, 0 => rfl
  | .array items, room + 1 => by
    show (strictItems? room (ofItems items)).map Json.array = _
    rw [strictItems?_ofItems items room, Json.depth]
    simp only [Nat.add_le_add_iff_right]
    split <;> rfl
  | .object fields, 0 => rfl
  | .object fields, room + 1 => by
    show (strictFields? room (ofFields fields)).map Json.object = _
    rw [strictFields?_ofFields fields room, Json.depth]
    simp only [Nat.add_le_add_iff_right]
    split <;> rfl

theorem strictItems?_ofItems : ∀ (items : List Json) (room : Nat),
    strictItems? room (ofItems items) = if Json.depthOfItems items ≤ room then some items else none
  | [], _ => by rw [ofItems, strictItems?, Json.depthOfItems, if_pos (Nat.zero_le _)]
  | item :: rest, room => by
    rw [ofItems, strictItems?, strict?_ofJson item, strictItems?_ofItems rest, Json.depthOfItems]
    simp only [Nat.max_le]
    by_cases hitem : item.depth ≤ room
    · by_cases hrest : Json.depthOfItems rest ≤ room <;> simp [hitem, hrest]
    · simp [hitem]

theorem strictFields?_ofFields : ∀ (fields : Fields) (room : Nat),
    strictFields? room (ofFields fields) = if Json.depthOfFields fields ≤ room then some fields else none
  | [], _ => by rw [ofFields, strictFields?, Json.depthOfFields, if_pos (Nat.zero_le _)]
  | (name, v) :: rest, room => by
    rw [ofFields, strictFields?, strict?_ofJson v, strictFields?_ofFields rest, Json.depthOfFields]
    simp only [Nat.max_le]
    by_cases hvalue : v.depth ≤ room
    · by_cases hrest : Json.depthOfFields rest ≤ room <;> simp [hvalue, hrest]
    · simp [hvalue]
end

mutual
/-- The value of a draft without faults is what any draft of it stands for. -/
theorem lenient_of_strict? : ∀ {d : Draft} {room : Nat} {v : Json}, d.strict? room = some v → d.lenient = v
  | .value _, _, _, h => Option.some.inj h
  | .array items isClosed, room, v, h => by
    rw [strict?] at h
    split at h
    · cases h
    · obtain ⟨values, hvalues, rfl⟩ := Option.map_eq_some_iff.mp h
      rw [lenient, lenientItems_of_strictItems? hvalues]
  | .object fields ending, room, v, h => by
    rw [strict?] at h
    split at h
    · cases h
    · obtain ⟨values, hvalues, rfl⟩ := Option.map_eq_some_iff.mp h
      rw [lenient, lenientFields_of_strictFields? hvalues]

theorem lenientItems_of_strictItems? : ∀ {items : List Draft} {room : Nat} {values : List Json},
    strictItems? room items = some values → lenientItems items = values
  | [], _, _, h => Option.some.inj h
  | item :: rest, room, values, h => by
    obtain ⟨v, hv, h⟩ := Option.bind_eq_some_iff.mp h
    obtain ⟨others, hothers, heq⟩ := Option.bind_eq_some_iff.mp h
    cases heq
    rw [lenientItems, lenient_of_strict? hv, lenientItems_of_strictItems? hothers]

theorem lenientFields_of_strictFields? : ∀ {fields : List (Option String × Draft)} {room : Nat} {values : Fields},
    strictFields? room fields = some values → lenientFields fields = values
  | [], _, _, h => Option.some.inj h
  | (some name, field) :: rest, room, values, h => by
    obtain ⟨v, hv, h⟩ := Option.bind_eq_some_iff.mp h
    obtain ⟨others, hothers, heq⟩ := Option.bind_eq_some_iff.mp h
    cases heq
    rw [lenientFields, lenient_of_strict? hv, lenientFields_of_strictFields? hothers]
end

/-- A draft without faults stands for the value that it is of. -/
theorem lenient_ofJson (v : Json) : lenient (ofJson v) = v :=
  lenient_of_strict? ((strict?_ofJson v v.depth).trans (if_pos (Nat.le_refl _)))

end Draft

/-! ## Reading texts -/

/-- A printed value is read as that value if it is not nested too deep, its objects in the order of their names. -/
theorem Json.parse?_compress {v : Json} (h : v.IsExact) :
    Json.parse? v.compress = if v.depth ≤ Json.maxOpen then some v.normal else none := by
  rw [parse?, Draft.ofText_compress h]
  simp only [Draft.strict?_ofJson]
  split <;> rfl

/-- **A printed value is decoded** unless the decoder finds fault with its draft. -/
theorem Decoder.read_compress (d : Decoder α) {v : Json} (h : v.IsExact) :
    d.read v.compress =
      match d.fault? Json.maxOpen (.ofJson v) with
      | some fault => .error fault
      | none => (d.decode v).elim (.error .misshapen) .ok := by
  rw [read, Draft.ofText_compress h]
  simp only [Draft.lenient_ofJson]
  rfl

/-- A decoder that judges a value as a whole finds fault with one that is nested too deep. -/
theorem Decoder.whole_read_compress {decode : Json → Option α} {v : Json} (h : v.IsExact) :
    (whole decode).read v.compress =
      if v.depth ≤ Json.maxOpen then (decode v).elim (.error .misshapen) .ok else .error .malformed := by
  rw [read_compress _ h]
  simp only [whole, Draft.strict?_ofJson]
  by_cases hdepth : v.depth ≤ Json.maxOpen
  · rw [if_pos hdepth, if_pos hdepth]
    cases hdecode : decode v <;> simp only [hdecode] <;> rfl
  · rw [if_neg hdepth, if_neg hdepth]

/-- What has been read from a text stands for a value. -/
theorem Decoder.exists_of_read {d : Decoder α} {text : String} {a : α} (h : d.read text = .ok a) :
    ∃ v, d.decode v = some a := by
  rw [Decoder.read] at h
  dsimp only at h
  split at h
  · cases h
  · split at h
    · cases h
    · cases hdecode : d.decode (Draft.ofText text).1.lenient with
      | none =>
        rw [hdecode] at h
        cases h
      | some b =>
        rw [hdecode] at h
        exact ⟨_, hdecode.trans (congrArg some (Except.ok.inj h))⟩

end PanelQuery
