import PanelQuery.Proofs.Lru
import PanelQuery.Service.Basic

/-!
# The statements kept for queries

Statements are kept by the request and the reference of their query, joined to one text. Two queries share that text
exactly if the request of one goes on into the reference of the other (`QueryName.key_eq_iff`), and then each is given
the statement of the other. So what is found belongs to the query asked for exactly as long as no two queries overlap in
that way (`Service.keptStatement_iff`); whatever they are called, it is the latest statement kept under their text.
-/

namespace PanelQuery

open Lru (Use latest?)

/-! ## Names of queries -/

/-- What a query is called: its request, and the reference within that. -/
structure QueryName where
  requestId : String
  refId : String
  deriving DecidableEq, Repr

namespace QueryName

variable {p q : QueryName}

/-- The text under which the statement of a query is kept. -/
def key (q : QueryName) : String := Service.statementKey q.requestId q.refId

/-- The request of one query goes on, after the separator, with what the reference of the other starts with. -/
def Overlaps (p q : QueryName) : Prop :=
  ∃ shared, p.requestId = q.requestId ++ "_" ++ shared ∧ q.refId = shared ++ "_" ++ p.refId

theorem Overlaps.ne (h : p.Overlaps q) : p ≠ q := by
  rintro rfl
  obtain ⟨shared, hrequest, -⟩ := h
  have hlength := congrArg String.length hrequest
  have hseparator : "_".length = 1 := rfl
  rw [String.length_append, String.length_append] at hlength
  omega

/-- Queries that overlap share their text. -/
theorem Overlaps.key_eq (h : p.Overlaps q) : p.key = q.key := by
  obtain ⟨shared, hrequest, href⟩ := h
  simp only [key, Service.statementKey, hrequest, href, String.append_assoc]

/-- What comes before the separator of one name in the longer request of another. -/
theorem eq_or_overlaps {front : List Char} (hrequest : p.requestId.toList = q.requestId.toList ++ front)
    (hrest : '_' :: q.refId.toList = front ++ '_' :: p.refId.toList) : p = q ∨ p.Overlaps q := by
  cases front with
  | nil =>
    left
    have hrefs := List.cons_injective hrest
    cases p
    cases q
    simp_all [String.toList_inj]
  | cons c shared =>
    right
    obtain ⟨rfl, hshared⟩ := List.cons.inj hrest
    refine ⟨String.ofList shared, ?_, ?_⟩ <;> apply String.toList_inj.mp
    · simpa using hrequest
    · simpa using hshared

/-- Two queries share their text only if they are the same or overlap. -/
theorem key_eq_iff : p.key = q.key ↔ p = q ∨ p.Overlaps q ∨ q.Overlaps p := by
  constructor
  · intro h
    have hlists : p.requestId.toList ++ '_' :: p.refId.toList = q.requestId.toList ++ '_' :: q.refId.toList := by
      simpa [key, Service.statementKey] using congrArg String.toList h
    rcases List.append_eq_append_iff.mp hlists with ⟨front, hrequest, hrest⟩ | ⟨front, hrequest, hrest⟩
    · rcases eq_or_overlaps hrequest hrest with hsame | hoverlap
      · exact .inl hsame.symm
      · exact .inr (.inr hoverlap)
    · rcases eq_or_overlaps hrequest hrest with hsame | hoverlap
      · exact .inl hsame
      · exact .inr (.inl hoverlap)
  · rintro (rfl | h | h)
    · rfl
    · exact h.key_eq
    · exact h.key_eq.symm

end QueryName

/-! ## Uses of the statements -/

namespace Service

variable {s : Service} {q : QueryName} {sql : String}

/-- The service after a statement is kept for a query, or looked up. -/
def useStatements (s : Service) (u : Use QueryName String) : Service :=
  { s with statements := s.statements.use (u.mapKey QueryName.key) }

/-- Keeping a statement is such a use, unless the request has no name. -/
theorem perform_keepStatement : (Action.keepStatement q.requestId q.refId sql).perform s =
    .done (.ok (), if q.requestId.isEmpty then s else s.useStatements (.store q sql)) := by
  unfold Action.keepStatement
  cases q.requestId.isEmpty <;> rfl

theorem perform_keptStatement_eq : (Action.keptStatement q.requestId q.refId).perform s = Action.perform
    (match s.statements.find? q.key with
      | some sql => pure sql
      | none => throw (.notFound ("no sql cached for " ++ q.requestId ++ "/" ++ q.refId)))
    (s.useStatements (.fetch q)) := rfl

/-- Looking one up is a use, whether or not it is found. -/
theorem perform_keptStatement : (Action.keptStatement q.requestId q.refId).perform s =
    .done ((s.statements.find? q.key).elim
      (.error (.notFound ("no sql cached for " ++ q.requestId ++ "/" ++ q.refId))) .ok,
      s.useStatements (.fetch q)) := by
  rw [perform_keptStatement_eq]
  cases s.statements.find? q.key <;> rfl

/-- Whether a query is given a statement. -/
def Finds (s : Service) (q : QueryName) (sql : String) : Prop :=
  ∃ s', (Action.keptStatement q.requestId q.refId).perform s = .done (.ok sql, s')

/-- A query is given the statement that is found under its text. -/
theorem finds_iff : s.Finds q sql ↔ s.statements.find? q.key = some sql := by
  unfold Finds
  rw [perform_keptStatement]
  cases s.statements.find? q.key <;> simp

/-- A new service after its statements have been used so. -/
def afterUses (statementCapacity tableCapacity : Nat) (uses : List (Use QueryName String)) : Service :=
  uses.foldl useStatements (.new statementCapacity tableCapacity)

section Runs

variable {statementCapacity tableCapacity : Nat} {uses : List (Use QueryName String)}

/-- Using the statements of queries is using those of their texts. -/
theorem statements_foldl : (uses.foldl useStatements s).statements =
    (uses.map (Use.mapKey QueryName.key)).foldl Lru.use s.statements := by
  induction uses generalizing s with
  | nil => rfl
  | cons u later ih => exact ih

theorem statements_afterUses : (afterUses statementCapacity tableCapacity uses).statements =
    (uses.map (Use.mapKey QueryName.key)).foldl Lru.use (.empty statementCapacity) := statements_foldl

/-- A query is given the latest statement that was kept under its text. -/
theorem latest?_of_finds (h : (afterUses statementCapacity tableCapacity uses).Finds q sql) :
    latest? q.key (uses.map (Use.mapKey QueryName.key)) = some sql := by
  rw [finds_iff, statements_afterUses] at h
  exact Lru.latest?_of_find?_foldl h

/-- With room for all queries, it is given that in any case. -/
theorem finds_iff_latest? {room : List QueryName} (hroom : ∀ p sql, Use.store p sql ∈ uses → p ∈ room)
    (hlength : room.length ≤ statementCapacity) :
    (afterUses statementCapacity tableCapacity uses).Finds q sql ↔
      latest? q.key (uses.map (Use.mapKey QueryName.key)) = some sql := by
  have htexts : ∀ text sql, Use.store text sql ∈ uses.map (Use.mapKey QueryName.key) →
      text ∈ room.map QueryName.key := by
    intro text sql hstore
    obtain ⟨u, hu, hmapped⟩ := List.mem_map.mp hstore
    cases u with
    | fetch p => cases hmapped
    | store p sql' =>
      cases hmapped
      exact List.mem_map_of_mem (hroom p sql hu)
  have hfits : (room.map QueryName.key).length ≤ max statementCapacity 1 := by
    rw [List.length_map]
    omega
  rw [finds_iff, statements_afterUses, Lru.find?_foldl htexts hfits]

end Runs

/-- **Which statement a query is given.** However statements are kept and looked up for some queries, each is only given
the latest statement that was kept for itself, exactly if no two of them overlap. Any query is only given the latest
statement kept under its text, and is given that as long as there is room for all queries. -/
theorem keptStatement_iff (queries : QueryName → Prop) :
    ((∀ statementCapacity tableCapacity uses, (∀ u ∈ uses, queries u.key) → ∀ q sql, queries q →
        (afterUses statementCapacity tableCapacity uses).Finds q sql → latest? q uses = some sql) ↔
      ∀ p q, queries p → queries q → ¬p.Overlaps q) ∧
    ∀ statementCapacity tableCapacity uses q sql,
      ((afterUses statementCapacity tableCapacity uses).Finds q sql →
        latest? q.key (uses.map (Use.mapKey QueryName.key)) = some sql) ∧
      ∀ room : List QueryName, (∀ p sql, Use.store p sql ∈ uses → p ∈ room) → room.length ≤ statementCapacity →
        ((afterUses statementCapacity tableCapacity uses).Finds q sql ↔
          latest? q.key (uses.map (Use.mapKey QueryName.key)) = some sql) := by
  refine ⟨⟨fun hown p q hp hq hoverlap => ?_, fun hapart _ _ uses huses q sql hq hfinds => ?_⟩,
    fun _ _ _ _ _ => ⟨latest?_of_finds, fun _ => finds_iff_latest?⟩⟩
  · -- a statement that is kept for `p` is found for `q`, for which none is kept
    have hroom : ∀ p' sql, Use.store p' sql ∈ [Use.store p ""] → p' ∈ [p] := by simp
    have hfinds : (afterUses 1 1 [.store p ""]).Finds q "" := by
      refine (finds_iff_latest? hroom (Nat.le_refl 1)).mpr ?_
      simp [latest?, Use.mapKey, Use.stored?, hoverlap.key_eq]
    have hlatest := hown 1 1 [.store p ""] (by simpa [Use.key] using hp) q "" hq hfinds
    simp [latest?, Use.stored?, hoverlap.ne] at hlatest
  · rw [← latest?_of_finds hfinds, eq_comm]
    refine Lru.latest?_mapKey fun u hu hkey => ?_
    rcases QueryName.key_eq_iff.mp hkey with hsame | hoverlap | hoverlap
    · exact hsame
    · exact absurd hoverlap (hapart _ _ (huses u hu) hq)
    · exact absurd hoverlap (hapart _ _ hq (huses u hu))

/-- A query can be given the statement of another: that of `c` in `a_b` is found for `b_c` in `a`. -/
theorem keptStatement_not : ¬∀ statementCapacity tableCapacity uses q sql,
    (afterUses statementCapacity tableCapacity uses).Finds q sql → latest? q uses = some sql := by
  intro hown
  refine (keptStatement_iff fun _ => True).1.mp (fun _ _ _ _ _ _ _ => hown _ _ _ _ _) ⟨"a_b", "c"⟩ ⟨"a", "b_c"⟩
    trivial trivial ⟨"b", ?_, ?_⟩ <;> decide

end Service
end PanelQuery
