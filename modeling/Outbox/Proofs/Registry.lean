import Outbox.Proofs.Table
import Outbox.Proofs.Uuid.Spelling
import Outbox.Registry

/-!
# Which payloads are read

A payload is read if its tag is known and it holds one identifier, by itself in an array or as the
member `entity_id` of an object that has no other.  Everything else is refused as malformed, whatever
kind of value it is.

* `Registry.kindOf_built` — the tags that are known after registrations;
* `Payload.entityOfJson_eq_ok_iff` — the values that ask for an entity;
* `Registry.decode_eq_ok_iff`, `Registry.exists_decode` — the tasks that are read, and the others.
-/

namespace Outbox

/-- Asks for an entity: an object with the one member `entity_id`, or an array of one element, which is
an identifier in any spelling. -/
def AsksFor (payload : Json) (e : EntityId) : Prop :=
  ∃ s, EntityId.ofText? s = some e ∧
    (payload = .object [("entity_id", .string s)] ∨ payload = .array [.string s])

theorem EntityId.ofText?_eq_some_iff {s : String} {e : EntityId} :
    ofText? s = some e ↔ s.toList.map Char.toLower ∈ e.uuid.spellings := by
  rw [ofText?, ← Uuid.ofText?_eq_some_iff]
  cases Uuid.ofText? s with
  | none => simp
  | some u =>
      cases e
      simp

/-! ### Values -/

/-- An identifier is read from a text only. -/
theorem Uuid.ofJson_eq_ok_iff {j : Json} {u : Uuid} :
    Uuid.ofJson j = .ok u ↔ ∃ s, EntityId.ofText? s = some ⟨u⟩ ∧ j = .string s := by
  cases j with
  | string s =>
      rw [Uuid.ofJson]
      cases hread : Uuid.ofText s with
      | ok v => simp [EntityId.ofText?, Uuid.ofText?, hread, Except.toOption]
      | error fault => simp [EntityId.ofText?, Uuid.ofText?, hread, Except.toOption]
  | null | bool | number | array | object => simp [Uuid.ofJson]

namespace Payload

theorem entityOfMembers_eq_ok_iff {ms : Json.Members} {e : EntityId} :
    entityOfMembers ms = .ok e ↔
      ∃ s, EntityId.ofText? s = some e ∧ ms = [("entity_id", .string s)] := by
  obtain ⟨u⟩ := e
  constructor
  · intro h
    unfold entityOfMembers at h
    split at h
    · cases h
    · rename_i name j rest
      split at h
      · rename_i hname
        split at h
        · cases h
        · rename_i v hread
          cases h
          obtain ⟨s, hs, rfl⟩ := Uuid.ofJson_eq_ok_iff.mp hread
          exact ⟨s, hs, by rw [hname]⟩
        · cases h
      · cases h
  · rintro ⟨s, hs, rfl⟩
    have hread : Uuid.ofJson (.string s) = .ok u := Uuid.ofJson_eq_ok_iff.mpr ⟨s, hs, rfl⟩
    simp [entityOfMembers, hread]

/-- **What asks for an entity** is read as this entity, and nothing else is read. -/
theorem entityOfJson_eq_ok_iff {j : Json} {e : EntityId} : entityOfJson j = .ok e ↔ AsksFor j e := by
  cases j with
  | object ms =>
      rw [entityOfJson, entityOfMembers_eq_ok_iff]
      simp [AsksFor]
  | array js =>
      match js with
      | [] => simp [entityOfJson, AsksFor]
      | [j] =>
          obtain ⟨u⟩ := e
          have hread : entityOfJson (.array [j]) = .ok ⟨u⟩ ↔ Uuid.ofJson j = .ok u := by
            rw [entityOfJson]
            cases Uuid.ofJson j <;> simp [Except.map]
          rw [hread, Uuid.ofJson_eq_ok_iff]
          simp [AsksFor]
      | j :: k :: js =>
          rw [entityOfJson]
          · cases Uuid.ofJson j <;> simp [AsksFor]
          · exact nofun
  | null | bool | number | string => simp [entityOfJson, AsksFor]

end Payload

namespace Registry

/-! ### Tags -/

/-- What registrations begin with. -/
inductive Origin
  | empty
  | standard

/-- The registry that registrations begin with. -/
def Origin.registry : Origin → Registry
  | .empty => Registry.empty
  | .standard => Registry.standard

/-- The tags that are known before any registration. -/
def Origin.tags : Origin → List String
  | .empty => []
  | .standard => [syncEntityTag, reindexDateTag]

/-- The registry after registrations. -/
def built (origin : Origin) (registrations : List (String × TaskKind)) : Registry :=
  registrations.foldl (fun r p => r.register p.1 p.2) origin.registry

/-- The tags that are known after registrations. -/
def known (origin : Origin) (registrations : List (String × TaskKind)) : List String :=
  origin.tags ++ registrations.map Prod.fst

theorem kindOf_register {r : Registry} {tag tag' : String} {kind : TaskKind} :
    (r.register tag kind).kindOf tag' = some .syncEntity ↔
      tag' = tag ∨ r.kindOf tag' = some .syncEntity := by
  rw [kindOf, register, Table.find?_insert]
  cases kind
  split
  · simp [*]
  · rename_i hne
    simp [kindOf, Ne.symm hne]

theorem kindOf_registry {origin : Origin} {tag : String} :
    origin.registry.kindOf tag = some .syncEntity ↔ tag ∈ origin.tags := by
  cases origin with
  | empty => simp [Origin.registry, Origin.tags, Registry.empty, kindOf]
  | standard =>
      rw [Origin.registry, Registry.standard, kindOf_register, kindOf_register]
      simp [Origin.tags, Registry.empty, kindOf, or_comm]

/-- **A tag is known** if it was registered, or was known to begin with. -/
theorem kindOf_built {origin : Origin} {registrations : List (String × TaskKind)} {tag : String} :
    (built origin registrations).kindOf tag = some .syncEntity ↔ tag ∈ known origin registrations := by
  rw [built, known]
  induction registrations using List.reverseRecOn with
  | nil => simp [kindOf_registry]
  | append_singleton registrations p ih =>
      rw [List.foldl_append, List.foldl_cons, List.foldl_nil, kindOf_register, ih, List.map_append,
        ← List.append_assoc, List.mem_append (t := List.map Prod.fst [p])]
      simp [or_comm]

variable {r : Registry} {t : Task}

/-! ### Tasks -/

theorem decode_eq_ok_iff {e : EntityId} : r.decode t = .ok (.syncEntity e) ↔
    r.kindOf t.tag = some .syncEntity ∧ AsksFor t.payload e := by
  rw [← Payload.entityOfJson_eq_ok_iff, decode, read]
  cases r.kindOf t.tag with
  | none => simp
  | some kind =>
      cases kind
      cases hread : Payload.entityOfJson t.payload <;> simp [Payload.ofJson, hread, Except.map]

/-- A task is refused in one way only. -/
theorem exists_decode (r : Registry) (t : Task) :
    (∃ e, r.decode t = .ok (.syncEntity e)) ∨
      ∃ reason, r.decode t = .error (.malformedPayload t.id reason) := by
  rw [decode]
  cases r.read t.tag t.payload with
  | ok p =>
      cases p with
      | syncEntity e => exact .inl ⟨e, rfl⟩
  | error reason => exact .inr ⟨reason, rfl⟩

end Registry

end Outbox
