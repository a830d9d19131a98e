import Outbox.Proofs.Registry
import Outbox.Proofs.Time.Relaxed

/-!
# The JSON form of a task reads back

A task is read from an object that has its five fields, whatever else that has, and from an array of
them in order; and in either its identifier may stand in any spelling, and its times in any text that
the relaxed format takes.  It is written in one of these forms.  So what was read from any form can be
written and read again, as reading gives only moments of the calendar, and these read back.

* `Task.ofJson_eq_ok_iff` — the forms of a task;
* `Task.ofJson_toJson`, `Task.valid_of_ofJson` — what was written reads back, what was read is valid;
* `Task.written_form_reads_back` — both together, for every task and every form.
-/

namespace Outbox

open Outbox.Time

/-! ### Fields -/

theorem Time.Timestamp.ofJson_eq_ok_iff {j : Json} {t : Timestamp} :
    Timestamp.ofJson j = .ok t ↔ ∃ s, j = .string s ∧ readRelaxed s.toList = .ok t := by
  cases j with
  | string s =>
      rw [Timestamp.ofJson]
      cases hread : readRelaxed s.toList with
      | ok t' => simp [hread]
      | error fault => simp [hread]
  | null | bool | number | array | object => simp [Timestamp.ofJson]

namespace Task

/-- Times that the calendar has. -/
structure Valid (t : Task) : Prop where
  enqueuedAt : t.enqueuedAt.Valid
  scheduledAt : t.scheduledAt.Valid

/-- Values that show the fields of a task. -/
structure ShowsFields (t : Task) (id enqueuedAt scheduledAt tag payload : Json) : Prop where
  /-- In any spelling. -/
  id : ∃ s, id = .string s ∧ s.toList.map Char.toLower ∈ t.id.uuid.spellings
  /-- In any text of the relaxed format. -/
  enqueuedAt : ∃ s, enqueuedAt = .string s ∧ readRelaxed s.toList = .ok t.enqueuedAt
  scheduledAt : ∃ s, scheduledAt = .string s ∧ readRelaxed s.toList = .ok t.scheduledAt
  tag : tag = .string t.tag
  payload : payload = t.payload

/-- The forms of a task. -/
inductive IsForm (t : Task) : Json → Prop
  /-- An object with the fields, and with whatever else. -/
  | object {ms : Json.Members} {id enqueuedAt scheduledAt tag payload : Json}
      (hid : Table.find? ms "id" = some id)
      (henqueuedAt : Table.find? ms "enqueued_at" = some enqueuedAt)
      (hscheduledAt : Table.find? ms "scheduled_at" = some scheduledAt)
      (htag : Table.find? ms "tag" = some tag) (hpayload : Table.find? ms "payload" = some payload)
      (h : t.ShowsFields id enqueuedAt scheduledAt tag payload) : IsForm t (.object ms)
  /-- The fields in order, and nothing else. -/
  | array {id enqueuedAt scheduledAt tag payload : Json}
      (h : t.ShowsFields id enqueuedAt scheduledAt tag payload) :
      IsForm t (.array [id, enqueuedAt, scheduledAt, tag, payload])

theorem tagOfJson_eq_ok_iff {j : Json} {s : String} : tagOfJson j = .ok s ↔ j = .string s := by
  cases j with
  | string s' => simp [tagOfJson]
  | null | bool | number | array | object => simp [tagOfJson]

variable {t : Task}

/-- The fields of a task are what its values are read as. -/
theorem showsFields_iff {id enqueuedAt scheduledAt tag payload : Json} :
    t.ShowsFields id enqueuedAt scheduledAt tag payload ↔ Uuid.ofJson id = .ok t.id.uuid ∧
      Timestamp.ofJson enqueuedAt = .ok t.enqueuedAt ∧
      Timestamp.ofJson scheduledAt = .ok t.scheduledAt ∧ tagOfJson tag = .ok t.tag ∧
      payload = t.payload := by
  have hid : Uuid.ofJson id = .ok t.id.uuid ↔
      ∃ s, id = .string s ∧ s.toList.map Char.toLower ∈ t.id.uuid.spellings := by
    simp only [Uuid.ofJson_eq_ok_iff, EntityId.ofText?_eq_some_iff, and_comm]
  rw [hid, Timestamp.ofJson_eq_ok_iff, Timestamp.ofJson_eq_ok_iff, tagOfJson_eq_ok_iff]
  constructor
  · exact fun h => ⟨h.id, h.enqueuedAt, h.scheduledAt, h.tag, h.payload⟩
  · rintro ⟨hid, henqueuedAt, hscheduledAt, htag, hpayload⟩
    exact ⟨hid, henqueuedAt, hscheduledAt, htag, hpayload⟩

/-! ### Reading the fields -/

section

variable {α : Type} {ms : Json.Members} {name : String} {a : α}

theorem field?_eq_ok_some_iff {read : Json → Except String α} :
    field? ms name read = .ok (some a) ↔ ∃ j, Table.find? ms name = some j ∧ read j = .ok a := by
  rw [field?]
  cases Table.find? ms name with
  | none => simp
  | some j => cases hread : read j <;> simp [Except.map, hread]

theorem need_eq_ok_iff {a? : Option α} : need name a? = .ok a ↔ a? = some a := by
  cases a? with
  | none => simp [need]
  | some a' => simp [need]

variable {xs : List Json} {i : Nat}

theorem needElement_eq_ok_iff {j : Json} : needElement xs i = .ok j ↔ xs[i]? = some j := by
  rw [needElement]
  cases xs[i]? with
  | none => simp
  | some j' => simp

theorem needElement_bind_eq_ok_iff {read : Json → Except String α} :
    (needElement xs i).bind read = .ok a ↔ ∃ j, xs[i]? = some j ∧ read j = .ok a := by
  rw [needElement]
  cases xs[i]? with
  | none => simp [Except.bind]
  | some j => simp [Except.bind]

end

theorem ofMembers_eq_ok_iff {ms : Json.Members} : ofMembers ms = .ok t ↔ t.IsForm (.object ms) := by
  have hread : ofMembers ms = .ok t ↔
      field? ms "enqueued_at" Timestamp.ofJson = .ok (some t.enqueuedAt) ∧
        field? ms "id" Uuid.ofJson = .ok (some t.id.uuid) ∧
        field? ms "scheduled_at" Timestamp.ofJson = .ok (some t.scheduledAt) ∧
        field? ms "tag" tagOfJson = .ok (some t.tag) ∧ Table.find? ms "payload" = some t.payload := by
    simp only [ofMembers, bind_eq_ok_iff, need_eq_ok_iff]
    constructor
    · rintro ⟨_, he, _, hi, _, hs, _, ht, _, rfl, _, rfl, _, rfl, _, rfl, _, hp, ⟨⟩⟩
      exact ⟨he, hi, hs, ht, hp⟩
    · rintro ⟨he, hi, hs, ht, hp⟩
      exact ⟨_, he, _, hi, _, hs, _, ht, _, rfl, _, rfl, _, rfl, _, rfl, _, hp, rfl⟩
  simp only [hread, field?_eq_ok_some_iff]
  constructor
  · rintro ⟨⟨e, he, he'⟩, ⟨i, hi, hi'⟩, ⟨s, hs, hs'⟩, ⟨g, hg, hg'⟩, hp⟩
    exact .object hi he hs hg hp (showsFields_iff.mpr ⟨hi', he', hs', hg', rfl⟩)
  · intro h
    cases h with
    | object hi he hs hg hp h =>
        obtain ⟨hi', he', hs', hg', rfl⟩ := showsFields_iff.mp h
        exact ⟨⟨_, he, he'⟩, ⟨_, hi, hi'⟩, ⟨_, hs, hs'⟩, ⟨_, hg, hg'⟩, hp⟩

theorem ofElements_eq_ok_iff {xs : List Json} : ofElements xs = .ok t ↔ t.IsForm (.array xs) := by
  have hread : ofElements xs = .ok t ↔ ∃ i e s g p, xs[0]? = some i ∧ xs[1]? = some e ∧
      xs[2]? = some s ∧ xs[3]? = some g ∧ xs[4]? = some p ∧ xs.length ≤ 5 ∧
      t.ShowsFields i e s g p := by
    simp only [ofElements, bind_eq_ok_iff, needElement_bind_eq_ok_iff, needElement_eq_ok_iff,
      showsFields_iff]
    constructor
    · rintro ⟨_, ⟨i, hi, hi'⟩, _, ⟨e, he, he'⟩, _, ⟨s, hs, hs'⟩, _, ⟨g, hg, hg'⟩, p, hp, hend⟩
      split at hend
      · cases hend
      · obtain rfl := Except.ok.inj hend
        exact ⟨i, e, s, g, p, hi, he, hs, hg, hp, by omega, hi', he', hs', hg', rfl⟩
    · rintro ⟨i, e, s, g, p, hi, he, hs, hg, hp, hlength, hi', he', hs', hg', rfl⟩
      exact ⟨_, ⟨i, hi, hi'⟩, _, ⟨e, he, he'⟩, _, ⟨s, hs, hs'⟩, _, ⟨g, hg, hg'⟩, _, hp,
        if_neg (by omega)⟩
  rw [hread]
  constructor
  · rintro ⟨i, e, s, g, p, hi, he, hs, hg, hp, hlength, h⟩
    match xs, hi, he, hs, hg, hp, hlength with
    | [_, _, _, _, _], rfl, rfl, rfl, rfl, rfl, _ => exact .array h
  · intro h
    cases h with
    | array h => exact ⟨_, _, _, _, _, rfl, rfl, rfl, rfl, rfl, Nat.le_refl _, h⟩

/-- **A task is read exactly from its forms.** -/
theorem ofJson_eq_ok_iff {j : Json} : ofJson j = .ok t ↔ t.IsForm j := by
  cases j with
  | object ms => exact ofMembers_eq_ok_iff
  | array xs => exact ofElements_eq_ok_iff
  | null | bool | number | string => exact iff_of_false nofun nofun

/-! ### Reading what was written -/

/-- The written form is one of the forms, if the calendar has the times. -/
theorem isForm_toJson (h : t.Valid) : t.IsForm t.toJson := by
  have htime : ∀ {time : Timestamp}, time.Valid →
      ∃ s, Json.string (String.ofList time.iso) = .string s ∧ readRelaxed s.toList = .ok time :=
    fun hvalid => ⟨_, rfl, by rw [String.toList_ofList, readRelaxed_iso hvalid]⟩
  refine .object rfl rfl rfl rfl rfl ?_
  exact ⟨⟨_, rfl, Uuid.ofText?_eq_some_iff.mp (Uuid.ofText?_text t.id.uuid)⟩, htime h.enqueuedAt,
    htime h.scheduledAt, rfl, rfl⟩

theorem ofJson_toJson (h : t.Valid) : ofJson t.toJson = .ok t :=
  ofJson_eq_ok_iff.mpr (isForm_toJson h)

/-- What was read is valid. -/
theorem valid_of_ofJson {j : Json} (h : ofJson j = .ok t) : t.Valid := by
  have hshows : ∀ {id enqueuedAt scheduledAt tag payload : Json},
      t.ShowsFields id enqueuedAt scheduledAt tag payload → t.Valid := by
    intro id enqueuedAt scheduledAt tag payload hshows
    obtain ⟨_, _, henqueuedAt⟩ := hshows.enqueuedAt
    obtain ⟨_, _, hscheduledAt⟩ := hshows.scheduledAt
    exact ⟨readRelaxed_valid henqueuedAt, readRelaxed_valid hscheduledAt⟩
  cases ofJson_eq_ok_iff.mp h with
  | object _ _ _ _ _ hfields => exact hshows hfields
  | array hfields => exact hshows hfields

/-- **A task survives its JSON form.**  What was written reads back as the task, exactly if the calendar
has its times.  What is read is any of the forms of a task, and whichever it was, writing the task and
reading it again gives the same task. -/
theorem written_form_reads_back :
    (∀ t : Task, ofJson t.toJson = .ok t ↔ t.Valid) ∧
      (∀ (j : Json) (t : Task), ofJson j = .ok t ↔ t.IsForm j) ∧
      ∀ (j : Json) (t : Task), ofJson j = .ok t → ofJson t.toJson = .ok t := by
  refine ⟨fun t => ⟨valid_of_ofJson, ofJson_toJson⟩, fun j t => ofJson_eq_ok_iff, fun j t h => ?_⟩
  exact ofJson_toJson (valid_of_ofJson h)

/-- The middle of the leap second after 2016 on a clock that is five hours and three quarters ahead, and
the first moment of the year 10000, in an array with a marked identifier.  They are written in UTC, with
three digits of fraction and with a sign before the year. -/
theorem written_form_reads_back_leap :
    let j : Json := .array [.string "URN:UUID:00000000-0000-0000-0000-00000000ABCD",
      .string "2017 - 1 -1 05:44:60.5 +05:45", .string "+10000-01-01T00:00:00 utc", .string "sync",
      .null]
    let t : Task := ⟨⟨.ofNat 0xabcd⟩, ⟨1483228799, 1500000000⟩, ⟨253402300800, 0⟩, "sync", .null⟩
    ofJson j = .ok t ∧ ofJson t.toJson = .ok t ∧
      t.toJson = .object [
        ("enqueued_at", .string "2016-12-31T23:59:60.500Z"),
        ("id", .string "00000000-0000-0000-0000-00000000abcd"), ("payload", .null),
        ("scheduled_at", .string "+10000-01-01T00:00:00Z"), ("tag", .string "sync")] := by
  intro j t
  have hread : ofJson j = .ok t := by decide +kernel
  exact ⟨hread, written_form_reads_back.2.2 j t hread, by decide +kernel⟩

end Task

end Outbox
