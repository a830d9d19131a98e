import Outbox.Proofs.Disposition
import Outbox.Proofs.Search.Agreement
import Outbox.Proofs.Time.Spelling

/-!
# Versions that an index gives back

An index shows the version of a document as the marker that was written, and whoever wrote it: an entity
compares as consistent exactly if the marker reads back as its version.  A marker of this program comes
back cut to microseconds, and not at all outside the years of four digits; so an entity whose version it
does not show is written again for every task that names it.  Other writers spell their markers as they
like.

* `Marked.exists_hits` — what is compared is the marker as it reads back;
* `marker_reads_back` — markers of this program, for every moment of the calendar;
* `spelling_without_influence` — markers of other writers, in every spelling of a moment.
-/

namespace Outbox.Search

open Outbox.Json Outbox.Time

/-- What a server holds of a live entity is a document with a marker; whatever else is asked for is held
with a version and a flag that can be read. -/
structure Marked (held : String → Option Tree) (ids : List EntityId) (e : Entity)
    (marker : List Char) : Prop where
  live : e.deleted = false
  asked : e.id ∈ ids
  typed : ∀ i ∈ ids, ∀ source, held i.text = some source → Typed source
  document : ∃ source, held e.id.text = some source ∧
    source.member? "updated" = some (.string (some (String.ofList marker)))

/-- **Only the moment of a marker is compared**, whoever wrote it. -/
theorem Marked.exists_hits {held : String → Option Tree} {ids : List EntityId} {e : Entity}
    {marker : List Char} {primary : Table EntityId PrimaryStatus} {answer : Tree}
    (h : Marked held ids e marker) (hprimary : Table.find? primary e.id = some e.status)
    (hanswer : SearchAnswer held (ids.map EntityId.text) answer) :
    ∃ hits, Hit.listOfTree? answer = some hits ∧
      classify primary (Hit.statuses hits) e.id
        = if readVersion? marker = some e.updated then .alreadyConsistent else .needsIndex := by
  obtain ⟨source, hheld, hmarker⟩ := h.document
  obtain ⟨hits, hhits, hfind⟩ := hanswer.exists_hits h.typed
  have hshown : (statusOf source).updated = readVersion? marker := by
    show ((source.member? "updated").bind text?).bind _ = _
    rw [hmarker, Option.bind_some, text?, Option.bind_some, String.toList_ofList]
  refine ⟨hits, hhits, ?_⟩
  rw [classify, hprimary, hfind, if_pos h.asked, hheld, Option.map_some, compareStatus, hshown]
  exact if_neg (Bool.eq_false_iff.mp h.live)

/-- What a server holds of a live entity is a document that was written from the entity's version;
whatever else is asked for is held with a version and a flag that can be read. -/
structure Written (held : String → Option Tree) (ids : List EntityId) (e : Entity) : Prop where
  live : e.deleted = false
  asked : e.id ∈ ids
  typed : ∀ i ∈ ids, ∀ source, held i.text = some source → Typed source
  document : ∃ d : Document, d.id = e.id ∧ d.updated = e.updated ∧
    held e.id.text = some (tree d.source)

/-- What was written from a version is marked with it. -/
theorem Written.marked {held : String → Option Tree} {ids : List EntityId} {e : Entity}
    (h : Written held ids e) : Marked held ids e e.updated.version := by
  obtain ⟨d, -, hversion, hheld⟩ := h.document
  exact ⟨h.live, h.asked, h.typed, _, hheld, hversion ▸ updated_source d⟩

/-- **Markers, over the whole calendar.**  Reading a marker gives the moment cut to microseconds, a
leap second staying one, in the years 0 to 9999, and nothing otherwise.  So an entity whose document
was written from that moment is consistent, by what an answer to a search shows of it, exactly for
whole microseconds in these years. -/
theorem marker_reads_back {t : Timestamp} (h : t.Valid) :
    readVersion? t.version = (if t.InFourDigits then some t.truncateMicros else none) ∧
      (nanosPerSecond ≤ t.truncateMicros.nanos ↔ nanosPerSecond ≤ t.nanos) ∧
      ∀ (held : String → Option Tree) (ids : List EntityId) (e : Entity)
        (primary : Table EntityId PrimaryStatus) (answer : Tree), e.updated = t →
        Written held ids e → Table.find? primary e.id = some e.status →
        SearchAnswer held (ids.map EntityId.text) answer →
        ∃ hits, Hit.listOfTree? answer = some hits ∧
          (classify primary (Hit.statuses hits) e.id = .alreadyConsistent ↔
            t.nanos % 1000 = 0 ∧ t.InFourDigits) := by
  refine ⟨readVersion?_version_eq h, Timestamp.truncateMicros_leap, ?_⟩
  rintro held ids e primary answer rfl hwritten hprimary hanswer
  obtain ⟨hits, hhits, hclassify⟩ := hwritten.marked.exists_hits hprimary hanswer
  refine ⟨hits, hhits, ?_⟩
  rw [hclassify, ← readVersion?_version_eq_some_iff h]
  by_cases hread : readVersion? e.updated.version = some e.updated
  · rw [if_pos hread]
    exact iff_of_true rfl hread
  · rw [if_neg hread]
    exact iff_of_false nofun hread

/-- The last second of 2016 was followed by a leap second.  A marker of that second, cut short, is still
in it; and an entity of that version is written again for every task. -/
theorem leap_second_reads_back :
    let t : Timestamp := ⟨1483228799, 1500000001⟩
    let e : Entity := ⟨default, t, false, []⟩
    let held : String → Option Tree := fun id =>
      if id = e.id.text then some (tree (Document.ofEntity e).source) else none
    readVersion? t.version = some ⟨1483228799, 1500000000⟩ ∧
      ∃ hits, Hit.listOfTree? (tree (Shelf.searchReply held [e.id.text])) = some hits ∧
        classify [(e.id, e.status)] (Hit.statuses hits) e.id ≠ .alreadyConsistent := by
  intro t e held
  have hvalid : t.Valid := by decide
  have hyear : t.InFourDigits := by decide
  obtain ⟨hread, -, hconsistent⟩ := marker_reads_back hvalid
  have hheld : held e.id.text = some (tree (Document.ofEntity e).source) := if_pos rfl
  have htyped : ∀ id ∈ [e.id.text], ∀ source, held id = some source → Typed source := by
    rintro id hid source hsource
    rw [List.mem_singleton.mp hid, hheld] at hsource
    exact Option.some.inj hsource ▸ typed_sourceOf (.live (Document.ofEntity e))
  have hwritten : Written held [e.id] e :=
    ⟨rfl, List.mem_singleton_self _, fun i hi => htyped i.text (List.mem_map_of_mem hi),
      Document.ofEntity e, rfl, rfl, hheld⟩
  rw [if_pos hyear, show t.truncateMicros = ⟨1483228799, 1500000000⟩ by decide] at hread
  obtain ⟨hits, hhits, hclassify⟩ := hconsistent held [e.id] e [(e.id, e.status)] _ rfl hwritten
    (by rw [Table.find?_cons, if_pos rfl]) (Shelf.searchAnswer_searchReply htyped)
  refine ⟨hread, hits, hhits, fun hnever => ?_⟩
  exact absurd (hclassify.mp hnever).1 (by decide)

/-! ### Other writers -/

/-- **The spelling of a marker has no influence.**  A moment is read from every text that shows it, with
whatever separator, digits of fraction and offset, on every clock whose year has four digits; and in UTC
also without an offset.  So a live entity is consistent with a document that is marked with any of these
texts if it has that version, and needs indexing if it has another. -/
theorem spelling_without_influence {t : Timestamp} (h : t.Valid) :
    (∀ minutes : Int, -1439 ≤ minutes ∧ minutes ≤ 1439 → (t.onClock minutes).InFourDigits →
      (∃ text, SpelledAt t minutes text) ∧
        ∀ text, SpelledAt t minutes text → readVersion? text = some t) ∧
    (t.InFourDigits →
      (∃ text, SpelledBare t text) ∧ ∀ text, SpelledBare t text → readVersion? text = some t) ∧
    ∀ text, (∃ minutes, (t.onClock minutes).InFourDigits ∧ SpelledAt t minutes text) ∨
        (t.InFourDigits ∧ SpelledBare t text) →
      ∀ (held : String → Option Tree) (ids : List EntityId) (e : Entity)
        (primary : Table EntityId PrimaryStatus) (answer : Tree), Marked held ids e text →
        Table.find? primary e.id = some e.status →
        SearchAnswer held (ids.map EntityId.text) answer →
        ∃ hits, Hit.listOfTree? answer = some hits ∧
          classify primary (Hit.statuses hits) e.id
            = if e.updated = t then .alreadyConsistent else .needsIndex := by
  refine ⟨fun minutes hday hyear => ⟨exists_spelledAt t hday, fun text => ?_⟩,
    fun hyear => ⟨exists_spelledBare t, fun text => ?_⟩, ?_⟩
  · exact readVersion?_spelledAt h hyear
  · exact readVersion?_spelledBare h hyear
  · intro text hspelled held ids e primary answer hmarked hprimary hanswer
    have hread : readVersion? text = some t := by
      rcases hspelled with ⟨minutes, hyear, hspelled⟩ | ⟨hyear, hspelled⟩
      · exact readVersion?_spelledAt h hyear hspelled
      · exact readVersion?_spelledBare h hyear hspelled
    obtain ⟨hits, hhits, hclassify⟩ := hmarked.exists_hits hprimary hanswer
    refine ⟨hits, hhits, hclassify.trans (if_congr ?_ rfl rfl)⟩
    rw [hread, Option.some.injEq, eq_comm]

/-- In the middle of the leap second after 2016 it is a quarter to six on a clock that is five hours and
three quarters ahead, in the year after.  The document that is marked so is consistent with that version,
and not with the second that follows. -/
theorem spelling_without_influence_leap :
    let t : Timestamp := ⟨1483228799, 1500000000⟩
    let text := "2017-01-01 05:44:60.5+05:45".toList
    let held : String → Option Tree := fun id =>
      if id = (default : EntityId).text then
        some (.object [(some "updated", .string (some (String.ofList text)))])
      else none
    let answer := tree (Shelf.searchReply held [(default : EntityId).text])
    let primary (v : Timestamp) : Table EntityId PrimaryStatus := [(default, ⟨v, false⟩)]
    readVersion? text = some t ∧
      ∃ hits, Hit.listOfTree? answer = some hits ∧
        classify (primary t) (Hit.statuses hits) default = .alreadyConsistent ∧
        classify (primary ⟨1483228800, 500000000⟩) (Hit.statuses hits) default = .needsIndex := by
  intro t text held answer primary
  have hvalid : t.Valid := by decide
  have hyear : (t.onClock 345).InFourDigits := by decide
  have hnanos : (t.onClock 345).fields.nanos = 5 * 10 ^ (9 - 1) := by decide
  have hfraction : ShowsFraction (t.onClock 345).fields.nanos ['.', '5'] :=
    hnanos ▸ @ShowsFraction.digits 1 5 (by decide) (by decide)
  have hoffset : ShowsOffset 345 ['+', '0', '5', ':', '4', '5'] :=
    @ShowsOffset.east 5 45 (by decide) (by decide)
  have hspelled : SpelledAt t 345 text :=
    ⟨' ', _, _, by decide, hfraction, hoffset, by decide⟩
  obtain ⟨hclocks, -, hconsistent⟩ := spelling_without_influence hvalid
  have hheld : held (default : EntityId).text
      = some (.object [(some "updated", .string (some (String.ofList text)))]) := if_pos rfl
  have htyped : ∀ id ∈ [(default : EntityId).text], ∀ source, held id = some source →
      Typed source := by
    rintro id hid source hsource
    rw [List.mem_singleton.mp hid, hheld] at hsource
    obtain rfl := Option.some.inj hsource
    exact ⟨fun u hu => ⟨_, (Option.some.inj hu).symm⟩, nofun⟩
  have hmarked (v : Timestamp) : Marked held [default] ⟨default, v, false, []⟩ text :=
    ⟨rfl, List.mem_singleton_self _, fun i hi => htyped i.text (List.mem_map_of_mem hi), _, hheld, rfl⟩
  have hfind (v : Timestamp) : Table.find? (primary v) default = some ⟨v, false⟩ := by
    rw [Table.find?_cons, if_pos rfl]
  have hanswer := Shelf.searchAnswer_searchReply htyped
  obtain ⟨hits, hhits, hsame⟩ := hconsistent text (.inl ⟨345, hyear, hspelled⟩) held [default]
    ⟨default, t, false, []⟩ (primary t) answer (hmarked t) (hfind t) hanswer
  obtain ⟨hits', hhits', hother⟩ := hconsistent text (.inl ⟨345, hyear, hspelled⟩) held [default]
    ⟨default, ⟨1483228800, 500000000⟩, false, []⟩ (primary _) answer (hmarked _) (hfind _) hanswer
  obtain rfl := Option.some.inj (hhits.symm.trans hhits')
  rw [if_pos rfl] at hsame
  rw [if_neg (by decide)] at hother
  exact ⟨(hclocks 345 (by decide) hyear).2 text hspelled, hits, hhits, hsame, hother⟩

end Outbox.Search
