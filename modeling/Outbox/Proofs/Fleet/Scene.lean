import Outbox.Proofs.Fleet.Basic

/-!
# What consumers owe

A consumer that holds the last task of an entity owes it something: either its tick still comes to
that entity, or the index is good already.  This is said about a `Scene`, which shows of a fleet
what entities and tasks look like, and no claims or stages; so a step that touches neither entities
nor tasks leaves the scene alone.

* `Scene.Good` — the index holds the version of the store, unless another consumer wrote it from
  what it had read before the last change;
* `Scene.Coherent` — what holds of a consumer at each of its stages;
* `Coherent.changed`, `Coherent.overwritten`, `Coherent.requeued` — nothing others do breaks it.
-/

namespace Outbox

open Outbox.Indexer Outbox.Memory Outbox.Reconciler Outbox.Time

/-! ### Stages -/

namespace Reconciler.Stage

/-- The claim under which a consumer works, as it was opened. -/
def opened? : Stage Claim → Option Claim
  | .resting _ => none
  | .claimed claim => some claim
  | .sawStore claim _ _ => some claim
  | .judged claim _ _ _ => some claim
  | .loaded claim _ _ _ => some claim
  | .upserted claim _ _ _ => some claim
  | .written claim _ _ => some claim
  | .failed claim _ => some claim

theorem exists_claim? {stage : Stage Claim} {claim : Claim} (h : stage.opened? = some claim) :
    ∃ asked, stage.claim? = some asked := by
  cases stage with
  | resting last => cases h
  | _ => exact ⟨_, rfl⟩

/-- What a consumer is going to write. -/
def plan? : Stage Claim → Option Plan
  | .loaded _ _ _ p => some p
  | .upserted _ _ _ p => some p
  | _ => none

/-- Whether the tick still comes to an entity before it deletes tasks.  A tick that has not judged
yet comes to everything, and a tick that failed deletes nothing. -/
def Owes (e : EntityId) : Stage Claim → Prop
  | .judged _ _ _ todo => e ∈ todo
  | .loaded _ _ _ p => e ∈ p.documents.map Document.id ∨ e ∈ p.tombstoned
  | .upserted _ _ _ p => e ∈ p.tombstoned
  | .written _ _ _ => False
  | _ => True

end Reconciler.Stage

/-! ### Scenes -/

/-- What entities and tasks look like. -/
structure Scene where
  entity : EntityId → Option Entity
  stored : EntityId → Option Stored
  queued : List TaskId
  latest : EntityId → Option TaskId
  outdated : EntityId → Bool
  versions : List (EntityId × Timestamp)

/-- There is more than one of them. -/
def Several (κ : Type) : Prop := ∃ j k : κ, j ≠ k

namespace Scene

/-- The entity, unless it is flagged as deleted. -/
def live (sc : Scene) (e : EntityId) : Option Entity := (sc.entity e).filter fun ent => !ent.deleted

/-- The index holds a live document of that version. -/
def HasVersion (sc : Scene) (e : EntityId) (v : Timestamp) : Prop :=
  ∃ d, sc.stored e = some (.live d) ∧ d.updated = v

/-- If the entity is live, then the index holds its version. -/
def Current (sc : Scene) (e : EntityId) : Prop :=
  ∀ ent, sc.live e = some ent → sc.HasVersion e ent.updated

/-- The index is as it should be, or was overwritten as only several consumers can do. -/
def Good (several : Prop) (sc : Scene) (e : EntityId) : Prop :=
  sc.Current e ∨ (several ∧ sc.outdated e = true)

/-- What holds of a plan, when `loaded` is what was known of last changes as the entities were read,
and `held` are the tasks that are claimed.  Where an entity was changed since, the task of that
change came too late for the claim. -/
structure Informed (several : Prop) (sc : Scene) (loaded : EntityId → Option TaskId) (p : Plan)
    (held : List TaskId) : Prop where
  seen : ∀ d ∈ p.documents, (d.id, d.updated) ∈ sc.versions
  documents_current : ∀ d ∈ p.documents, loaded d.id = sc.latest d.id →
    ∃ ent, sc.live d.id = some ent ∧ d.updated = ent.updated
  documents_past : ∀ d ∈ p.documents, loaded d.id ≠ sc.latest d.id →
    ∀ ent, sc.live d.id = some ent → d.updated ≠ ent.updated
  tombstoned_current : ∀ e ∈ p.tombstoned, loaded e = sc.latest e → sc.live e = none
  overtaken : ∀ e i, sc.latest e = some i → loaded e ≠ sc.latest e →
    i ∉ held ∧ (i ∈ sc.queued ∨ several)

/-- What holds of a consumer at a stage. -/
structure Coherent (several : Prop) (sc : Scene) (loaded : EntityId → Option TaskId)
    (stage : Stage Claim) : Prop where
  opened : ∀ claim asked, stage.opened? = some claim → stage.claim? = some asked →
    asked.tasks = claim.tasks ∧ claim.deleted = []
  /-- For the last task of an entity something is owed, or all is well. -/
  owes : ∀ asked, stage.claim? = some asked → ∀ e i, sc.latest e = some i → i ∈ asked.ids →
    stage.Owes e ∨ sc.Good several e
  /-- What was read of such an entity is still so. -/
  sight : ∀ claim asked primary, stage = .sawStore claim asked primary →
    ∀ e i, sc.latest e = some i → i ∈ asked.ids →
      Table.find? primary e = (sc.entity e).map Entity.status
  informed : ∀ asked p, stage.claim? = some asked → stage.plan? = some p →
    sc.Informed several loaded p asked.ids

variable {several : Prop} {sc : Scene} {loaded : EntityId → Option TaskId} {stage : Stage Claim}

/-- A consumer without a claim owes nothing. -/
theorem Coherent.resting (several : Prop) (sc : Scene) (loaded : EntityId → Option TaskId)
    (last : Option (Except Error Report)) : sc.Coherent several loaded (.resting last) :=
  ⟨nofun, nofun, nofun, nofun⟩

/-- A claim that was just opened, or that is about to be given back, owes everything. -/
theorem Coherent.claimed (several : Prop) (sc : Scene) (loaded : EntityId → Option TaskId)
    {claim : Claim} (hclaim : claim.deleted = []) :
    sc.Coherent several loaded (.claimed claim) where
  opened := by
    rintro _ _ ⟨⟩ ⟨⟩
    exact ⟨rfl, hclaim⟩
  owes _ _ _ _ _ _ := .inl trivial
  sight := nofun
  informed := nofun

theorem Coherent.failed (several : Prop) (sc : Scene) (loaded : EntityId → Option TaskId)
    {claim : Claim} (hclaim : claim.deleted = []) (e : Error) :
    sc.Coherent several loaded (.failed claim e) where
  opened := by
    rintro _ _ ⟨⟩ ⟨⟩
    exact ⟨rfl, hclaim⟩
  owes _ _ _ _ _ _ := .inl trivial
  sight := nofun
  informed := nofun

/-! ### What others do -/

/-- **Tasks come and go.**  Tasks that a plan was overtaken by may go with the commit of another
consumer. -/
theorem Coherent.requeued (h : sc.Coherent several loaded stage) {queued : List TaskId}
    (hqueued : ∀ i ∈ sc.queued, i ∈ queued ∨ several) :
    ({ sc with queued := queued } : Scene).Coherent several loaded stage where
  opened := h.opened
  owes := h.owes
  sight := h.sight
  informed asked p hasked hp :=
    have hin := h.informed asked p hasked hp
    { seen := hin.seen
      documents_current := hin.documents_current
      documents_past := hin.documents_past
      tombstoned_current := hin.tombstoned_current
      overtaken := fun e i hi hne =>
        ⟨(hin.overtaken e i hi hne).1, (hin.overtaken e i hi hne).2.elim (hqueued i) .inr⟩ }

/-- The scene after an entity was changed, with `i₀` for its task. -/
structure Changes (sc : Scene) (e₀ : EntityId) (i₀ : TaskId) (sc' : Scene) : Prop where
  entity : ∀ e, e ≠ e₀ → sc'.entity e = sc.entity e
  stored : sc'.stored = sc.stored
  queued : ∀ i ∈ sc.queued, i ∈ sc'.queued
  enqueued : i₀ ∈ sc'.queued
  latest : sc'.latest = Function.update sc.latest e₀ (some i₀)
  outdated : sc'.outdated = Function.update sc.outdated e₀ false
  versions : ∀ v ∈ sc.versions, v ∈ sc'.versions
  /-- If the entity is live now, then its version is a new one. -/
  fresh : ∀ ent, sc'.live e₀ = some ent → (e₀, ent.updated) ∉ sc.versions

namespace Changes

variable {sc' : Scene} {e₀ : EntityId} {i₀ : TaskId}

theorem latest_of_ne (h : Changes sc e₀ i₀ sc') {e : EntityId} (he : e ≠ e₀) :
    sc'.latest e = sc.latest e := by
  rw [h.latest, Function.update_of_ne he]

theorem latest_self (h : Changes sc e₀ i₀ sc') : sc'.latest e₀ = some i₀ := by
  rw [h.latest, Function.update_self]

theorem live_of_ne (h : Changes sc e₀ i₀ sc') {e : EntityId} (he : e ≠ e₀) :
    sc'.live e = sc.live e := by
  rw [live, live, h.entity e he]

theorem good_of_ne (h : Changes sc e₀ i₀ sc') {e : EntityId} (he : e ≠ e₀) :
    sc'.Good several e ↔ sc.Good several e := by
  rw [Good, Good, Current, Current, h.live_of_ne he, h.outdated, Function.update_of_ne he]
  simp only [HasVersion, h.stored]

/-- Nobody holds the task of a change that was just made. -/
theorem ne_of_held (h : Changes sc e₀ i₀ sc') {held : List TaskId} (hnew : i₀ ∉ held) {e : EntityId}
    {i : TaskId} (hi : sc'.latest e = some i) (hheld : i ∈ held) : e ≠ e₀ := by
  rintro rfl
  rw [h.latest_self] at hi
  cases hi
  exact hnew hheld

end Changes

/-- **Entities are changed.**  Nobody holds the new task yet, and a plan made before is marked as
overtaken. -/
theorem Coherent.changed {sc' : Scene} {e₀ : EntityId} {i₀ : TaskId}
    (h : sc.Coherent several loaded stage) (hc : Changes sc e₀ i₀ sc')
    (hnew : ∀ asked, stage.claim? = some asked → i₀ ∉ asked.ids) (hloaded : loaded e₀ ≠ some i₀) :
    sc'.Coherent several loaded stage where
  opened := h.opened
  owes asked hasked e i hi hheld := by
    have he := hc.ne_of_held (hnew asked hasked) hi hheld
    rw [hc.latest_of_ne he] at hi
    exact (h.owes asked hasked e i hi hheld).imp_right (hc.good_of_ne he).mpr
  sight claim asked primary hstage e i hi hheld := by
    have hasked : stage.claim? = some asked := by rw [hstage]; rfl
    have he := hc.ne_of_held (hnew asked hasked) hi hheld
    rw [hc.latest_of_ne he] at hi
    rw [hc.entity e he]
    exact h.sight claim asked primary hstage e i hi hheld
  informed asked p hasked hp := by
    have hin := h.informed asked p hasked hp
    have hne : ∀ e, loaded e = sc'.latest e → e ≠ e₀ := by
      rintro e he rfl
      exact hloaded (he.trans hc.latest_self)
    constructor
    case seen => exact fun d hd => hc.versions _ (hin.seen d hd)
    case documents_current =>
      intro d hd heq
      have he := hne d.id heq
      rw [hc.live_of_ne he]
      exact hin.documents_current d hd (heq.trans (hc.latest_of_ne he))
    case documents_past =>
      intro d hd hover ent hlive heq
      by_cases he : d.id = e₀
      · -- the version of the document was there before, and that of the change is new
        exact hc.fresh ent (he ▸ hlive) (he ▸ heq ▸ hin.seen d hd)
      · rw [hc.live_of_ne he] at hlive
        rw [hc.latest_of_ne he] at hover
        exact hin.documents_past d hd hover ent hlive heq
    case tombstoned_current =>
      intro e he heq
      have hne := hne e heq
      rw [hc.live_of_ne hne]
      exact hin.tombstoned_current e he (heq.trans (hc.latest_of_ne hne))
    case overtaken =>
      intro e i hi hover
      by_cases he : e = e₀
      · -- overtaken by this very change, whose task is in the queue and not in the claim
        subst he
        rw [hc.latest_self] at hi
        cases hi
        exact ⟨hnew asked hasked, .inl hc.enqueued⟩
      · rw [hc.latest_of_ne he] at hi hover
        obtain ⟨hnot, hqueued⟩ := hin.overtaken e i hi hover
        exact ⟨hnot, hqueued.imp_left (hc.queued i)⟩

/-! ### Writing the index -/

/-- The scene after a consumer wrote the index for the entities of `written`, from what it knew. -/
structure Overwrites (several : Prop) (sc : Scene) (loaded : EntityId → Option TaskId)
    (held : List TaskId) (written : EntityId → Prop) (sc' : Scene) : Prop where
  entity : sc'.entity = sc.entity
  queued : sc'.queued = sc.queued
  latest : sc'.latest = sc.latest
  versions : sc'.versions = sc.versions
  kept : ∀ e, ¬written e → sc'.stored e = sc.stored e ∧ sc'.outdated e = sc.outdated e
  marked : ∀ e, written e → (sc'.outdated e = true ↔ loaded e ≠ sc.latest e)
  current : ∀ e, written e → loaded e = sc.latest e → sc'.Current e
  past : ∀ e, written e → loaded e ≠ sc.latest e →
    ∀ ent, sc.live e = some ent → ¬sc'.HasVersion e ent.updated
  overtaken : ∀ e i, sc.latest e = some i → loaded e ≠ sc.latest e →
    i ∉ held ∧ (i ∈ sc.queued ∨ several)

namespace Overwrites

variable {sc' : Scene} {held : List TaskId} {written : EntityId → Prop}

theorem live (h : Overwrites several sc loaded held written sc') (e : EntityId) :
    sc'.live e = sc.live e := by
  rw [Scene.live, Scene.live, h.entity]

theorem good_of_not_written (h : Overwrites several sc loaded held written sc') {e : EntityId}
    (he : ¬written e) : sc'.Good several e ↔ sc.Good several e := by
  obtain ⟨hstored, houtdated⟩ := h.kept e he
  rw [Good, Good, Current, Current, h.live, houtdated]
  simp only [HasVersion, hstored]

/-- What was good stays good for whoever holds the last task: of the writer's own claim nothing was
overtaken, and if the claim is another's, then there are several. -/
theorem good (h : Overwrites several sc loaded held written sc') {e : EntityId} {i : TaskId}
    (hi : sc.latest e = some i) (hheld : i ∈ held ∨ several) (hgood : sc.Good several e) :
    sc'.Good several e := by
  by_cases hw : written e
  · by_cases hl : loaded e = sc.latest e
    · exact .inl (h.current e hw hl)
    · have hseveral : several := hheld.resolve_left (h.overtaken e i hi hl).1
      exact .inr ⟨hseveral, (h.marked e hw).mpr hl⟩
  · exact (h.good_of_not_written hw).mpr hgood

/-- For a task of the writer's own claim the write is up to date. -/
theorem good_of_held (h : Overwrites several sc loaded held written sc') {e : EntityId} {i : TaskId}
    (hi : sc.latest e = some i) (hheld : i ∈ held) (hw : written e) : sc'.Good several e := by
  refine .inl (h.current e hw ?_)
  by_contra hl
  exact (h.overtaken e i hi hl).1 hheld

/-- A task that is still there, or a good index: a write leaves one of them. -/
theorem accounted (h : Overwrites several sc loaded held written sc') {e : EntityId} {i : TaskId}
    (hi : sc.latest e = some i) (hold : i ∈ sc.queued ∨ sc.Good several e) :
    i ∈ sc'.queued ∨ sc'.Good several e := by
  rw [h.queued]
  by_cases hw : written e
  · by_cases hl : loaded e = sc.latest e
    · exact .inr (.inl (h.current e hw hl))
    · exact (h.overtaken e i hi hl).2.imp_right fun hs => .inr ⟨hs, (h.marked e hw).mpr hl⟩
  · exact hold.imp_right (h.good_of_not_written hw).mpr

/-- What is marked as outdated is not the version of the store. -/
theorem not_hasVersion (h : Overwrites several sc loaded held written sc') {e : EntityId}
    (hold : sc.outdated e = true → ∀ ent, sc.live e = some ent → ¬sc.HasVersion e ent.updated)
    (hmarked : sc'.outdated e = true) {ent : Entity} (hlive : sc'.live e = some ent) :
    ¬sc'.HasVersion e ent.updated := by
  rw [h.live] at hlive
  by_cases hw : written e
  · exact h.past e hw ((h.marked e hw).mp hmarked) ent hlive
  · obtain ⟨hstored, houtdated⟩ := h.kept e hw
    rw [houtdated] at hmarked
    rw [HasVersion, hstored]
    exact hold hmarked ent hlive

/-- What a plan is based on does not depend on the index. -/
theorem informed (h : Overwrites several sc loaded held written sc')
    {loaded' : EntityId → Option TaskId} {p : Plan} {held' : List TaskId}
    (hin : sc.Informed several loaded' p held') : sc'.Informed several loaded' p held' where
  seen := by
    rw [h.versions]
    exact hin.seen
  documents_current := by
    simp only [h.latest, h.live]
    exact hin.documents_current
  documents_past := by
    simp only [h.latest, h.live]
    exact hin.documents_past
  tombstoned_current := by
    simp only [h.latest, h.live]
    exact hin.tombstoned_current
  overtaken := by
    rw [h.latest, h.queued]
    exact hin.overtaken

end Overwrites

/-- **The index is written.**  Whoever holds the last task of an entity finds the index as good as
it was before. -/
theorem Coherent.overwritten {sc' : Scene} {held : List TaskId} {written : EntityId → Prop}
    {loaded' : EntityId → Option TaskId} (h : sc.Coherent several loaded' stage)
    (hw : Overwrites several sc loaded held written sc')
    (hheld : ∀ asked, stage.claim? = some asked → ∀ i ∈ asked.ids, i ∈ held ∨ several) :
    sc'.Coherent several loaded' stage where
  opened := h.opened
  owes asked hasked e i hi hmem := by
    rw [hw.latest] at hi
    exact (h.owes asked hasked e i hi hmem).imp_right (hw.good hi (hheld asked hasked i hmem))
  sight claim asked primary hstage e i hi hmem := by
    rw [hw.latest] at hi
    rw [hw.entity]
    exact h.sight claim asked primary hstage e i hi hmem
  informed asked p hasked hp := hw.informed (h.informed asked p hasked hp)

/-! ### The writer itself -/

section Writer

variable {sc' : Scene} {claim asked : Claim} {report : Report} {p : Plan}
  {reached : EntityId → Prop}

/-- After its documents were written a consumer owes the tombstones. -/
theorem Coherent.upserted (h : sc.Coherent several loaded (.loaded claim asked report p))
    (hw : Overwrites several sc loaded asked.ids reached sc')
    (hall : ∀ e ∈ p.documents.map Document.id, reached e) :
    sc'.Coherent several loaded (.upserted claim asked report p) where
  opened := h.opened
  owes := by
    rintro _ ⟨⟩ e i hi hmem
    rw [hw.latest] at hi
    rcases h.owes asked rfl e i hi hmem with (hdoc | htomb) | hgood
    · exact .inr (hw.good_of_held hi hmem (hall e hdoc))
    · exact .inl htomb
    · exact .inr (hw.good hi (.inl hmem) hgood)
  sight := nofun
  informed asked' p' hasked hp := hw.informed (h.informed asked' p' hasked hp)

/-- After its tombstones were written a consumer owes nothing. -/
theorem Coherent.written (h : sc.Coherent several loaded (.upserted claim asked report p))
    (hw : Overwrites several sc loaded asked.ids reached sc')
    (hall : ∀ e ∈ p.tombstoned, reached e) :
    sc'.Coherent several loaded (.written claim asked report) where
  opened := h.opened
  owes := by
    rintro _ ⟨⟩ e i hi hmem
    rw [hw.latest] at hi
    rcases h.owes asked rfl e i hi hmem with htomb | hgood
    · exact .inr (hw.good_of_held hi hmem (hall e htomb))
    · exact .inr (hw.good hi (.inl hmem) hgood)
  sight := nofun
  informed := nofun

end Writer

end Scene

end Outbox
