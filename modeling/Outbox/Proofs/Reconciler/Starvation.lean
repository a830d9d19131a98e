import Outbox.Proofs.Reconciler.Drain

/-!
# What stands behind a rejected document

A tick of which a document is rejected fails as a whole: it has written the other documents of its
claim, and gives the claim back.  The next tick claims the same tasks, since the oldest come first, and
fails again.  So ticks get through the queue batch by batch up to the first one with a task that blocks
it, write what they can of this one, and never get to the tasks behind it.

* `exec_tick_of_serving` — a tick, whatever is rejected;
* `reach_of_free`, `reach_of_blocked` — the tasks that some ticks get to, by what the first does;
* `served` — what a run of ticks comes to, by induction over its ticks;
* `first_blocked_batch` — which entities are in the index once there were ticks enough for every task.
-/

namespace Outbox.Reconciler

open Outbox.Memory Outbox.Simulation Outbox.Time

/-- Ticks one after another, whatever comes of each, with some nanoseconds after each. -/
def attempts {ι : Type} (s : Setup ι) : List Nat → Action (World ι) (List (Except Error Report))
  | [] => pure []
  | wait :: waits => do
    let outcome ← s.reconciler.tick.attempt
    Action.change fun w => ((), { w with queue := w.queue.advance wait })
    let outcomes ← attempts s waits
    pure (outcome :: outcomes)

/-- Store and index are up, and a tick could claim every task; the index may reject documents. -/
structure Serving (w : World Index) : Prop where
  store : w.store.available = true
  index : w.index.available = true
  due : AllDue w.queue

/-- Whether a task makes every tick fail that claims it: it names a live entity that is rejected, and
whose version the index does not hold. -/
def blocks (registry : Registry) (w : World Index) (t : Task) : Bool :=
  (named? registry t).any fun i => decide (i ∈ w.index.rejected ∧ standing w i = .needsIndex)

variable {enrich : Transform} {registry : Registry} {limit : Int} {w : World Index}
  {tasks ordered : List Task}

theorem blocks_iff {t : Task} : blocks registry w t = true ↔
    ∃ i, Names registry t i ∧ i ∈ w.index.rejected ∧ standing w i = .needsIndex := by
  simp only [blocks, Option.any_eq_true, named?_eq_some, decide_eq_true_eq]

/-! ### One tick -/

/-- What is rejected of the documents of a tick comes from tasks that block it. -/
theorem exists_blocks_iff : (∃ t ∈ tasks, blocks registry w t = true) ↔
    ∃ i ∈ todo registry tasks w, i ∈ w.index.rejected := by
  simp only [blocks_iff, standing_eq_needsIndex, mem_todo]
  constructor
  · rintro ⟨t, ht, i, hnames, hrej, hneeds⟩
    exact ⟨i, ⟨⟨t, ht, hnames⟩, hneeds⟩, hrej⟩
  · rintro ⟨i, ⟨⟨t, ht, hnames⟩, hneeds⟩, hrej⟩
    exact ⟨t, ht, i, hnames, hrej, hneeds⟩

/-- The queue after a tick: as it was, if a task blocked the tick. -/
def queueAfter (registry : Registry) (limit : Int) (w : World Index) : Queue :=
  if (claim limit w).tasks.any (blocks registry w) then w.queue
  else settled registry limit w.queue

/-- **A tick, whatever is rejected.**  It writes what is not rejected of its documents, and it succeeds
if no task of its claim blocks it. -/
theorem exec_tick_of_serving (enrich : Transform) (registry : Registry) (limit : Int)
    (h : Serving w) :
    ∃ outcome, (Setup.inMemory enrich registry limit).reconciler.tick.exec w
        = (outcome, { w with
            queue := queueAfter registry limit w
            index := reindexed enrich registry (claim limit w).tasks w }) ∧
      ((∃ report, outcome = .ok report) ↔
        (claim limit w).tasks.any (blocks registry w) = false) := by
  by_cases hblocked : (claim limit w).tasks.any (blocks registry w) = true
  · obtain ⟨i, hi, hrej⟩ := exists_blocks_iff.mp (List.any_eq_true.mp hblocked)
    cases hanswer : w.index.verdict
        ((documents enrich registry (claim limit w).tasks w).map Document.id) with
    | ok u =>
        exact absurd hrej (Index.verdict_eq_ok_iff.mp hanswer i (mem_documents_ids.mpr hi))
    | error e =>
        refine ⟨.error e, ?_, by simp [hblocked]⟩
        rw [exec_tick_of_refused h.store h.index hanswer, queueAfter, if_pos hblocked, reindexed,
          if_neg (List.ne_nil_of_mem hi)]
        rfl
  · have haccepted : Accepted registry limit w := by
      refine ⟨h.store, h.index, fun i hi hrej => hblocked (List.any_eq_true.mpr ?_)⟩
      exact exists_blocks_iff.mpr ⟨i, hi, hrej⟩
    refine ⟨.ok (report registry (claim limit w).tasks (verdict registry (claim limit w).tasks w)),
      ?_, by simp [hblocked]⟩
    rw [exec_tick_of_accepted' enrich haccepted, queueAfter, if_neg hblocked]

/-- The world after a tick and some nanoseconds. -/
def attempted (enrich : Transform) (registry : Registry) (limit : Int) (wait : Nat)
    (w : World Index) : World Index :=
  { w with
    queue := (queueAfter registry limit w).advance wait
    index := reindexed enrich registry (claim limit w).tasks w }

theorem exec_attempts_cons (enrich : Transform) (registry : Registry) (limit : Int) (h : Serving w)
    (wait : Nat) (waits : List Nat) :
    ∃ outcome, ((∃ report, outcome = .ok report) ↔
        (claim limit w).tasks.any (blocks registry w) = false) ∧
      (attempts (Setup.inMemory enrich registry limit) (wait :: waits)).exec w
        = let rest := (attempts (Setup.inMemory enrich registry limit) waits).exec
            (attempted enrich registry limit wait w)
          (rest.1.map (outcome :: ·), rest.2) := by
  obtain ⟨outcome, hexec, hok⟩ := exec_tick_of_serving enrich registry limit h
  have hattempt := Action.exec_attempt (Setup.inMemory enrich registry limit).reconciler.tick w
  rw [hexec] at hattempt
  refine ⟨outcome, hok, ?_⟩
  rw [attempts, Action.exec_bind_ok hattempt]
  exact Action.exec_bind_pure _ _ _

theorem Serving.attempted (h : Serving w) (wait : Nat) :
    Serving (attempted enrich registry limit wait w) where
  store := h.store
  index := available_reindexed.trans h.index
  due := by
    show AllDue ((queueAfter registry limit w).advance wait)
    rw [queueAfter]
    split
    · exact h.due.advance wait
    · exact (h.due.settled registry limit).advance wait

/-- A tick changes nothing for the entities that are rejected, so what blocks one blocks the next. -/
theorem blocks_attempted (wait : Nat) :
    blocks registry (attempted enrich registry limit wait w) = blocks registry w := by
  funext t
  rw [blocks, blocks]
  congr 1
  funext i
  refine decide_eq_decide.mpr ?_
  have hrejected : (attempted enrich registry limit wait w).index.rejected = w.index.rejected :=
    rejected_reindexed
  rw [hrejected]
  refine and_congr_right fun hrej => ?_
  rw [standing_eq_needsIndex, standing_eq_needsIndex]
  exact exists_congr fun e => and_congr_right fun _ =>
    not_congr (Index.HasVersion.congr (stored?_reindexed_of_notMem (.inl hrej)))

/-- **What a tick adds to the index**: the versions of the entities that its tasks name, unless they
are rejected. -/
theorem hasVersion_reindexed {i : EntityId} {e : Entity} (hlive : w.store.live? i = some e)
    (hrej : i ∉ w.index.rejected) :
    (reindexed enrich registry tasks w).HasVersion i e.updated ↔
      w.index.HasVersion i e.updated ∨ ∃ t ∈ tasks, Names registry t i := by
  by_cases hi : i ∈ todo registry tasks w
  · obtain ⟨entity, hentity, hstored⟩ := stored?_reindexed enrich hi hrej
    have hsame : entity = e := Option.some.inj (hentity.symm.trans hlive)
    exact iff_of_true ⟨_, hstored, hsame ▸ rfl⟩ (.inr (mem_todo.mp hi).1)
  · rw [Index.HasVersion.congr (stored?_reindexed_of_notMem (.inr hi))]
    refine ⟨.inl, fun hor => hor.elim id fun hnamed => ?_⟩
    by_contra hversion
    exact hi (mem_todo.mpr ⟨hnamed, e, hlive, hversion⟩)

/-! ### Batches -/

section

variable {α : Type} {p : α → Bool} {size : Nat} {l : List α}

/-- What so many rounds get to that take the first elements of a list: a batch is gone after its round,
but a batch with an element that blocks it comes again in every round. -/
def reach (p : α → Bool) (size rounds : Nat) (l : List α) : List α :=
  l.take (min rounds (l.findIdx p / size + 1) * size)

theorem findIdx_lt_of_blocked (hblocked : (l.take size).any p = true) : l.findIdx p < size := by
  obtain ⟨a, ha, hpa⟩ := List.any_eq_true.mp hblocked
  have hlt := List.findIdx_lt_length_of_exists ⟨a, ha, hpa⟩
  rw [List.findIdx_take, List.length_take] at hlt
  omega

/-- Without a blocking element in its first batch, a list is searched behind it. -/
theorem findIdx_of_free (hfree : (l.take size).any p = false) :
    l.findIdx p = (l.drop size).findIdx p + min size l.length := by
  have hfront : (l.take size).findIdx p = (l.take size).length :=
    List.findIdx_eq_length.mpr fun a ha => by simpa using List.any_eq_false.mp hfree a ha
  have happend : (l.take size ++ l.drop size).findIdx p = _ := List.findIdx_append
  rwa [List.take_append_drop, hfront, if_neg (Nat.lt_irrefl _), List.length_take] at happend

/-- **A first batch that is blocked** is all that is got to. -/
theorem reach_of_blocked (hblocked : (l.take size).any p = true) (rounds : Nat) :
    reach p size (rounds + 1) l = l.take size := by
  have hzero : l.findIdx p / size = 0 := Nat.div_eq_of_lt (findIdx_lt_of_blocked hblocked)
  rw [reach, hzero, Nat.min_eq_right (by omega), Nat.zero_add, Nat.one_mul]

/-- **A first batch that is not blocked** is followed by what is got to behind it. -/
theorem reach_of_free (hsize : 0 < size) (hfree : (l.take size).any p = false) (rounds : Nat) :
    reach p size (rounds + 1) l = l.take size ++ reach p size rounds (l.drop size) := by
  have hfind := findIdx_of_free hfree
  by_cases hshort : l.length < size
  · have hnone : l.drop size = [] := List.drop_eq_nil_of_le (by omega)
    have hall : l.length ≤ min (rounds + 1) (l.findIdx p / size + 1) * size :=
      Nat.le_trans (Nat.le_of_lt hshort)
        (Nat.le_mul_of_pos_left size (Nat.lt_min.mpr ⟨Nat.succ_pos _, Nat.succ_pos _⟩))
    rw [reach, reach, hnone, List.take_nil, List.append_nil, List.take_of_length_le hall,
      List.take_of_length_le (by omega)]
  · have hnext : l.findIdx p / size = (l.drop size).findIdx p / size + 1 := by
      rw [hfind, Nat.min_eq_left (by omega), Nat.add_div_right _ hsize]
    have hrounds : min (rounds + 1) (l.findIdx p / size + 1) * size
        = size + min rounds ((l.drop size).findIdx p / size + 1) * size := by
      rw [hnext, Nat.add_min_add_right, Nat.add_mul, Nat.one_mul, Nat.add_comm]
    rw [reach, reach, hrounds, List.take_add]

/-- Rounds enough for every element are as good as any number of them. -/
theorem reach_of_length_le (hsize : 0 < size) {rounds : Nat} (henough : l.length ≤ rounds) :
    reach p size rounds l = l.take ((l.findIdx p / size + 1) * size) := by
  rw [reach]
  by_cases hle : l.findIdx p / size + 1 ≤ rounds
  · rw [Nat.min_eq_right hle]
  · have hall : l.length ≤ rounds * size :=
      Nat.le_trans henough (Nat.le_mul_of_pos_right rounds hsize)
    have hmore : rounds * size ≤ (l.findIdx p / size + 1) * size :=
      Nat.mul_le_mul_right size (by omega)
    rw [Nat.min_eq_left (by omega), List.take_of_length_le hall,
      List.take_of_length_le (Nat.le_trans hall hmore)]

/-- The rounds before the batch that is blocked are free, and so is every round if none is. -/
def Free (p : α → Bool) (size : Nat) (l : List α) (round : Nat) : Prop :=
  round < l.findIdx p / size ∨ ∀ a ∈ l, p a = false

theorem not_free_of_blocked (hblocked : (l.take size).any p = true) (round : Nat) :
    ¬Free p size l round := by
  rintro (hlt | hnone)
  · rw [Nat.div_eq_of_lt (findIdx_lt_of_blocked hblocked)] at hlt
    exact Nat.not_lt_zero _ hlt
  · obtain ⟨a, ha, hpa⟩ := List.any_eq_true.mp hblocked
    rw [hnone a (List.mem_of_mem_take ha)] at hpa
    cases hpa

theorem free_zero (hsize : 0 < size) :
    Free p size l 0 ↔ (l.take size).any p = false := by
  constructor
  · intro hfree
    by_contra hblocked
    exact not_free_of_blocked (by simpa using hblocked) 0 hfree
  · intro hfree
    have hfind := findIdx_of_free hfree
    by_cases hshort : l.length < size
    · refine .inr fun a ha => ?_
      rw [← List.take_of_length_le (Nat.le_of_lt hshort)] at ha
      simpa using List.any_eq_false.mp hfree a ha
    · exact .inl (Nat.div_pos (by omega) hsize)

theorem free_succ (hsize : 0 < size) (hfree : (l.take size).any p = false) (round : Nat) :
    Free p size l (round + 1) ↔ Free p size (l.drop size) round := by
  have hfind := findIdx_of_free hfree
  have hsplit := List.take_append_drop size l
  have hall : (∀ a ∈ l, p a = false) ↔ ∀ a ∈ l.drop size, p a = false := by
    refine ⟨fun h a ha => h a (List.mem_of_mem_drop ha), fun h a ha => ?_⟩
    rw [← hsplit] at ha
    rcases List.mem_append.mp ha with ha | ha
    · simpa using List.any_eq_false.mp hfree a ha
    · exact h a ha
  rw [Free, Free, hall]
  by_cases hshort : l.length < size
  · have hnone : l.drop size = [] := List.drop_eq_nil_of_le (by omega)
    simp [hnone]
  · rw [hfind, Nat.min_eq_left (by omega), Nat.add_div_right _ hsize, Nat.succ_lt_succ_iff]

end

/-! ### A run of ticks -/

/-- What some ticks come to over tasks in a given order. -/
structure Served (registry : Registry) (limit : Int) (ordered : List Task) (w : World Index)
    (outcomes : List (Except Error Report)) (w' : World Index) : Prop where
  store : w'.store = w.store
  /-- The ticks succeed that come before the batch that is blocked. -/
  succeeded : ∀ n outcome, outcomes[n]? = some outcome →
    ((∃ report, outcome = .ok report) ↔ Free (blocks registry w) limit.toNat ordered n)
  /-- The entities are indexed that are named by the tasks that were got to. -/
  indexed : ∀ i e, w.store.live? i = some e → i ∉ w.index.rejected →
    (w'.index.HasVersion i e.updated ↔ w.index.HasVersion i e.updated ∨
      ∃ t ∈ reach (blocks registry w) limit.toNat outcomes.length ordered, Names registry t i)

/-- No tick changes nothing. -/
theorem Served.nil (registry : Registry) (limit : Int) (ordered : List Task) (w : World Index) :
    Served registry limit ordered w [] w where
  store := rfl
  succeeded := nofun
  indexed i e _ _ := by simp [reach]

/-- **A tick before a run.**  It comes over the same tasks again if one of its claim blocks it, and over
those behind them otherwise. -/
theorem Served.cons {wait : Nat} {outcome : Except Error Report}
    {outcomes : List (Except Error Report)} {w' : World Index} (hlimit : 0 < limit.toNat)
    (hclaim : (claim limit w).tasks = ordered.take limit.toNat)
    (hok : (∃ report, outcome = .ok report) ↔
      (claim limit w).tasks.any (blocks registry w) = false)
    (hrest : Served registry limit
      (if (claim limit w).tasks.any (blocks registry w) then ordered
        else ordered.drop limit.toNat)
      (attempted enrich registry limit wait w) outcomes w') :
    Served registry limit ordered w (outcome :: outcomes) w' := by
  have hblocks : blocks registry (attempted enrich registry limit wait w) = blocks registry w :=
    blocks_attempted wait
  rw [hclaim] at hok hrest
  have hsucceeded := hrest.succeeded
  have hindexed := hrest.indexed
  rw [hblocks] at hsucceeded hindexed
  constructor
  case store => exact hrest.store
  case succeeded =>
    intro n outcome' hn
    cases n with
    | zero =>
        obtain rfl : outcome = outcome' := Option.some.inj hn
        rw [hok, free_zero hlimit]
    | succ n =>
        rw [hsucceeded n outcome' hn]
        split
        · rename_i hblocked
          exact iff_of_false (not_free_of_blocked hblocked n) (not_free_of_blocked hblocked (n + 1))
        · rename_i hfree
          rw [free_succ hlimit (by simpa using hfree)]
  case indexed =>
    intro i e hlive hrej
    have hrejected : i ∉ (attempted enrich registry limit wait w).index.rejected := by
      show i ∉ (reindexed enrich registry _ w).rejected
      rwa [rejected_reindexed]
    have hfirst : (attempted enrich registry limit wait w).index.HasVersion i e.updated ↔
        w.index.HasVersion i e.updated ∨ ∃ t ∈ ordered.take limit.toNat, Names registry t i := by
      rw [← hclaim]
      exact hasVersion_reindexed hlive hrej
    rw [hindexed i e hlive hrejected, hfirst, List.length_cons, or_assoc]
    refine or_congr_right ?_
    split
    · rename_i hblocked
      rw [reach_of_blocked hblocked]
      -- whatever the rest gets to is in the same batch
      refine or_iff_left_of_imp ?_
      rintro ⟨t, ht, hnames⟩
      cases outcomes with
      | nil => simp [reach] at ht
      | cons outcome outcomes =>
          rw [List.length_cons, reach_of_blocked hblocked] at ht
          exact ⟨t, ht, hnames⟩
    · rename_i hfree
      rw [reach_of_free hlimit (by simpa using hfree)]
      simp only [List.mem_append, or_and_right, exists_or]

/-- **A run of ticks**, whatever is rejected. -/
theorem served (enrich : Transform) (registry : Registry) {limit : Int} (hlimit : 0 < limit)
    (waits : List Nat) (h : Serving w) (hage : ByAge w.queue.tasks ordered) :
    ∃ outcomes w', (attempts (Setup.inMemory enrich registry limit) waits).exec w
        = (.ok outcomes, w') ∧
      outcomes.length = waits.length ∧ Served registry limit ordered w outcomes w' := by
  have hl : 0 < limit.toNat := by omega
  induction waits generalizing w ordered with
  | nil => exact ⟨[], w, rfl, rfl, .nil registry limit ordered w⟩
  | cons wait waits ih =>
      have hclaim : (claim limit w).tasks = ordered.take limit.toNat :=
        h.due.claimDue hage limit
      have hnext : ByAge (attempted enrich registry limit wait w).queue.tasks
          (if (claim limit w).tasks.any (blocks registry w) then ordered
            else ordered.drop limit.toNat) := by
        show ByAge (queueAfter registry limit w).tasks _
        rw [queueAfter]
        split
        · exact hage
        · exact h.due.byAge_settled hage registry limit
      obtain ⟨outcome, hok, hexec⟩ := exec_attempts_cons enrich registry limit h wait waits
      obtain ⟨outcomes, w', hrun, hlength, hserved⟩ := ih (h.attempted wait) hnext
      refine ⟨outcome :: outcomes, w', ?_, by rw [List.length_cons, List.length_cons, hlength],
        hserved.cons hl hclaim hok⟩
      rw [hexec, hrun]
      rfl

/-- **What stands behind a rejected document.**  After as many ticks as there are tasks, a live entity
that is not rejected is in the index in its version exactly if it was before, or if a task names it that
stands in the batches up to the first one with a task that blocks it.  From this batch on every tick
fails, and without one all of them succeed. -/
theorem first_blocked_batch (enrich : Transform) (registry : Registry) {limit : Int}
    (hlimit : 0 < limit) (h : Serving w) (waits : List Nat)
    (henough : w.queue.tasks.length ≤ waits.length) :
    ∃ ordered, ByAge w.queue.tasks ordered ∧
      ∃ outcomes w', (attempts (Setup.inMemory enrich registry limit) waits).exec w
          = (.ok outcomes, w') ∧
        outcomes.length = waits.length ∧ w'.store = w.store ∧
        (∀ n outcome, outcomes[n]? = some outcome → ((∃ report, outcome = .ok report) ↔
          n < ordered.findIdx (blocks registry w) / limit.toNat ∨
            ∀ t ∈ ordered, blocks registry w t = false)) ∧
        ∀ i e, w.store.live? i = some e → i ∉ w.index.rejected →
          (w'.index.HasVersion i e.updated ↔ w.index.HasVersion i e.updated ∨
            ∃ t ∈ ordered.take
              ((ordered.findIdx (blocks registry w) / limit.toNat + 1) * limit.toNat),
              Names registry t i) := by
  have hage := byAge_mergeSort w.queue.tasks
  obtain ⟨outcomes, w', hexec, hlength, hserved⟩ := served enrich registry hlimit waits h hage
  rw [← hage.perm.length_eq, ← hlength] at henough
  have hindexed := hserved.indexed
  rw [reach_of_length_le (by omega) henough] at hindexed
  exact ⟨_, hage, outcomes, w', hexec, hlength, hserved.store, hserved.succeeded, hindexed⟩

/-- Two live entities and a task for each of them; the index rejects the one whose task is the older. -/
def starving : World Index :=
  { rejecting with queue := { rejecting.queue with tasks := rejecting.queue.tasks.take 2 } }

theorem serving_starving : Serving starving :=
  ⟨rfl, rfl, by decide +kernel, by decide +kernel⟩

theorem first_blocked_batch_starving :
    Serving starving ∧ starving.queue.tasks.length ≤ [0, 7].length ∧
      ∃ ordered, ByAge starving.queue.tasks ordered ∧
        ∃ outcomes w', (attempts (Setup.inMemory Enrichment.textLength Registry.standard 1)
            [0, 7]).exec starving = (.ok outcomes, w') ∧
          outcomes.length = [0, 7].length ∧ w'.store = starving.store ∧
          (∀ n outcome, outcomes[n]? = some outcome → ((∃ report, outcome = .ok report) ↔
            n < ordered.findIdx (blocks Registry.standard starving) / Int.toNat 1 ∨
              ∀ t ∈ ordered, blocks Registry.standard starving t = false)) ∧
          ∀ i e, starving.store.live? i = some e → i ∉ starving.index.rejected →
            (w'.index.HasVersion i e.updated ↔ starving.index.HasVersion i e.updated ∨
              ∃ t ∈ ordered.take ((ordered.findIdx (blocks Registry.standard starving)
                / Int.toNat 1 + 1) * Int.toNat 1), Names Registry.standard t i) := by
  have henough : starving.queue.tasks.length ≤ [0, 7].length := by decide +kernel
  exact ⟨serving_starving, henough, first_blocked_batch Enrichment.textLength Registry.standard
    (by decide) serving_starving [0, 7] henough⟩

/-- **An entity that is never indexed.**  It is live and not rejected, and a task names it; but claims
are of one task, and the older one is blocked in every tick. -/
theorem starved_by_rejection :
    Serving starving ∧ starving.queue.tasks.length = 2 ∧
      (∀ t ∈ starving.queue.tasks, (fault? Registry.standard t).isNone) ∧
      ∃ i e, starving.store.live? i = some e ∧ i ∉ starving.index.rejected ∧
        (∃ t ∈ starving.queue.tasks, Names Registry.standard t i) ∧
        ∃ outcomes w', (attempts (Setup.inMemory Enrichment.textLength Registry.standard 1)
            [0, 0]).exec starving = (.ok outcomes, w') ∧ w'.store = starving.store ∧
          ¬w'.index.HasVersion i e.updated := by
  have hage : ByAge starving.queue.tasks starving.queue.tasks :=
    ⟨List.Perm.refl _, by decide +kernel, fun _ => rfl⟩
  obtain ⟨outcomes, w', hexec, hlength, hserved⟩ := served Enrichment.textLength Registry.standard
    (show (0 : Int) < 1 by decide) [0, 0] serving_starving hage
  have hlive : starving.store.live? ⟨.ofNat 2⟩
      = some ⟨⟨.ofNat 2⟩, ⟨8, 0⟩, false, []⟩ := by decide +kernel
  have hrej : (⟨.ofNat 2⟩ : EntityId) ∉ starving.index.rejected := by decide +kernel
  refine ⟨serving_starving, by decide +kernel, by decide +kernel, _, _, hlive, hrej,
    by decide +kernel, outcomes, w', hexec, hserved.store, ?_⟩
  rw [hserved.indexed _ _ hlive hrej, hlength]
  decide +kernel

end Outbox.Reconciler
