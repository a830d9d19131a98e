import Outbox.CommandLine.Run
import Outbox.Proofs.Config.Retry
import Outbox.Proofs.Decimal.Integer
import Outbox.Proofs.Reading
import Outbox.Proofs.TableName

/-!
# Configurations that are accepted

A configuration is accepted exactly if every setting can be read, and whatever is refused is refused as
a fault of the configuration.  What is accepted can be worked with but for one setting: the limit of a
claim is positive, the table is one that the store takes, and no wait between two attempts overflows;
but an interval of zero passes, and the service cannot be started with it.

* `Setting` — the number that an environment sets;
* `fromEnvironment_eq_ok_iff` — the configuration of an environment;
* `accepted_usable` — what an accepted configuration can be used for;
* `idle_interval_accepted` — a configuration that the service cannot be started with.
-/

namespace Outbox

open Outbox.Decimal Outbox.Time

/-! ### Refusals -/

/-- Whatever is refused is refused as a fault of the configuration. -/
def Blamed {α : Type} (x : Except Error α) : Prop := ∀ e, x = .error e → ∃ text, e = .config text

theorem Blamed.ok {α : Type} (a : α) : Blamed (.ok a) := nofun

theorem Blamed.error {α : Type} (text : String) : Blamed (.error (.config text) : Except Error α) :=
  fun _ h => ⟨text, (Except.error.inj h).symm⟩

theorem Blamed.bind {α β : Type} {x : Except Error α} {f : α → Except Error β} (h : Blamed x)
    (hf : ∀ a, Blamed (f a)) : Blamed (x >>= f) := by
  cases x with
  | error e => exact fun e' he => (Except.error.inj he) ▸ h e rfl
  | ok a => exact hf a

/-! ### Variables -/

/-- The number that an environment sets, or the standard one. -/
def Setting (env : Environment) (name : String) (range : IntegerRange) (standard n : Int) : Prop :=
  match env.optional name with
  | none => n = standard
  | some raw => ReadsAs range (Text.trim raw.toList) n

section

variable {env : Environment} {name : String} {range : IntegerRange} {standard n : Int}

/-- What is set is in the range, if the standard number is. -/
theorem Setting.mem (h : Setting env name range standard n)
    (hstandard : range.least ≤ standard ∧ standard ≤ range.greatest)
    (hrange : range.least ≤ 0 ∧ 0 ≤ range.greatest) : range.least ≤ n ∧ n ≤ range.greatest := by
  rw [Setting] at h
  split at h
  · exact h ▸ hstandard
  · exact h.mem hrange

end

namespace Environment

variable {env : Environment} {name : String} {range : IntegerRange} {standard n : Int}

theorem integer_eq_ok_iff (hrange : range.least ≤ 0 ∧ 0 ≤ range.greatest) :
    env.integer name range standard = .ok n ↔ Setting env name range standard n := by
  rw [integer, Setting]
  cases env.optional name with
  | none => rw [Except.ok.injEq, eq_comm]
  | some raw =>
      dsimp only
      rw [← readInteger_eq_ok_iff hrange]
      cases readInteger range (Text.trim raw.toList) with
      | ok m => rw [Except.ok.injEq, Except.ok.injEq]
      | error e => exact iff_of_false nofun nofun

/-- A number without a sign is a natural number. -/
theorem natural_eq_ok_iff {greatest : Int} (hstandard : 0 ≤ standard ∧ standard ≤ greatest) :
    env.integer name ⟨0, greatest⟩ standard = .ok n ↔
      ∃ m : Nat, n = m ∧ Setting env name ⟨0, greatest⟩ standard m := by
  have hrange : (0 : Int) ≤ 0 ∧ 0 ≤ greatest := ⟨Int.le_refl 0, by omega⟩
  rw [integer_eq_ok_iff hrange]
  constructor
  · intro hset
    have hmem := hset.mem hstandard hrange
    have hnat : n = n.toNat := (Int.toNat_of_nonneg hmem.1).symm
    exact ⟨n.toNat, hnat, hnat ▸ hset⟩
  · rintro ⟨m, rfl, hset⟩
    exact hset

theorem required_eq_ok_iff {s : String} : env.required name = .ok s ↔ env.get? name = some s := by
  rw [required]
  cases env.get? name with
  | none => exact iff_of_false nofun nofun
  | some v => rw [Except.ok.injEq, Option.some.injEq]

theorem blamed_integer : Blamed (env.integer name range standard) := by
  rw [integer]
  split
  · exact .ok _
  · split
    · exact .ok _
    · exact .error _

theorem blamed_required : Blamed (env.required name) := by
  rw [required]
  split
  · exact .ok _
  · exact .error _

end Environment

/-! ### The configuration of an environment -/

namespace Config

/-- What a configuration says is what the environment sets. -/
structure IsSet (env : Environment) (c : Config) : Prop where
  taskLimit : Setting env "SYNC_TASK_LIMIT" .signed64 1000 c.taskLimit
  positive : 0 < c.taskLimit
  primaryTable : c.primaryTable.text = (env.optional "PRIMARY_TABLE").getD "annotation"
  maxRetries : Setting env "INDEX_MAX_RETRIES" .word32 2 c.search.retry.maxRetries.toNat
  start : ∃ millis : Nat, Setting env "INDEX_RETRY_START_MS" .word64 200 millis ∧
    c.search.retry.start = .ofMillis millis
  step : ∃ millis : Nat, Setting env "INDEX_RETRY_STEP_MS" .word64 200 millis ∧
    c.search.retry.step = .ofMillis millis
  cap : ∃ millis : Nat, Setting env "INDEX_RETRY_MAX_MS" .word64 600 millis ∧
    c.search.retry.cap = .ofMillis millis
  databaseUrl : env.get? "DATABASE_URL" = some c.databaseUrl
  url : env.get? "SEARCH_URL" = some c.search.url
  pollInterval : ∃ seconds : Nat, Setting env "POLL_INTERVAL_SECS" .word64 60 seconds ∧
    c.pollInterval = .ofSeconds seconds
  index : c.search.index = (env.optional "SEARCH_INDEX").getD "annotation"
  apiKey : c.search.apiKey = env.optional "SEARCH_API_KEY"
  reindexTarget : c.search.reindexTarget = env.optional "SEARCH_REINDEX_TARGET"
  otelEndpoint : c.otelEndpoint = env.optional "OTEL_ENDPOINT"
  logLevel : c.logLevel = (env.optional "LOG_LEVEL").getD "info"

section

variable {env : Environment}

theorem readTaskLimit_eq_ok_iff {n : Int} :
    readTaskLimit env = .ok n ↔ Setting env "SYNC_TASK_LIMIT" .signed64 1000 n ∧ 0 < n := by
  rw [readTaskLimit, bind_eq_ok_iff]
  simp only [Environment.integer_eq_ok_iff (show IntegerRange.signed64.least ≤ 0 ∧ _ by decide)]
  constructor
  · rintro ⟨m, hset, hm⟩
    split at hm
    · cases hm
    · rename_i hpositive
      exact Except.ok.inj hm ▸ ⟨hset, by omega⟩
  · rintro ⟨hset, hpositive⟩
    exact ⟨n, hset, if_neg (by omega)⟩

theorem readPrimaryTable_eq_ok_iff {table : TableName} :
    readPrimaryTable env = .ok table ↔
      table.text = (env.optional "PRIMARY_TABLE").getD "annotation" :=
  TableName.ofText_eq_ok_iff

open Environment in
theorem readRetry_eq_ok_iff {retry : RetryPolicy} :
    readRetry env = .ok retry ↔
      Setting env "INDEX_MAX_RETRIES" .word32 2 retry.maxRetries.toNat ∧
      (∃ millis : Nat, Setting env "INDEX_RETRY_START_MS" .word64 200 millis ∧
        retry.start = .ofMillis millis) ∧
      (∃ millis : Nat, Setting env "INDEX_RETRY_STEP_MS" .word64 200 millis ∧
        retry.step = .ofMillis millis) ∧
      ∃ millis : Nat, Setting env "INDEX_RETRY_MAX_MS" .word64 600 millis ∧
        retry.cap = .ofMillis millis := by
  have hword {n : Int} :=
    @natural_eq_ok_iff env "INDEX_MAX_RETRIES" 2 n 0xffffffff (by decide)
  have hmillis {name : String} {standard n : Int} :=
    @natural_eq_ok_iff env name standard n 0xffffffffffffffff
  constructor
  · intro h
    simp only [readRetry, bind_eq_ok_iff] at h
    obtain ⟨_, hr, _, hs, _, ht, _, hc, h⟩ := h
    obtain ⟨retries, rfl, hretries⟩ := hword.mp hr
    obtain ⟨start, rfl, hstart⟩ := (hmillis (by decide)).mp hs
    obtain ⟨step, rfl, hstep⟩ := (hmillis (by decide)).mp ht
    obtain ⟨cap, rfl, hcap⟩ := (hmillis (by decide)).mp hc
    obtain rfl := Except.ok.inj h
    have hfits : retries < UInt32.size := by
      have hmem : (retries : Int) ≤ 0xffffffff := (hretries.mem (by decide) (by decide)).2
      show retries < 4294967296
      omega
    refine ⟨?_, ⟨start, hstart, rfl⟩, ⟨step, hstep, rfl⟩, cap, hcap, rfl⟩
    show Setting env _ _ _ ((UInt32.ofNat retries).toNat : Int)
    rwa [UInt32.toNat_ofNat_of_lt' hfits]
  · rintro ⟨hretries, ⟨start, hstart, hstart'⟩, ⟨step, hstep, hstep'⟩, cap, hcap, hcap'⟩
    simp only [readRetry, bind_eq_ok_iff]
    refine ⟨_, hword.mpr ⟨_, rfl, hretries⟩, _, (hmillis (by decide)).mpr ⟨_, rfl, hstart⟩, _,
      (hmillis (by decide)).mpr ⟨_, rfl, hstep⟩, _, (hmillis (by decide)).mpr ⟨_, rfl, hcap⟩, ?_⟩
    obtain ⟨maxRetries, _, _, _⟩ := retry
    dsimp only at hstart' hstep' hcap'
    subst hstart' hstep' hcap'
    show Except.ok (RetryPolicy.mk (UInt32.ofNat maxRetries.toNat) _ _ _) = _
    rw [UInt32.ofNat_toNat]
    rfl

open Environment in
/-- **The configuration of an environment.**  It is accepted exactly if every setting can be read, and
says what is set. -/
theorem fromEnvironment_eq_ok_iff {c : Config} : fromEnvironment env = .ok c ↔ IsSet env c := by
  have hmillis {n : Int} :=
    @natural_eq_ok_iff env "POLL_INTERVAL_SECS" 60 n 0xffffffffffffffff (by decide)
  constructor
  · intro h
    simp only [fromEnvironment, bind_eq_ok_iff] at h
    obtain ⟨_, hl, _, ht, _, hr, _, hd, _, hu, _, hp, h⟩ := h
    obtain ⟨hlimit, hpositive⟩ := readTaskLimit_eq_ok_iff.mp hl
    obtain ⟨hretries, hstart, hstep, hcap⟩ := readRetry_eq_ok_iff.mp hr
    obtain ⟨seconds, rfl, hseconds⟩ := hmillis.mp hp
    obtain rfl := Except.ok.inj h
    exact ⟨hlimit, hpositive, readPrimaryTable_eq_ok_iff.mp ht, hretries, hstart, hstep, hcap,
      required_eq_ok_iff.mp hd, required_eq_ok_iff.mp hu, ⟨seconds, hseconds, rfl⟩, rfl, rfl, rfl, rfl,
      rfl⟩
  · intro h
    obtain ⟨seconds, hseconds, hinterval⟩ := h.pollInterval
    simp only [fromEnvironment, bind_eq_ok_iff]
    refine ⟨_, readTaskLimit_eq_ok_iff.mpr ⟨h.taskLimit, h.positive⟩, _,
      readPrimaryTable_eq_ok_iff.mpr h.primaryTable, _,
      readRetry_eq_ok_iff.mpr ⟨h.maxRetries, h.start, h.step, h.cap⟩, _,
      required_eq_ok_iff.mpr h.databaseUrl, _, required_eq_ok_iff.mpr h.url, _,
      hmillis.mpr ⟨seconds, rfl, hseconds⟩, ?_⟩
    rw [← h.index, ← h.apiKey, ← h.reindexTarget, ← h.otelEndpoint, ← h.logLevel]
    show Except.ok { c with pollInterval := .ofSeconds seconds } = _
    rw [← hinterval]

/-- **Whatever is refused** is a fault of the configuration. -/
theorem blamed_fromEnvironment : Blamed (fromEnvironment env) := by
  have hlimit : Blamed (readTaskLimit env) :=
    Environment.blamed_integer.bind fun limit => by
      split
      · exact .error _
      · exact .ok _
  have htable : Blamed (readPrimaryTable env) := by
    rw [readPrimaryTable, TableName.ofText]
    split
    · exact .ok _
    · exact .error _
  have hretry : Blamed (readRetry env) :=
    Environment.blamed_integer.bind fun _ => Environment.blamed_integer.bind fun _ =>
      Environment.blamed_integer.bind fun _ => Environment.blamed_integer.bind fun _ => .ok _
  exact hlimit.bind fun _ => htable.bind fun _ => hretry.bind fun _ =>
    Environment.blamed_required.bind fun _ => Environment.blamed_required.bind fun _ =>
      Environment.blamed_integer.bind fun _ => .ok _

end

end Config

/-! ### Working with it -/

theorem Time.Duration.ofSeconds_eq_zero_iff {seconds : Nat} :
    Duration.ofSeconds seconds = .zero ↔ seconds = 0 := by
  rw [Duration.ofSeconds, Duration.saturate]
  split
  · exact ⟨fun h => congrArg Duration.seconds h, fun h => by subst h; rfl⟩
  · exact iff_of_false (by decide) (by omega)

namespace CommandLine

/-- A service that runs ends without a failure, whatever its ticks come to. -/
theorem fst_serve (r : Reconciler World Database.Claim) (ticks : Nat) (w : World) :
    (serve r ticks w).1 = .ok "" := by
  induction ticks generalizing w with
  | zero => rfl
  | succ ticks ih => exact ih _

/-- The service cannot be started with an interval of zero, and with any other it can. -/
theorem work_serve_panics_iff {c : Config} (setup : Session.Setup Search.Script) (s : Surroundings)
    (w : World) : (work c setup s .serve w).1 = .error .panic ↔ c.pollInterval = .zero := by
  rw [work]
  by_cases h : c.pollInterval = .zero
  · rw [if_pos h]
    exact iff_of_true rfl h
  · rw [if_neg h, fst_serve]
    exact iff_of_false nofun h

end CommandLine

namespace Config

/-- What the parts of the program ask of a configuration, but for the interval of the service. -/
structure Usable (c : Config) : Prop where
  /-- A claim takes at least one task. -/
  claims : 1 ≤ c.taskLimit ∧ c.taskLimit ≤ IntegerRange.signed64.greatest
  /-- The store takes the table. -/
  table : TableName.ofText c.primaryTable.text = .ok c.primaryTable
  /-- The waits are those of unbounded arithmetic. -/
  waits : ∀ n : UInt32, (c.search.retry.delay n).toNanos
    = min (c.search.retry.start.toNanos + n.toNat * c.search.retry.step.toNanos)
        c.search.retry.cap.toNanos
  /-- In machine words they are made of operations that do not overflow. -/
  words : ∀ n : UInt32, (c.search.retry.delay n).words
    = (c.search.retry.start.words.add (c.search.retry.step.words.mul n)).shorter
        c.search.retry.cap.words

/-- **Accepted configurations.**  Whatever is refused is refused as a fault of the configuration.  With
what is accepted, tasks can be claimed, the table read and calls repeated.  The service can be started
with it unless the interval is zero, and the interval is zero exactly if that is what is set. -/
theorem accepted_usable (env : Environment) :
    Blamed (fromEnvironment env) ∧
    ∀ c, fromEnvironment env = .ok c →
      Usable c ∧
      (∀ setup s w, (CommandLine.work c setup s .serve w).1 = .error .panic ↔
        Setting env "POLL_INTERVAL_SECS" .word64 60 0) := by
  refine ⟨blamed_fromEnvironment, fun c hc => ?_⟩
  have h := fromEnvironment_eq_ok_iff.mp hc
  have hlimit := h.taskLimit.mem (by decide) (by decide)
  refine ⟨⟨⟨h.positive, hlimit.2⟩, TableName.ofText_eq_ok_iff.mpr rfl, c.search.retry.toNanos_delay,
    fun n => ?_⟩, fun setup s w => ?_⟩
  · rw [RetryPolicy.delay, Duration.words_shorter, Duration.words_saturatingAdd,
      Duration.words_saturatingMul]
  · obtain ⟨seconds, hset, hinterval⟩ := h.pollInterval
    have hread {n : Int} : Setting env "POLL_INTERVAL_SECS" .word64 60 n ↔ _ :=
      (Environment.integer_eq_ok_iff (by decide)).symm
    rw [CommandLine.work_serve_panics_iff, hinterval, Duration.ofSeconds_eq_zero_iff]
    constructor
    · rintro rfl
      exact hset
    · intro hzero
      have hsame := Except.ok.inj ((hread.mp hset).symm.trans (hread.mp hzero))
      omega

/-- The bytes of a text in ASCII. -/
def ascii (s : String) : List UInt8 := s.toList.map fun c => .ofNat c.toNat

/-- What must be set, and an interval. -/
def withInterval (interval : String) : Environment :=
  [("DATABASE_URL", ascii "postgres://localhost/sync"), ("SEARCH_URL", ascii "http://localhost:9200"),
    ("POLL_INTERVAL_SECS", ascii interval)]

/-- The configuration of such an environment. -/
def configured (interval : Duration) : Config :=
  ⟨"postgres://localhost/sync", ⟨"http://localhost:9200", "annotation", none, none, .standard⟩, 1000,
    interval, .standard, none, "info"⟩

theorem accepted_usable_padded :
    fromEnvironment (withInterval " +007\n") = .ok (configured (.ofSeconds 7)) ∧
      Usable (configured (.ofSeconds 7)) := by
  have hc : fromEnvironment (withInterval " +007\n") = .ok (configured (.ofSeconds 7)) := by
    decide +kernel
  exact ⟨hc, ((accepted_usable (withInterval " +007\n")).2 _ hc).1⟩

/-- **An interval of zero is accepted**, and the service panics when it is started. -/
theorem idle_interval_accepted :
    fromEnvironment (withInterval "0") = .ok (configured .zero) ∧
      ∀ setup s w, (CommandLine.work (configured .zero) setup s .serve w).1 = .error .panic := by
  refine ⟨by decide +kernel, fun setup s w => ?_⟩
  exact (CommandLine.work_serve_panics_iff setup s w).mpr rfl

end Config

end Outbox
