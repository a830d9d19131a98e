import Mathlib.Data.ENat.Lattice
import Mathlib.Logic.Relation
import Outbox.Proofs.Search.Client

/-!
# How often a request is sent

A request is sent again while it fails in a way that may pass and retries are left.  `Again` leads from
one round of this loop to the next, whatever the way to the index is; against a sequence of replies that
is given beforehand (`playing`) the rounds can be counted.

* `Round.exec`, `Again.counter` — what comes of a loop comes of each of its rounds, and the number of
  the retry is exact from each to the next;
* `exists_last_round`, `exec_sendFrom_of_last` — there is a last round, and its attempt is the outcome;
* `round_playing` — the rounds against a sequence of replies;
* `send_retries` — all that is sent and waited for, and what comes of it.
-/

namespace Outbox.Search

open Outbox.Time

/-! ### Failures that may pass -/

/-- No connection, no reply in time, throttling, or trouble on the other side. -/
def Exchange.isTransient : Exchange → Bool
  | .reply status _ _ => status == 429 || 500 ≤ status
  | .dropped => false
  | .refused | .timedOut => true

/-- The error of an exchange may pass if the exchange says so. -/
theorem Exchange.isTransient_of_outcome {x : Exchange} {url : String} {e : Error}
    (h : x.outcome url = .error e) : e.isTransient = x.isTransient := by
  cases x with
  | reply status body complete =>
      rw [Exchange.outcome] at h
      split at h
      · cases h
      · cases h
        rfl
  | dropped | refused | timedOut =>
      cases h
      rfl

theorem Exchange.outcome_of_isTransient {x : Exchange} (h : x.isTransient = true) (url : String) :
    ∃ e, x.outcome url = .error e ∧ e.isTransient = true := by
  cases houtcome : x.outcome url with
  | error e => exact ⟨e, rfl, (isTransient_of_outcome houtcome).trans h⟩
  | ok body =>
      cases x with
      | reply status bytes complete =>
          -- no status is a success and calls for another attempt
          have hsuccess : Exchange.isSuccess status = true := by
            by_contra hnot
            rw [Exchange.outcome, if_neg hnot] at houtcome
            cases houtcome
          simp only [Exchange.isSuccess, Exchange.isTransient, Bool.and_eq_true, Bool.or_eq_true,
            decide_eq_true_eq, beq_iff_eq] at hsuccess h
          omega
      | dropped | refused | timedOut => cases houtcome

/-- The number of failures that may pass before something else comes, if ever. -/
noncomputable def leading (replies : ℕ → Exchange) : ℕ∞ :=
  ⨅ (i : ℕ) (_ : (replies i).isTransient = false), (i : ℕ∞)

theorem isTransient_of_lt_leading {replies : ℕ → Exchange} {i : ℕ} (h : (i : ℕ∞) < leading replies) :
    (replies i).isTransient = true := by
  by_contra hnot
  rw [Bool.not_eq_true] at hnot
  exact absurd (iInf₂_le i hnot) (not_le.mpr h)

theorem lt_leading {replies : ℕ → Exchange} {i : ℕ} (h : (i : ℕ∞) ≤ leading replies)
    (htransient : (replies i).isTransient = true) : (i : ℕ∞) < leading replies := by
  rw [← ENat.add_one_le_iff (ENat.natCast_ne_top i)]
  refine le_iInf₂ fun j hj => ?_
  have hle : i ≤ j := by exact_mod_cast h.trans (iInf₂_le j hj)
  have hne : i ≠ j := by
    rintro rfl
    rw [htransient] at hj
    cases hj
  exact_mod_cast Nat.lt_of_le_of_ne hle hne

/-! ### Rounds -/

namespace Client

variable {σ : Type} {policy : RetryPolicy} {t : Transport σ} {request : Request} {s : σ}
  {round next : UInt32 × σ}

/-- From one round to the next: an attempt fails in a way that may pass, a retry is left, and some time
goes by.  A round has the number of its retry and the state that it starts from. -/
inductive Again (policy : RetryPolicy) (t : Transport σ) (request : Request) :
    UInt32 × σ → UInt32 × σ → Prop
  | intro {retry : UInt32} {s s' : σ} {e : Error}
      (failed : (attempt t request).exec s = (.error e, s')) (transient : e.isTransient = true)
      (left : retry < policy.maxRetries) :
      Again policy t request (retry, s) (retry + 1, t.wait (policy.delay retry) s')

/-- The rounds from the first attempt on. -/
def Round (policy : RetryPolicy) (t : Transport σ) (request : Request) (s : σ) :
    UInt32 × σ → Prop :=
  Relation.ReflTransGen (Again policy t request) (0, s)

/-- What comes of a round comes of the next one. -/
theorem Again.exec (h : Again policy t request round next) :
    (sendFrom policy t request round.1).exec round.2
      = (sendFrom policy t request next.1).exec next.2 := by
  cases h with
  | intro failed transient left =>
      rw [exec_sendFrom, failed]
      exact if_pos ⟨left, transient⟩

/-- **The number of the retry is exact**, since it is below the bound when it is advanced. -/
theorem Again.counter (h : Again policy t request round next) :
    next.1.toNat = round.1.toNat + 1 ∧ next.1.toNat ≤ policy.maxRetries.toNat := by
  cases h with
  | @intro retry s s' e failed transient left =>
      have hlt : retry.toNat < policy.maxRetries.toNat := UInt32.lt_iff_toNat_lt.1 left
      have hmax := policy.maxRetries.toNat_lt
      have hone : (1 : UInt32).toNat = 1 := rfl
      have hnext : (retry + 1).toNat = retry.toNat + 1 := by
        rw [UInt32.toNat_add, hone, Nat.mod_eq_of_lt (by omega)]
      exact ⟨hnext, hnext ▸ hlt⟩

/-- **What comes of a loop comes of each of its rounds.** -/
theorem Round.exec (h : Round policy t request s round) :
    (sendFrom policy t request 0).exec s = (sendFrom policy t request round.1).exec round.2 := by
  induction h with
  | refl => rfl
  | tail _ hagain ih => exact ih.trans hagain.exec

/-- In the last round the attempt is what it comes to. -/
theorem exec_sendFrom_of_last {retry : UInt32} (h : ∀ next, ¬Again policy t request (retry, s) next) :
    (sendFrom policy t request retry).exec s = (attempt t request).exec s := by
  rw [exec_sendFrom]
  cases hattempt : (attempt t request).exec s with
  | mk r s' =>
      cases r with
      | ok body => rfl
      | error e => exact if_neg fun hagain => h _ ⟨hattempt, hagain.2, hagain.1⟩

/-- There is a last round, since every round takes a retry. -/
theorem exists_last_round (policy : RetryPolicy) (t : Transport σ) (request : Request) (s : σ) :
    ∃ round, Round policy t request s round ∧ ∀ next, ¬Again policy t request round next := by
  suffices h : ∀ retry s, ∃ round, Relation.ReflTransGen (Again policy t request) (retry, s) round ∧
      ∀ next, ¬Again policy t request round next from h 0 s
  intro retry
  induction retry using retry_induction policy with
  | step retry ih =>
      intro s
      by_cases hagain : ∃ next, Again policy t request (retry, s) next
      · obtain ⟨next, hnext⟩ := hagain
        cases hnext with
        | intro failed transient left =>
            obtain ⟨round, hround, hlast⟩ := ih left _
            exact ⟨round, hround.head ⟨failed, transient, left⟩, hlast⟩
      · exact ⟨(retry, s), .refl, fun next hnext => hagain ⟨next, hnext⟩⟩

/-- A path that cannot be asked for fails before anything is sent. -/
theorem exec_send_of_unreachable {settings : Settings} {path : String}
    (h : ∀ url, ¬Reaches settings path url) (request : Url → Request) :
    (send settings t path request).exec s = (.error (.http .badRequest), s) := by
  rw [send]
  split
  · rfl
  · rename_i url hurl
    split
    · rename_i hreach
      rw [Bool.and_eq_true] at hreach
      exact absurd ⟨hurl, hreach.1, hreach.2⟩ (h url)
    · rfl

/-! ### Against a sequence of replies -/

/-- What happens on the way to the index. -/
inductive Event
  | sent (request : Request)
  | waited (d : Duration)
  deriving DecidableEq

/-- Which reply is next, and what happened so far. -/
structure Tape where
  next : ℕ
  events : List Event

/-- Nothing has happened. -/
def Tape.blank : Tape := ⟨0, []⟩

/-- Gives one reply after the other, whatever is sent. -/
def playing (replies : ℕ → Exchange) : Transport Tape where
  exchange request s := (replies s.next, ⟨s.next + 1, s.events ++ [.sent request]⟩)
  wait d s := ⟨s.next, s.events ++ [.waited d]⟩

/-- What happened when so many attempts have failed and were waited for. -/
def retried (policy : RetryPolicy) (request : Request) (n : ℕ) : List Event :=
  (List.range n).flatMap fun i => [.sent request, .waited (policy.delay (.ofNat i))]

theorem retried_succ (policy : RetryPolicy) (request : Request) (n : ℕ) :
    retried policy request (n + 1)
      = (retried policy request n ++ [.sent request]) ++ [.waited (policy.delay (.ofNat n))] := by
  rw [retried, List.range_succ, List.flatMap_append, List.append_assoc]
  rfl

variable {replies : ℕ → Exchange} {n : ℕ}

theorem exec_attempt_playing (replies : ℕ → Exchange) (request : Request) (s : Tape) :
    (attempt (playing replies) request).exec s
      = ((replies s.next).outcome request.url.text, ⟨s.next + 1, s.events ++ [.sent request]⟩) := rfl

/-- **One round.**  It is followed by the next if its reply may pass and a retry is left. -/
theorem again_playing {next : UInt32 × Tape} (hn : n ≤ policy.maxRetries.toNat) :
    Again policy (playing replies) request (.ofNat n, ⟨n, retried policy request n⟩) next ↔
      ((replies n).isTransient = true ∧ n < policy.maxRetries.toNat) ∧
        next = (.ofNat (n + 1), ⟨n + 1, retried policy request (n + 1)⟩) := by
  have hcounter : (UInt32.ofNat n).toNat = n :=
    UInt32.toNat_ofNat_of_lt' (Nat.lt_of_le_of_lt hn policy.maxRetries.toNat_lt)
  have hleft : UInt32.ofNat n < policy.maxRetries ↔ n < policy.maxRetries.toNat := by
    rw [UInt32.lt_iff_toNat_lt, hcounter]
  have hnext : ((.ofNat n + 1, (playing replies).wait (policy.delay (.ofNat n))
        ⟨n + 1, retried policy request n ++ [.sent request]⟩) : UInt32 × Tape)
      = (.ofNat (n + 1), ⟨n + 1, retried policy request (n + 1)⟩) := by
    rw [retried_succ, UInt32.ofNat_add]
    rfl
  constructor
  · intro h
    cases h with
    | intro failed transient left =>
        obtain ⟨houtcome, hstate⟩ := Prod.mk.inj (failed.symm.trans (exec_attempt_playing ..))
        rw [hstate]
        exact ⟨⟨Exchange.isTransient_of_outcome houtcome.symm ▸ transient, hleft.mp left⟩, hnext⟩
  · rintro ⟨⟨htransient, hlt⟩, rfl⟩
    obtain ⟨e, houtcome, he⟩ := Exchange.outcome_of_isTransient htransient request.url.text
    rw [← hnext]
    refine ⟨?_, he, hleft.mpr hlt⟩
    rw [exec_attempt_playing, houtcome]

/-- **The rounds** against a sequence of replies: as many as may pass, and not more than there are
retries. -/
theorem round_playing {round : UInt32 × Tape} :
    Round policy (playing replies) request .blank round ↔
      ∃ i : ℕ, (i : ℕ∞) ≤ min (leading replies) policy.maxRetries.toNat ∧
        round = (.ofNat i, ⟨i, retried policy request i⟩) := by
  constructor
  · intro h
    induction h with
    | refl => exact ⟨0, by simp, rfl⟩
    | tail _ hagain ih =>
        obtain ⟨i, hi, rfl⟩ := ih
        obtain ⟨hleading, hmax⟩ := le_min_iff.mp hi
        obtain ⟨⟨htransient, hlt⟩, rfl⟩ := (again_playing (by exact_mod_cast hmax)).mp hagain
        refine ⟨i + 1, le_min ?_ (by exact_mod_cast hlt), rfl⟩
        exact_mod_cast (ENat.add_one_le_iff (ENat.natCast_ne_top i)).mpr
          (lt_leading hleading htransient)
  · rintro ⟨i, hi, rfl⟩
    induction i with
    | zero => exact .refl
    | succ i ih =>
        obtain ⟨hleading, hmax⟩ := le_min_iff.mp hi
        have hmax : i + 1 ≤ policy.maxRetries.toNat := by exact_mod_cast hmax
        have hlt : (i : ℕ∞) < leading replies :=
          lt_of_lt_of_le (by exact_mod_cast Nat.lt_succ_self i) hleading
        refine (ih (le_min hlt.le (by exact_mod_cast Nat.le_of_succ_le hmax))).tail ?_
        exact (again_playing (Nat.le_of_succ_le hmax)).mpr
          ⟨⟨isTransient_of_lt_leading hlt, hmax⟩, rfl⟩

/-! ### All of it -/

/-- The request of an event that sent one. -/
def Event.request? : Event → Option Request
  | .sent request => some request
  | .waited _ => none

theorem requests_retried (policy : RetryPolicy) (request : Request) (n : ℕ) :
    (retried policy request n).filterMap Event.request? = List.replicate n request := by
  induction n with
  | zero => rfl
  | succ n ih =>
      rw [retried_succ, List.filterMap_append, List.filterMap_append, ih, List.replicate_succ']
      exact List.append_nil _

/-- What becomes of a request that is retried `n` times, by the sequence of replies. -/
structure Retried (policy : RetryPolicy) (request : Request) (replies : ℕ → Exchange) (n : ℕ)
    (result : Except Error SuccessBody × Tape) : Prop where
  /-- As often as a failure may pass, but not more often than is allowed. -/
  retries : (n : ℕ∞) = min (leading replies) policy.maxRetries.toNat
  /-- One request more than that, and always the same. -/
  requests : result.2.events.filterMap Event.request? = List.replicate (n + 1) request
  /-- Between two of them the policy's delay for this retry. -/
  events : result.2.events
    = ((List.range n).flatMap fun i => [.sent request, .waited (policy.delay (.ofNat i))])
      ++ [.sent request]
  /-- The last reply is what it comes to. -/
  outcome : result.1 = (replies n).outcome request.url.text
  /-- The number of the retry is that of the requests which were sent before. -/
  rounds : ∀ round, Round policy (playing replies) request .blank round ↔
    ∃ i ≤ n, round = (.ofNat i, ⟨i, retried policy request i⟩)
  /-- It is never advanced beyond what its type can hold. -/
  counter : ∀ round next, Again policy (playing replies) request round next →
    next.1.toNat = round.1.toNat + 1 ∧ next.1.toNat ≤ policy.maxRetries.toNat

theorem exists_retries (policy : RetryPolicy) (replies : ℕ → Exchange) :
    ∃ n : ℕ, (n : ℕ∞) = min (leading replies) policy.maxRetries.toNat :=
  ENat.ne_top_iff_exists.mp (ne_top_of_le_ne_top (ENat.natCast_ne_top _) (min_le_right _ _))

theorem retried_sendFrom (policy : RetryPolicy) (request : Request) (replies : ℕ → Exchange) :
    ∃ n, Retried policy request replies n
      ((sendFrom policy (playing replies) request 0).exec .blank) := by
  obtain ⟨n, hn⟩ := exists_retries policy replies
  have hmax : n ≤ policy.maxRetries.toNat := by exact_mod_cast hn.trans_le (min_le_right _ _)
  have hlast : Round policy (playing replies) request .blank
      (.ofNat n, ⟨n, retried policy request n⟩) := round_playing.mpr ⟨n, hn.le, rfl⟩
  -- another round would be one more than there are
  have hend : ∀ next, ¬Again policy (playing replies) request
      (.ofNat n, ⟨n, retried policy request n⟩) next := by
    intro next hagain
    obtain ⟨⟨htransient, hlt⟩, -⟩ := (again_playing hmax).mp hagain
    have hleading := lt_leading (hn.le.trans (min_le_left _ _)) htransient
    have hboth : (n : ℕ∞) < min (leading replies) policy.maxRetries.toNat :=
      lt_min hleading (by exact_mod_cast hlt)
    exact absurd hn hboth.ne
  refine ⟨n, ?_⟩
  rw [hlast.exec, exec_sendFrom_of_last hend, exec_attempt_playing]
  constructor
  case retries => exact hn
  case requests =>
    rw [List.filterMap_append, requests_retried, List.replicate_succ']
    rfl
  case events => rfl
  case outcome => rfl
  case rounds =>
    intro round
    rw [round_playing, ← hn]
    simp only [Nat.cast_le]
  case counter => exact fun round next h => h.counter

/-- **How often a request is sent**, and what comes of it.  If there is no address to send it to, it is
not sent at all. -/
theorem send_retries (settings : Settings) (path : String) (request : Url → Request)
    (replies : ℕ → Exchange) :
    (∀ url, Reaches settings path url → ∃ n, Retried settings.retry (request url) replies n
      ((send settings (playing replies) path request).exec .blank)) ∧
    ((∀ url, ¬Reaches settings path url) →
      (send settings (playing replies) path request).exec .blank
        = (.error (.http .badRequest), .blank)) := by
  refine ⟨fun url hurl => ?_, fun hurl => exec_send_of_unreachable hurl request⟩
  rw [exec_send_of_reaches hurl]
  exact retried_sendFrom settings.retry (request url) replies

/-- An index on this machine that is tried three times. -/
def patient : Settings := ⟨"http://localhost:9200", "annotation", none, none, .standard⟩

/-- No connection, then trouble, and a success at last. -/
def recovering : ℕ → Exchange
  | 0 => .refused
  | 1 => .reply 503 [] true
  | _ => .reply 200 [] true

theorem send_retries_recovering :
    let result := (send patient (playing recovering) Settings.bulkPath (.bulk patient [])).exec .blank
    result.1 = .ok (some []) ∧ ∃ url, Reaches patient Settings.bulkPath url ∧
      ∃ n, Retried patient.retry (.bulk patient [] url) recovering n result := by
  intro result
  have hreachable : reachable patient Settings.bulkPath = true := by decide +kernel
  obtain ⟨url, hurl⟩ := reaches_of_reachable hreachable
  refine ⟨by decide +kernel, url, hurl, ?_⟩
  exact (send_retries patient Settings.bulkPath (.bulk patient []) recovering).1 url hurl

end Client

end Outbox.Search
