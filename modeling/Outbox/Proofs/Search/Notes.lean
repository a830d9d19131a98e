import Outbox.Proofs.Search.Client

/-!
# Notes of what was exchanged

A transport that notes every request with what came back for it, and is the same transport in all
else.  What a call of the client comes to can then be told from the exchanges that it made: a value
comes from the last of them, which was a success.

* `noted_sendFrom` — a request is noted as often as it is sent, and the last exchange is the outcome;
* `exec_statuses_noting` — projections are read from a reply that is noted;
* `exec_writeBulk_noting` — a write that succeeds has sent its items.
-/

namespace Outbox.Search

variable {σ : Type}

/-- Requests that were sent, each with what came back. -/
abbrev Notes := List (Request × Exchange)

/-- The same transport, with notes. -/
def Transport.noting (t : Transport σ) : Transport (σ × Notes) where
  exchange request s :=
    let (exchange, s') := t.exchange request s.1
    (exchange, s', s.2 ++ [(request, exchange)])
  wait d s := (t.wait d s.1, s.2)

/-- The hits of a reply, if it is a success whose body came whole and can be read. -/
def Exchange.hits? : Exchange → Option (List Hit)
  | .reply status body true =>
    if isSuccess status then (Json.readBytes body).bind Hit.listOfTree? else none
  | _ => none

namespace Client

variable {settings : Settings} {t : Transport σ} {s s' : σ × Notes}

/-- **What is noted of a request**: nothing but this request, and last the exchange that was taken,
whatever it was. -/
theorem noted_sendFrom (policy : RetryPolicy) (request : Request) (retry : UInt32) (s : σ × Notes) :
    ∃ earlier exchange,
      ((sendFrom policy t.noting request retry).exec s).2.2
          = s.2 ++ (earlier ++ [(request, exchange)]) ∧
        (∀ n ∈ earlier, n.1 = request) ∧
        ((sendFrom policy t.noting request retry).exec s).1
          = exchange.outcome request.url.text := by
  induction retry using retry_induction policy generalizing s with
  | step retry ih =>
      let e := (t.exchange request s.1).1
      have hattempt : (attempt t.noting request).exec s
          = (e.outcome request.url.text, (t.exchange request s.1).2, s.2 ++ [(request, e)]) := rfl
      rw [exec_sendFrom, hattempt]
      cases houtcome : e.outcome request.url.text with
      | ok body => exact ⟨[], e, rfl, (fun n hn => nomatch hn), houtcome.symm⟩
      | error failure =>
          dsimp only
          split
          · rename_i hagain
            obtain ⟨earlier, last, hnotes, hsame, hlast⟩ := ih hagain.1
              (t.noting.wait (policy.delay retry)
                ((t.exchange request s.1).2, s.2 ++ [(request, e)]))
            refine ⟨(request, e) :: earlier, last, hnotes.trans (List.append_assoc _ _ _),
              fun n hn => ?_, hlast⟩
            cases List.mem_cons.mp hn with
            | inl heq => rw [heq]
            | inr hmem => exact hsame n hmem
          · exact ⟨[], e, rfl, (fun n hn => nomatch hn), houtcome.symm⟩

theorem exec_send_noting {path : String} {request : Url → Request} {body : SuccessBody}
    (h : (send settings t.noting path request).exec s = (.ok body, s')) :
    ∃ url earlier exchange, s'.2 = s.2 ++ (earlier ++ [(request url, exchange)]) ∧
      exchange.outcome (request url).url.text = .ok body := by
  rw [send] at h
  split at h
  · cases h
  · rename_i url hurl
    split at h
    · obtain ⟨earlier, exchange, hnotes, -, houtcome⟩ :=
        noted_sendFrom (t := t) settings.retry (request url) 0 s
      rw [h] at hnotes houtcome
      exact ⟨url, earlier, exchange, hnotes, houtcome.symm⟩
    · cases h

/-- A value is read from a body that came whole. -/
theorem of_exec_read {α : Type} {ofTree? : Json.Tree → Option α} {body : SuccessBody} {a : α}
    {s s' : σ × Notes} (h : (read ofTree? body : Action (σ × Notes) α).exec s = (.ok a, s')) :
    s' = s ∧ (body.bind fun bytes => (Json.readBytes bytes).bind ofTree?) = some a := by
  rw [read] at h
  split at h
  · rename_i a' hread
    cases h
    exact ⟨rfl, hread⟩
  · cases h

/-- **Projections are read from a reply.** -/
theorem exec_statuses_noting {ids : List EntityId} (hids : ids ≠ [])
    {held : Table EntityId IndexStatus}
    (h : (statuses settings t.noting ids).exec s = (.ok held, s')) :
    ∃ url earlier exchange hits,
      s'.2 = s.2 ++ (earlier ++ [(.search settings ids url, exchange)]) ∧
        exchange.hits? = some hits ∧ held = Hit.statuses hits := by
  rw [statuses, List.isEmpty_eq_false_iff.mpr hids] at h
  replace h : (_ >>= _ : Action (σ × Notes) (Table EntityId IndexStatus)).exec s = _ := h
  rw [Action.exec_bind] at h
  split at h
  · rename_i body s₁ hsend
    rw [Action.exec_bind] at h
    split at h
    · rename_i hits s₂ hread
      cases h
      obtain ⟨url, earlier, exchange, hnotes, houtcome⟩ := exec_send_noting hsend
      obtain ⟨rfl, hbody⟩ := of_exec_read hread
      refine ⟨url, earlier, exchange, hits, hnotes, ?_, rfl⟩
      cases exchange with
      | reply status bytes complete =>
          rw [Exchange.outcome] at houtcome
          split at houtcome
          · rename_i hsuccess
            cases houtcome
            cases complete with
            | true =>
                rw [Exchange.hits?, if_pos hsuccess]
                exact hbody
            | false => cases hbody
          · cases houtcome
      | dropped => cases houtcome
      | refused => cases houtcome
      | timedOut => cases houtcome
    · cases h
  · cases h

/-- **A write that succeeds has sent its items.** -/
theorem exec_writeBulk_noting {items : List Item} (hitems : items ≠ [])
    (h : (writeBulk settings t.noting items).exec s = (.ok (), s')) :
    ∃ url earlier exchange, s'.2 = s.2 ++ (earlier ++ [(.bulk settings items url, exchange)]) := by
  rw [writeBulk, List.isEmpty_eq_false_iff.mpr hitems] at h
  replace h : (_ >>= _ : Action (σ × Notes) Unit).exec s = _ := h
  rw [Action.exec_bind] at h
  split at h
  · rename_i body s₁ hsend
    obtain ⟨url, earlier, exchange, hnotes, -⟩ := exec_send_noting hsend
    rw [Action.exec_bind] at h
    split at h
    · rename_i reply s₂ hread
      obtain ⟨hunread, -⟩ := of_exec_read hread
      have hsame : s' = s₂ := by
        split at h
        · exact (Prod.mk.inj h).2.symm
        · cases h
      exact ⟨url, earlier, exchange, by rw [hsame, hunread, hnotes]⟩
    · cases h
  · cases h

/-! ### All that is noted -/

theorem noted_send (path : String) (request : Url → Request) (s : σ × Notes) :
    ∃ new, ((send settings t.noting path request).exec s).2.2 = s.2 ++ new ∧
      ∀ n ∈ new, ∃ url, n.1 = request url := by
  have hnothing : ∃ new, s.2 = s.2 ++ new ∧ ∀ n ∈ new, ∃ url, n.1 = request url :=
    ⟨[], (List.append_nil _).symm, fun n hn => nomatch hn⟩
  rw [send]
  split
  · exact hnothing
  · rename_i url hurl
    split
    · obtain ⟨earlier, exchange, hnotes, hsame, -⟩ :=
        noted_sendFrom (t := t) settings.retry (request url) 0 s
      refine ⟨_, hnotes, fun n hn => ⟨url, ?_⟩⟩
      cases List.mem_append.mp hn with
      | inl hmem => exact hsame n hmem
      | inr hmem => rw [List.mem_singleton.mp hmem]
    · exact hnothing

theorem state_read {α : Type} (ofTree? : Json.Tree → Option α) (body : SuccessBody)
    (s : σ × Notes) : ((read ofTree? body : Action (σ × Notes) α).exec s).2 = s := by
  rw [read]
  split
  · rfl
  · rfl

theorem noted_statuses (ids : List EntityId) (s : σ × Notes) :
    ∃ new, ((statuses settings t.noting ids).exec s).2.2 = s.2 ++ new ∧
      ∀ n ∈ new, ∃ url, n.1 = .search settings ids url := by
  cases hempty : ids.isEmpty with
  | true =>
      rw [statuses, hempty]
      exact ⟨[], (List.append_nil _).symm, fun n hn => absurd hn List.not_mem_nil⟩
  | false =>
      have hstate : ((statuses settings t.noting ids).exec s).2
          = ((send settings t.noting settings.searchPath (.search settings ids)).exec s).2 := by
        rw [statuses, hempty]
        refine Action.state_bind fun body s => ?_
        rw [Action.state_bind fun hits s => rfl, state_read]
      rw [hstate]
      exact noted_send settings.searchPath (.search settings ids) s

theorem noted_writeBulk (items : List Item) (s : σ × Notes) :
    ∃ new, ((writeBulk settings t.noting items).exec s).2.2 = s.2 ++ new ∧
      ∀ n ∈ new, ∃ url, n.1 = .bulk settings items url := by
  cases hempty : items.isEmpty with
  | true =>
      rw [writeBulk, hempty]
      exact ⟨[], (List.append_nil _).symm, fun n hn => absurd hn List.not_mem_nil⟩
  | false =>
      have hstate : ((writeBulk settings t.noting items).exec s).2
          = ((send settings t.noting Settings.bulkPath (.bulk settings items)).exec s).2 := by
        rw [writeBulk, hempty]
        refine Action.state_bind fun body s => ?_
        rw [Action.state_bind, state_read]
        intro reply s
        cases reply.failedIds with
        | nil => rfl
        | cons i failed => rfl
      rw [hstate]
      exact noted_send Settings.bulkPath (.bulk settings items) s

end Client

end Outbox.Search
