import Rollout.Proofs.Http.Progress
import Rollout.Proofs.Orchestrator.Lookup
import Rollout.Proofs.Watch.Operation
/-!
# What absence is concluded from

A deployment counts as absent only after a listing without it, and as present only after a listing
with it, where a listing is an answer with a success that decodes. Every other answer ends the call
that has made the lookup in the fault of that answer.
-/

namespace Rollout

open Http Time Wire

variable {σ : Type}

namespace Watch

variable (r : Remote σ) (p : Patience) (clock : Clock) (now : Nat)

/-- What is kept for a deployment was shown by a lookup of a transcript. -/
def Shown (limit : Nat) (id : String) (xs : List Exchange) (kept : Option Snapshot) : Prop :=
  ∀ snapshot, kept = some snapshot → ∃ x ∈ xs, r.Shows limit id x snapshot

/-- Snapshots that lookups of a transcript have shown. -/
def Sourced (limit : Nat) (l : Ledger) (xs : List Exchange) : Prop :=
  ∀ id, Shown r limit id xs (l.last? id)

/-- What the looks of a wait have come to: none of them was accepted, and the last snapshot is in
the cell of the wait. -/
structure Looking (limit : Nat) (id : String) (accepts : Snapshot → Bool) (net : Net σ)
    (xs : List Exchange) (s : Option Snapshot × Net σ) : Prop where
  exchanged : Exchanges r.http.server net xs s.2
  pending : r.Pending limit id accepts xs
  cell : Shown r limit id xs s.1

/-- How a wait has ended. -/
structure Looked (limit : Nat) (id : String) (accepts : Snapshot → Bool) (net : Net σ)
    (xs : List Exchange) (outcome : Outcome Fault (Option Unit)) (s : Option Snapshot × Net σ) :
    Prop where
  exchanged : Exchanges r.http.server net xs s.2
  call : r.Call limit id accepts xs (outcome = .done (some ())) (outcome = .done none)
    (outcome = .failed ·)
  cell : Shown r limit id xs s.1

variable {limit : Nat} {id : String} {accepts : Snapshot → Bool} {net : Net σ}
  {xs : List Exchange}

theorem shown_none : Shown r limit id xs none := nofun

theorem Shown.append {kept : Option Snapshot} (h : Shown r limit id xs kept) (ys : List Exchange) :
    Shown r limit id (xs ++ ys) kept := by
  intro snapshot hkept
  obtain ⟨x, hx, hshows⟩ := h snapshot hkept
  exact ⟨x, List.mem_append_left _ hx, hshows⟩

theorem shown_concat {x : Exchange} {snapshot : Snapshot} (h : r.Shows limit id x snapshot)
    (xs : List Exchange) : Shown r limit id (xs ++ [x]) (some snapshot) := by
  intro found hfound
  cases hfound
  exact ⟨x, List.mem_append_right _ (List.mem_singleton_self x), h⟩

theorem getDeployment_looksUp (id : String) (net : Net σ) :
    let step := (mk r.toOrchestrator p).orchestrator.getDeployment id clock now net
    r.LooksUp (clock.lasting r.http.limit.nanos) id net step.state step.outcome :=
  r.getDeployment_looksUp id clock now net

theorem look_looked (h : Handle) {s : Option Snapshot × Net σ}
    (hs : Looking r (clock.lasting r.http.limit.nanos) h.deploymentId accepts net xs s) :
    let limit := clock.lasting r.http.limit.nanos
    let step := (mk r.toOrchestrator p).look h accepts clock now s
    ∃ more, Looked r limit h.deploymentId accepts net more step.outcome step.state ∧
      (step.outcome = .done none → r.Pending limit h.deploymentId accepts more) := by
  have hlookup := getDeployment_looksUp r p clock now h.deploymentId s.2
  rw [look_apply]
  rcases hstep : (mk r.toOrchestrator p).orchestrator.getDeployment h.deploymentId clock now s.2
    with ⟨outcome, later, n⟩
  rw [hstep] at hlookup
  cases hlookup with
  | @shown x later snapshot hexchanged hshows =>
      have hcell := shown_concat r hshows xs
      simp only
      cases haccepts : accepts snapshot with
      | true =>
          refine ⟨xs ++ [x], ⟨hs.exchanged.append hexchanged, ?_, hcell⟩, nofun⟩
          exact .of_shows hs.pending hshows (fun _ => haccepts) nofun nofun
      | false =>
          refine ⟨xs ++ [x], ⟨hs.exchanged.append hexchanged, ?_, hcell⟩, fun _ => ?_⟩
          · exact .of_shows hs.pending hshows nofun (fun _ => haccepts) nofun
          · exact hs.pending.concat hshows haccepts
  | @failed x later fault hexchanged hfails =>
      refine ⟨xs ++ [x], ⟨hs.exchanged.append hexchanged, ?_, hs.cell.append r [x]⟩, nofun⟩
      exact .of_failsAt hs.pending hfails nofun nofun fun other => by simp [eq_comm]
  | unsent hunsent =>
      refine ⟨xs, ⟨hs.exchanged, ?_, hs.cell⟩, nofun⟩
      refine .of_none hs.pending nofun nofun ?_
      intro fault hfailed
      cases hfailed
      exact hunsent

theorem look_rule_looked (h : Handle) (accepts : Snapshot → Bool) (net : Net σ) :
    Run.WaitRule ((mk r.toOrchestrator p).look h accepts) clock
      (fun _ s => ∃ xs,
        Looking r (clock.lasting r.http.limit.nanos) h.deploymentId accepts net xs s)
      (fun outcome _ s => ∃ xs,
        Looked r (clock.lasting r.http.limit.nanos) h.deploymentId accepts net xs outcome s) where
  evaluated := by
    intro now s ⟨xs, hxs⟩
    obtain ⟨more, hlooked, -⟩ := look_looked r p clock now h hxs
    exact ⟨more, hlooked⟩
  paused := by
    intro now s ⟨xs, hxs⟩ hnone later _
    obtain ⟨more, hlooked, hpending⟩ := look_looked r p clock now h hxs
    exact ⟨more, hlooked.exchanged, hpending hnone, hlooked.cell⟩

theorem Looking.panicked {s : Option Snapshot × Net σ} (h : Looking r limit id accepts net xs s)
    (text : String) : Looked r limit id accepts net xs (.panicked text) s :=
  ⟨h.exchanged, .of_none h.pending nofun nofun nofun, h.cell⟩

theorem await_looked (h : Handle) (timeout : Span) (accepts : Snapshot → Bool) (net : Net σ) :
    let step := Run.pollUntil (p.withTimeout timeout) ((mk r.toOrchestrator p).look h accepts) clock
      now (none, net)
    ∃ xs, Looked r (clock.lasting r.http.limit.nanos) h.deploymentId accepts net xs step.outcome
      step.state := by
  have hstart : Looking r (clock.lasting r.http.limit.nanos) h.deploymentId accepts net []
      (none, net) :=
    ⟨.start, fun x hx => absurd hx List.not_mem_nil, shown_none r⟩
  exact (look_rule_looked r p clock h accepts net).post_of_pollUntil (p.withTimeout timeout)
    ⟨[], hstart⟩ (fun text => ⟨[], hstart.panicked r text⟩)
    (fun _ _ _ ⟨xs, hxs⟩ text => ⟨xs, hxs.panicked r text⟩)

/-- What a call does: its exchanges, and where the snapshots come from that it keeps. -/
structure Asked (limit : Nat) (id : String) (before after : Ledger × Net σ) (xs : List Exchange) :
    Prop where
  exchanged : Exchanges r.http.server before.2 xs after.2
  kept : ∀ other snapshot, after.1.last? other = some snapshot →
    before.1.last? other = some snapshot ∨
      (other = id ∧ ∃ x ∈ xs, r.Shows limit id x snapshot)

theorem asked_of_keep (cell : Option Snapshot) {before after : Ledger × Net σ}
    (hexchanged : Exchanges r.http.server before.2 xs after.2)
    (hkeep : after.1 = before.1.keep id cell)
    (hcell : Shown r limit id xs cell) :
    Asked r limit id before after xs := by
  refine ⟨hexchanged, ?_⟩
  intro other snapshot hlast
  rw [hkeep] at hlast
  cases cell with
  | none => exact .inl hlast
  | some found =>
      change (before.1.record id found).last? other = some snapshot at hlast
      by_cases hother : other = id
      · subst hother
        rw [Ledger.last?_record_self] at hlast
        exact .inr ⟨rfl, hcell snapshot hlast⟩
      · rw [Ledger.last?_record_of_ne hother] at hlast
        exact .inl hlast

theorem await_asked (h : Handle) (timeout : Span) (accepts : Snapshot → Bool)
    (s : Ledger × Net σ) :
    let limit := clock.lasting r.http.limit.nanos
    let step := (mk r.toOrchestrator p).await h timeout accepts clock now s
    ∃ xs, Asked r limit h.deploymentId s step.state xs ∧
      r.Call limit h.deploymentId accepts xs (step.outcome = .done true)
        (step.outcome = .done false) (step.outcome = .failed ·) := by
  obtain ⟨l, net⟩ := s
  obtain ⟨xs, hlooked⟩ := await_looked r p clock now h timeout accepts net
  refine ⟨xs, ?_⟩
  rw [await_apply]
  change Looked _ _ _ _ _ _
    (Run.pollUntil ((mk r.toOrchestrator p).patience.withTimeout timeout) _ _ _ _).outcome _
    at hlooked
  rcases hstep : Run.pollUntil ((mk r.toOrchestrator p).patience.withTimeout timeout)
    ((mk r.toOrchestrator p).look h accepts) clock now (none, net) with ⟨met | e | text, t, n⟩
  · rw [hstep] at hlooked
    refine ⟨asked_of_keep r t.1 hlooked.exchanged rfl hlooked.cell,
      hlooked.call.imp ?_ ?_ ?_ ?_⟩
    · intro htrue
      cases met with
      | none => cases htrue
      | some _ => rfl
    · intro hfalse
      cases met with
      | none => rfl
      | some _ => cases hfalse
    · exact fun fault hfailed => nomatch hfailed
    · exact fun fault hfailed => nomatch hfailed
  · rw [hstep] at hlooked
    refine ⟨asked_of_keep r t.1 hlooked.exchanged rfl hlooked.cell,
      hlooked.call.imp nofun nofun ?_ ?_⟩
    · intro fault hfailed
      cases hfailed
      rfl
    · intro fault hfailed
      cases hfailed
      rfl
  · rw [hstep] at hlooked
    exact ⟨⟨hlooked.exchanged, fun _ _ h => .inl h⟩,
      hlooked.call.imp nofun nofun nofun nofun⟩

theorem observe_asked (h : Handle) (s : Ledger × Net σ) :
    let limit := clock.lasting r.http.limit.nanos
    let step := (mk r.toOrchestrator p).observe h clock now s
    ∃ xs, Asked r limit h.deploymentId s step.state xs ∧ xs.length ≤ 1 ∧ ∀ accepts,
      r.Call limit h.deploymentId accepts xs
        (∃ snapshot, step.outcome = .done snapshot ∧ accepts snapshot = true)
        (∃ snapshot, step.outcome = .done snapshot ∧ accepts snapshot = false)
        (step.outcome = .failed ·) := by
  have hlookup := getDeployment_looksUp r p clock now h.deploymentId s.2
  have hpending (accepts : Snapshot → Bool) :
      r.Pending (clock.lasting r.http.limit.nanos) h.deploymentId accepts [] :=
    fun x hx => absurd hx List.not_mem_nil
  rw [observe_apply]
  rcases hstep : (mk r.toOrchestrator p).orchestrator.getDeployment h.deploymentId clock now s.2
    with ⟨outcome, later, n⟩
  rw [hstep] at hlookup
  cases hlookup with
  | @shown x later snapshot hexchanged hshows =>
      have hshown := shown_concat r hshows []
      refine ⟨[x], asked_of_keep r (some snapshot) hexchanged rfl hshown, Nat.le_refl 1, ?_⟩
      intro accepts
      refine .of_shows (hpending accepts) hshows ?_ ?_ nofun
      · rintro ⟨found, hfound, haccepts⟩
        cases hfound
        exact haccepts
      · rintro ⟨found, hfound, haccepts⟩
        cases hfound
        exact haccepts
  | @failed x later fault hexchanged hfails =>
      refine ⟨[x], ⟨hexchanged, fun _ _ hlast => .inl hlast⟩, Nat.le_refl 1, ?_⟩
      intro accepts
      refine .of_failsAt (hpending accepts) hfails nofun nofun fun other => ?_
      simp [eq_comm]
  | unsent hunsent =>
      refine ⟨[], ⟨.start, fun _ _ hlast => .inl hlast⟩, Nat.zero_le 1, ?_⟩
      intro accepts
      refine .of_none (hpending accepts) nofun nofun ?_
      intro fault hfailed
      cases hfailed
      exact hunsent

theorem assertAbsent_asked (h : Handle) (s : Ledger × Net σ) :
    let limit := clock.lasting r.http.limit.nanos
    let step := (mk r.toOrchestrator p).assertAbsent h clock now s
    ∃ xs, Exchanges r.http.server s.2 xs step.state.2 ∧ xs.length ≤ 1 ∧
      r.Call limit h.deploymentId Option.isNone xs (step.outcome = .done ())
        (∃ text, step.outcome = .failed (.assertion text))
        (fun fault => step.outcome = .failed fault ∧ fault.isAssertion = false) := by
  obtain ⟨xs, hasked, hlength, hcall⟩ := observe_asked r p clock now h s
  refine ⟨xs, ?_⟩
  unfold assertAbsent
  rw [Run.bind_apply]
  rcases hstep : (mk r.toOrchestrator p).observe h clock now s with ⟨outcome, later, n⟩
  rw [hstep] at hasked hcall
  have hcall := hcall Option.isNone
  rcases outcome with (_ | d) | e | text
  · refine ⟨hasked.exchanged, hlength, hcall.imp ?_ ?_ ?_ ?_⟩
    · exact fun _ => ⟨none, rfl, rfl⟩
    · exact nofun
    · exact nofun
    · exact nofun
  · refine ⟨hasked.exchanged, hlength, hcall.imp ?_ ?_ ?_ ?_⟩
    · exact nofun
    · exact fun _ => ⟨some d, rfl, rfl⟩
    · rintro fault ⟨hfailed, hnot⟩
      cases hfailed
      cases hnot
    · exact nofun
  · have hnot (fault : Fault) (h : e = fault) : fault.isAssertion = false :=
      hcall.not_assertion (congrArg Outcome.failed h)
    refine ⟨hasked.exchanged, hlength, hcall.imp ?_ ?_ ?_ ?_⟩
    · exact nofun
    · rintro ⟨text, hfailed⟩
      cases hfailed
      cases hnot _ rfl
    · rintro fault ⟨hfailed, -⟩
      cases hfailed
      rfl
    · intro fault hfailed
      cases hfailed
      exact ⟨rfl, hnot _ rfl⟩
  · exact ⟨hasked.exchanged, hlength, hcall.imp nofun nofun nofun nofun⟩

theorem Sourced.append {l : Ledger} (h : Sourced r limit l xs) (ys : List Exchange) :
    Sourced r limit l (xs ++ ys) :=
  fun id => (h id).append r ys

theorem Sourced.of_asked {before after : Ledger × Net σ} {ys : List Exchange}
    (h : Sourced r limit before.1 xs) (hasked : Asked r limit id before after ys) :
    Sourced r limit after.1 (xs ++ ys) := by
  intro other snapshot hlast
  rcases hasked.kept other snapshot hlast with hbefore | ⟨rfl, x, hx, hshows⟩
  · exact h.append r ys other snapshot hbefore
  · exact ⟨x, List.mem_append_right _ hx, hshows⟩

/-- In whatever is made of a new watch, every snapshot that is kept was shown by a lookup. -/
theorem perform_sourced (ops : List Operation) (net : Net σ) :
    let step := (mk r.toOrchestrator p).perform ops clock now (.empty, net)
    ∃ xs, Exchanges r.http.server net xs step.state.2 ∧
      Sourced r (clock.lasting r.http.limit.nanos) step.state.1 xs := by
  refine (mk r.toOrchestrator p).post_perform clock now (fun _ s => ∃ xs,
    Exchanges r.http.server net xs s.2 ∧ Sourced r (clock.lasting r.http.limit.nanos) s.1 xs)
    ?_ ops (.empty, net) ⟨[], .start, nofun⟩
  rintro op now s ⟨xs, hxs, hsourced⟩
  refine op.post_run (mk r.toOrchestrator p) clock now s (fun _ s => ∃ xs,
    Exchanges r.http.server net xs s.2 ∧ Sourced r (clock.lasting r.http.limit.nanos) s.1 xs)
    ?_ ?_ ?_ ?_
  · exact ⟨xs, hxs, hsourced⟩
  · intro call hsubmission
    have hfollows : Run.Follows (exchanging r.http.server) call := by
      rcases hsubmission with ⟨app, rfl⟩ | ⟨id, force, rfl⟩
      · exact Remote.follows_addApp (.of_transmit r.http.transmit_exchanging) app
      · exact Remote.follows_removeApp (.of_transmit r.http.transmit_exchanging) id force
    obtain ⟨ys, hys⟩ := hfollows clock now s.2
    exact ⟨xs ++ ys, hxs.append hys, hsourced.append r ys⟩
  · intro h _
    obtain ⟨ys, hasked, -, -⟩ := observe_asked r p clock now h s
    exact ⟨xs ++ ys, hxs.append hasked.exchanged, hsourced.of_asked r hasked⟩
  · intro h timeout predicate _
    obtain ⟨ys, hasked, -⟩ := await_asked r p clock now h timeout predicate s
    exact ⟨xs ++ ys, hxs.append hasked.exchanged, hsourced.of_asked r hasked⟩

/-- Absence and presence are concluded from listings alone: what a watch keeps was shown by one, a
wait for completion and a check of the final state end as the last listing says, and any other
answer is the fault that ends them. -/
theorem absence_of_listing :
    let w : Watch (Net σ) := ⟨r.toOrchestrator, p⟩
    let limit := clock.lasting r.http.limit.nanos
    (∀ ops (net : Net σ), let step := w.perform ops clock now (.empty, net)
      ∃ xs, Exchanges r.http.server net xs step.state.2 ∧
        ∀ id snapshot, step.state.1.last? id = some snapshot →
          ∃ x ∈ xs, r.Shows limit id x snapshot) ∧
    (∀ h timeout (s : Ledger × Net σ), let step := w.awaitCompletion h timeout clock now s
      ∃ xs, Exchanges r.http.server s.2 xs step.state.2 ∧
        r.Call limit h.deploymentId Option.isNone xs (step.outcome = .done true)
          (step.outcome = .done false)
          (fun fault => step.outcome = .failed fault ∧ fault.isAssertion = false)) ∧
    (∀ h (s : Ledger × Net σ), let step := w.assertAbsent h clock now s
      ∃ xs, Exchanges r.http.server s.2 xs step.state.2 ∧ xs.length ≤ 1 ∧
        r.Call limit h.deploymentId Option.isNone xs (step.outcome = .done ())
          (∃ text, step.outcome = .failed (.assertion text))
          (fun fault => step.outcome = .failed fault ∧ fault.isAssertion = false)) := by
  refine ⟨fun ops net => perform_sourced r p clock now ops net, ?_, ?_⟩
  · intro h timeout s
    obtain ⟨xs, hasked, hcall⟩ := await_asked r p clock now h timeout Option.isNone s
    refine ⟨xs, hasked.exchanged, hcall.imp id id (fun _ => And.left) ?_⟩
    exact fun fault hfailed => ⟨hfailed, hcall.not_assertion hfailed⟩
  · exact fun h s => assertAbsent_asked r p clock now h s

/-- A server that lists a deployment once, then none, and then is gone. -/
def departing : Server Nat := fun _ _ n =>
  let reply (status : Status) (text : String) : Reply × Nat :=
    (⟨1, .response status (Text.toBytes text) .complete⟩, n + 1)
  match n with
  | 0 => reply 200 "[\x7b\"id\":\"d\",\"version\":\"1\",\"currentStep\":1,\"totalSteps\":1\x7d]"
  | 1 => reply 200 "[]"
  | _ => reply 404 "gone"

def departingRemote : Remote Nat where
  http :=
    { server := departing
      base := ⟨"http", some ⟨"", none, .domain "c", none⟩, .segments [""], none, none⟩
      token := none
      limit := .ofSecs 1 }
  context := .root

/-- The second look of a wait finds nothing, and a check after that fails for want of a listing. -/
theorem absence_of_listing_departing :
    let p : Patience := ⟨.ofSecs 5, .ofSecs 1⟩
    let w : Watch (Net Nat) := ⟨departingRemote.toOrchestrator, p⟩
    let h : Handle := ⟨"d", "a", .deploy⟩
    (w.awaitCompletion h p.timeout .exact 0 (.empty, ⟨0, []⟩)).outcome = .done true ∧
      (∃ x, departingRemote.Shows departingRemote.http.limit.nanos "d" x none) ∧
      (w.assertAbsent h .exact 0 (.empty, ⟨2, []⟩)).outcome = .failed (.notFound "gone") := by
  intro p w h
  have hdone : (w.awaitCompletion h p.timeout .exact 0 (.empty, ⟨0, []⟩)).outcome =
    .done true := by
    decide +kernel
  obtain ⟨xs, -, hcall⟩ :=
    (absence_of_listing departingRemote p .exact 0).2.1 h p.timeout (.empty, ⟨0, []⟩)
  obtain ⟨x, snapshot, -, hshows, hnone⟩ := hcall.accepted hdone
  rw [Option.isNone_iff_eq_none.mp hnone] at hshows
  exact ⟨hdone, ⟨x, hshows⟩, by decide +kernel⟩

end Watch

end Rollout
