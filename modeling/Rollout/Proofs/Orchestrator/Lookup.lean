import Rollout.Orchestrator.Remote
import Rollout.Proofs.Http.Exchanges
import Rollout.Watch
/-!
# Lookups

A lookup of a deployment is answered with a listing, or it fails with the fault of the answer, or no
request can be made for it. A call makes lookups until one of them ends it: it is laid down here how
the end of a call and the answer to its last lookup belong together.
-/

namespace Rollout

open Http Time Wire

variable {σ : Type}

/-- What a listing has under an id: the first deployment with the id, or none. -/
def Listed (id : String) (ds : List Deployment) : Snapshot → Prop
  | some d => d.id = id ∧ ∃ before after, ds = before ++ d :: after ∧
    ∀ e ∈ before, e.id ≠ id
  | none => ∀ d ∈ ds, d.id ≠ id

theorem listed_find? (id : String) (ds : List Deployment) :
    Listed id ds (ds.find? (·.id == id)) := by
  cases hfind : ds.find? (·.id == id) with
  | none =>
      intro d hd hid
      have hnot := List.find?_eq_none.mp hfind d hd
      rw [hid] at hnot
      exact hnot (beq_self_eq_true id)
  | some d =>
      obtain ⟨hd, before, after, hds, hbefore⟩ := List.find?_eq_some_iff_append.mp hfind
      refine ⟨eq_of_beq hd, before, after, hds, ?_⟩
      intro e he hid
      have hnot := hbefore e he
      rw [hid, beq_self_eq_true] at hnot
      cases hnot

theorem listed_iff {id : String} {ds : List Deployment} {snapshot : Snapshot} :
    Listed id ds snapshot ↔ ds.find? (·.id == id) = snapshot := by
  constructor
  · intro h
    cases snapshot with
    | none =>
        refine List.find?_eq_none.mpr fun d hd => ?_
        simpa using h d hd
    | some d =>
        obtain ⟨hid, before, after, rfl, hbefore⟩ := h
        refine List.find?_eq_some_iff_append.mpr ⟨?_, before, after, rfl, fun e he => ?_⟩
        · rw [hid]
          exact beq_self_eq_true id
        · simpa using hbefore e he
  · rintro rfl
    exact listed_find? id ds

namespace Remote

variable (r : Remote σ) (limit : Nat)

/-- A lookup that was answered with a listing, and what the listing has under an id. -/
structure Shows (id : String) (x : Exchange) (snapshot : Snapshot) : Prop where
  sent : r.http.Sends "v2/deployments" x.request
  listing : ∃ ds, x.reply.Carries limit ds ∧ Listed id ds snapshot

/-- A lookup that was answered with anything else, and the fault of the answer. -/
structure FailsAt (x : Exchange) (fault : Fault) : Prop where
  sent : r.http.Sends "v2/deployments" x.request
  fails : x.reply.Fails (List Deployment) x.request.url.text limit fault

/-- What becomes of a lookup. -/
inductive LooksUp (id : String) (net : Net σ) : Net σ → Outcome Fault Snapshot → Prop where
  | shown {x : Exchange} {later : Net σ} {snapshot : Snapshot}
      (exchanged : Exchanges r.http.server net [x] later) (shows : r.Shows limit id x snapshot) :
      LooksUp id net later (.done snapshot)
  | failed {x : Exchange} {later : Net σ} {fault : Fault}
      (exchanged : Exchanges r.http.server net [x] later) (fails : r.FailsAt limit x fault) :
      LooksUp id net later (.failed fault)
  | unsent {fault : Fault} (h : r.http.Unsent "v2/deployments" fault) :
      LooksUp id net net (.failed fault)

theorem getDeployment_looksUp (id : String) (clock : Clock) (now : Nat) (net : Net σ) :
    let step := r.getDeployment id clock now net
    r.LooksUp (clock.lasting r.http.limit.nanos) id net step.state step.outcome := by
  have hgets : r.http.Gets "v2/deployments" (clock.lasting r.http.limit.nanos) net
      (r.listDeployments clock now net).state (r.listDeployments clock now net).outcome :=
    r.http.get_gets clock now net "v2/deployments"
  unfold getDeployment
  rw [Run.bind_apply]
  rcases hstep : r.listDeployments clock now net with ⟨outcome, later, n⟩
  rw [hstep] at hgets
  cases hgets with
  | unsent h => exact .unsent h
  | @answered q outcome time sent read =>
      have hexchanged := Exchanges.single r.http.server net time q
      cases read with
      | done h => exact .shown hexchanged ⟨sent, _, h, listed_find? id _⟩
      | failed h => exact .failed hexchanged ⟨sent, h⟩

/-- Lookups of a call that have not ended it: each was answered with a listing that is not
accepted. -/
def Pending (id : String) (accepts : Snapshot → Bool) (xs : List Exchange) : Prop :=
  ∀ x ∈ xs, ∃ snapshot, r.Shows limit id x snapshot ∧ accepts snapshot = false

/-- The lookups `xs` of a call, and the ways in which it may end: what it looks for was accepted, or
declined, or the call has failed. -/
structure Call (id : String) (accepts : Snapshot → Bool) (xs : List Exchange)
    (accepted declined : Prop) (failed : Fault → Prop) : Prop where
  earlier : r.Pending limit id accepts xs.dropLast
  accepted : accepted → ∃ x snapshot, xs.getLast? = some x ∧ r.Shows limit id x snapshot ∧
    accepts snapshot = true
  declined : declined → ∃ x snapshot, xs.getLast? = some x ∧ r.Shows limit id x snapshot ∧
    accepts snapshot = false
  /-- A lookup that fails is the last one, and its fault is that of the call. -/
  fails : ∀ x ∈ xs, ∀ fault,
    x.reply.Fails (List Deployment) x.request.url.text limit fault →
    xs.getLast? = some x ∧ failed fault
  faulted : ∀ fault, failed fault →
    (∃ x, xs.getLast? = some x ∧ r.FailsAt limit x fault) ∨
    (xs = [] ∧ r.http.Unsent "v2/deployments" fault)

section

variable {r limit} {id : String} {accepts : Snapshot → Bool} {xs : List Exchange}

theorem Shows.not_fails {x : Exchange} {snapshot : Snapshot} (h : r.Shows limit id x snapshot)
    {url : String} {fault : Fault} : ¬ x.reply.Fails (List Deployment) url limit fault := by
  obtain ⟨ds, hcarries, -⟩ := h.listing
  exact hcarries.not_fails

theorem Pending.eq_nil_of_unsent (h : r.Pending limit id accepts xs) {fault : Fault}
    (hunsent : r.http.Unsent "v2/deployments" fault) : xs = [] := by
  cases xs with
  | nil => rfl
  | cons x rest =>
      obtain ⟨snapshot, hshows, -⟩ := h x List.mem_cons_self
      exact absurd hunsent hshows.sent.not_unsent

theorem Pending.concat (h : r.Pending limit id accepts xs) {x : Exchange} {snapshot : Snapshot}
    (hx : r.Shows limit id x snapshot) (hdeclined : accepts snapshot = false) :
    r.Pending limit id accepts (xs ++ [x]) := by
  intro y hy
  rcases List.mem_append.mp hy with hold | hnew
  · exact h y hold
  · rw [List.mem_singleton.mp hnew]
    exact ⟨snapshot, hx, hdeclined⟩

namespace Call

theorem imp {accepted declined accepted' declined' : Prop} {failed failed' : Fault → Prop}
    (h : r.Call limit id accepts xs accepted declined failed) (haccepted : accepted' → accepted)
    (hdeclined : declined' → declined) (hfailed : ∀ fault, failed' fault → failed fault)
    (hfailed' : ∀ fault, failed fault → failed' fault) :
    r.Call limit id accepts xs accepted' declined' failed' := by
  refine ⟨h.earlier, fun h' => h.accepted (haccepted h'), fun h' => h.declined (hdeclined h'), ?_,
    fun fault h' => h.faulted fault (hfailed fault h')⟩
  intro x hx fault hfails
  obtain ⟨hlast, hend⟩ := h.fails x hx fault hfails
  exact ⟨hlast, hfailed' fault hend⟩

theorem not_assertion {accepted declined : Prop} {failed : Fault → Prop}
    (h : r.Call limit id accepts xs accepted declined failed) {fault : Fault}
    (hfault : failed fault) : fault.isAssertion = false := by
  rcases h.faulted fault hfault with ⟨x, -, hfails⟩ | ⟨-, hunsent⟩
  · exact hfails.fails.not_assertion
  · exact hunsent.not_assertion

variable {accepted declined : Prop} {failed : Fault → Prop} (hxs : r.Pending limit id accepts xs)
include hxs

theorem of_shows {x : Exchange} {snapshot : Snapshot} (hx : r.Shows limit id x snapshot)
    (haccepted : accepted → accepts snapshot = true)
    (hdeclined : declined → accepts snapshot = false) (hfailed : ∀ fault, ¬ failed fault) :
    r.Call limit id accepts (xs ++ [x]) accepted declined failed := by
  refine ⟨?_, ?_, ?_, ?_, ?_⟩
  · rwa [List.dropLast_concat]
  · exact fun h => ⟨x, snapshot, List.getLast?_concat, hx, haccepted h⟩
  · exact fun h => ⟨x, snapshot, List.getLast?_concat, hx, hdeclined h⟩
  · intro y hy fault hfails
    rcases List.mem_append.mp hy with hold | hnew
    · obtain ⟨_, hshows, -⟩ := hxs y hold
      exact absurd hfails hshows.not_fails
    · rw [List.mem_singleton.mp hnew] at hfails
      exact absurd hfails hx.not_fails
  · exact fun fault h => absurd h (hfailed fault)

theorem of_failsAt {x : Exchange} {fault : Fault} (hx : r.FailsAt limit x fault)
    (haccepted : ¬ accepted) (hdeclined : ¬ declined)
    (hfailed : ∀ other, failed other ↔ other = fault) :
    r.Call limit id accepts (xs ++ [x]) accepted declined failed := by
  refine ⟨?_, fun h => absurd h haccepted, fun h => absurd h hdeclined, ?_, ?_⟩
  · rwa [List.dropLast_concat]
  · intro y hy other hfails
    rcases List.mem_append.mp hy with hold | hnew
    · obtain ⟨_, hshows, -⟩ := hxs y hold
      exact absurd hfails hshows.not_fails
    · rw [List.mem_singleton.mp hnew] at hfails ⊢
      exact ⟨List.getLast?_concat, (hfailed other).mpr (hfails.unique hx.fails)⟩
  · intro other h
    rw [(hfailed other).mp h]
    exact .inl ⟨x, List.getLast?_concat, hx⟩

theorem of_none (haccepted : ¬ accepted) (hdeclined : ¬ declined)
    (hfailed : ∀ fault, failed fault → r.http.Unsent "v2/deployments" fault) :
    r.Call limit id accepts xs accepted declined failed := by
  refine ⟨?_, fun h => absurd h haccepted, fun h => absurd h hdeclined, ?_, ?_⟩
  · exact fun x hx => hxs x (List.dropLast_subset xs hx)
  · intro x hx fault hfails
    obtain ⟨_, hshows, -⟩ := hxs x hx
    exact absurd hfails hshows.not_fails
  · intro fault h
    exact .inr ⟨hxs.eq_nil_of_unsent (hfailed fault h), hfailed fault h⟩

end Call

end

end Remote

end Rollout
