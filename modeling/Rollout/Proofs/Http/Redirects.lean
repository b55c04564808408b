import Mathlib.Data.List.Chain
import Mathlib.Data.List.Forall2
import Rollout.Proofs.Http.Progress
/-!
# Redirects

A request is handed to an HTTP library, and what a server answers here is what the library hands
back. In between it follows redirects by itself, ten in a row at most. What it puts on the wire for
a request is a trail: the request as it is, then one hop for each redirect. A hop is made of the URL
to which the answer before it redirects; it keeps the authorization only as long as neither host nor
port changes. So a redirect may lead anywhere, but the authorization does not go along.
-/

namespace Rollout

open Time

/-- Host and port, also of a URL that leaves the port to its scheme. -/
def Url.site (u : Url) : Option Url.Host × Option UInt16 :=
  (u.authority.map (·.host), (u.authority.bind (·.port)).or (usualPort? u.scheme))

theorem Url.site_eq_of_origin_eq {u v : Url} (h : u.origin = v.origin) : u.site = v.site := by
  simp only [origin, Prod.mk.injEq] at h
  obtain ⟨hscheme, hhost, hport⟩ := h
  unfold site
  rw [hscheme, hhost, hport]

namespace Http

variable {σ τ : Type}

/-- A request on the wire, and the URL to which the answer redirects, if it does. -/
structure Passage where
  request : Request
  redirect : Option Url
  deriving DecidableEq

/-- One passage follows from the one before it by a redirect. -/
structure Hop (before after : Passage) : Prop where
  target : ∃ u, before.redirect = some u ∧ after.request.url = u.withoutCredentials
  authorization : after.request.authorization = none ∨
    after.request.authorization = before.request.authorization ∧
      after.request.url.site = before.request.url.site

/-- What the library puts on the wire for a request. -/
structure Trail (r : Request) (passages : List Passage) : Prop where
  led : passages.head?.map (·.request) = some r
  hops : passages.length ≤ 11
  linked : passages.IsChain Hop

/-- The state of a server records what is on the wire: one trail for every request. -/
def Relays (server : Server σ) (wire : σ → List Passage) : Prop :=
  ∀ now r s, ∃ trail, Trail r trail ∧ wire (server now r s).2 = wire s ++ trail

namespace Trail

variable {r : Request} {passages : List Passage} (h : Trail r passages)
include h

theorem request_head (hne : passages ≠ []) : (passages.head hne).request = r := by
  have hled := h.led
  rw [List.head?_eq_some_head hne] at hled
  exact Option.some.inj hled

/-- An authorization on the trail is that of its request, for the same host and port. -/
theorem authorized : ∀ p ∈ passages, p.request.authorization = none ∨
    p.request.authorization = r.authorization ∧ p.request.url.site = r.url.site := by
  refine h.linked.induction _ passages (fun x y hop hx => ?_) fun hne => ?_
  · rcases hop.authorization with hnone | ⟨hsame, hsite⟩
    · exact .inl hnone
    · rw [hsame, hsite]
      exact hx
  · rw [h.request_head hne]
    exact .inr ⟨rfl, rfl⟩

/-- A trail leaves the origin of its request only by a redirect that does. -/
theorem stays (hstay : ∀ p ∈ passages, ∀ u, p.redirect = some u → u.origin = r.url.origin) :
    ∀ p ∈ passages, p.request.url.origin = r.url.origin := by
  have hlinked := List.IsChain.iff_mem.mp h.linked
  refine hlinked.induction _ passages (fun x y ⟨hx, _, hop⟩ _ => ?_) fun hne => ?_
  · obtain ⟨u, hredirect, hurl⟩ := hop.target
    rw [hurl, u.origin_withoutCredentials]
    exact hstay x hx u hredirect
  · rw [h.request_head hne]

end Trail

theorem exists_trail_of_mem_flatten {more : List Sent} {trails : List (List Passage)}
    (h : List.Forall₂ (fun q trail => Trail q.request trail) more trails) :
    ∀ p ∈ trails.flatten, ∃ q ∈ more, ∃ trail, Trail q.request trail ∧
      (∀ p' ∈ trail, p' ∈ trails.flatten) ∧ p ∈ trail := by
  intro p hp
  obtain ⟨trail, htrail, hmem⟩ := List.mem_flatten.mp hp
  obtain ⟨i, hi, rfl⟩ := List.mem_iff_getElem.mp htrail
  have hi' : i < more.length := h.length_eq ▸ hi
  exact ⟨more[i], List.getElem_mem hi', trails[i], h.get hi' hi,
    fun p' hp' => List.mem_flatten.mpr ⟨_, htrail, hp'⟩, hmem⟩

/-- What was sent stays sent, and each request that is added leaves its trail on the wire. -/
def relaying (wire : σ → List Passage) : Progress (Net σ) where
  Holds _ net _ net' := ∃ more trails, net'.sent = net.sent ++ more ∧
    wire net'.server = wire net.server ++ trails.flatten ∧
    List.Forall₂ (fun q trail => Trail q.request trail) more trails
  wait _ := ⟨[], [], (List.append_nil _).symm, (List.append_nil _).symm, .nil⟩
  trans := by
    rintro _ net _ mid _ later ⟨xs, trails, hxs, hwire, htrails⟩
      ⟨ys, trails', hys, hwire', htrails'⟩
    refine ⟨xs ++ ys, trails ++ trails', ?_, ?_, List.rel_append htrails htrails'⟩
    · rw [hys, hxs, List.append_assoc]
    · rw [hwire', hwire, List.append_assoc, List.flatten_append]

theorem Client.transmit_relaying {c : Client σ} {wire : σ → List Passage}
    (h : Relays c.server wire) (r : Request) : Run.Follows (relaying wire) (c.transmit r) := by
  intro clock now net
  rcases c.transmit_state clock now net r with hnet | hnext
  · rw [hnet]
    exact (relaying wire).wait (Nat.le_add_right now _)
  · rw [hnext]
    obtain ⟨trail, htrail, hwire⟩ := h now r net.server
    refine ⟨[⟨now, r⟩], [trail], rfl, ?_, .cons htrail .nil⟩
    rw [List.flatten_singleton]
    exact hwire

/-! ## A library that follows redirects -/

/-- What is really answered to a request: a reply, and the location in its head. -/
structure Page where
  reply : Reply
  location : Option String

/-- What a library talks to, with its state of type `τ`. -/
abbrev Web (τ : Type) := Nat → Request → τ → Page × τ

/-- Where a page redirects from a URL, and with which status. -/
def Page.redirect? (page : Page) (u : Url) : Option (Status × Url) :=
  match page.reply.answer, page.location with
  | .response status _ _, some text =>
    if status ∈ [301, 302, 303, 307, 308] then (u.join text).toOption.map (status, ·) else none
  | _, _ => none

/-- The request that follows a redirect. -/
def Request.redirected (r : Request) (status : Status) (u : Url) : Request where
  method := if status = 307 ∨ status = 308 then r.method else .get
  url := u.withoutCredentials
  authorization := if u.withoutCredentials.site = r.url.site then r.authorization else none
  body := if status = 307 ∨ status = 308 then r.body else none

/-- The reply after all redirects, and the trail to it. One redirect too many, or one to a URL of
which no request can be made, ends the transfer. -/
def follow (web : Web τ) : Nat → Nat → Request → τ → Reply × τ × List Passage
  | hops, now, r, s =>
    let (page, s) := web now r s
    match page.redirect? r.url with
    | none => (page.reply, s, [⟨r, none⟩])
    | some (status, u) =>
      match hops with
      | 0 => (⟨page.reply.delay, .dropped⟩, s, [⟨r, some u⟩])
      | hops + 1 =>
        let next := r.redirected status u
        if isSendable next.url then
          let (reply, s, trail) := follow web hops (now + page.reply.delay) next s
          (⟨page.reply.delay + reply.delay, reply.answer⟩, s, ⟨r, some u⟩ :: trail)
        else (⟨page.reply.delay, .dropped⟩, s, [⟨r, some u⟩])

/-- A server that is a web behind a library, with a record of what is on the wire. -/
def following (web : Web τ) : Server (τ × List Passage) := fun now r (s, passages) =>
  let (reply, s, trail) := follow web 10 now r s
  (reply, s, passages ++ trail)

theorem hop_redirected (r : Request) (status : Status) (u : Url) {after : Passage}
    (h : after.request = r.redirected status u) : Hop ⟨r, some u⟩ after := by
  refine ⟨⟨u, rfl, by rw [h]; rfl⟩, ?_⟩
  rw [h]
  by_cases hsite : u.withoutCredentials.site = r.url.site
  · exact .inr ⟨if_pos hsite, hsite⟩
  · exact .inl (if_neg hsite)

theorem linked_follow (web : Web τ) (hops now : Nat) (r : Request) (s : τ) :
    let trail := (follow web hops now r s).2.2
    trail.head?.map (·.request) = some r ∧ trail.length ≤ hops + 1 ∧ trail.IsChain Hop := by
  -- By the redirects that may still be followed; a trail of its own begins where one is.
  induction hops generalizing now r s with
  | zero =>
      unfold follow
      simp only
      split <;> exact ⟨rfl, Nat.le_refl _, .singleton _⟩
  | succ hops ih =>
      unfold follow
      simp only
      split
      · exact ⟨rfl, Nat.le_add_left _ _, .singleton _⟩
      · rename_i status u _
        split
        · obtain ⟨hled, hlength, hlinked⟩ := ih (now + (web now r s).1.reply.delay)
            (r.redirected status u) (web now r s).2
          refine ⟨rfl, Nat.succ_le_succ hlength, hlinked.cons fun after hafter => ?_⟩
          rw [Option.mem_def.mp hafter] at hled
          exact hop_redirected r status u (Option.some.inj hled)
        · exact ⟨rfl, Nat.le_add_left _ _, .singleton _⟩

theorem relays_following (web : Web τ) : Relays (following web) Prod.snd := by
  intro now r s
  obtain ⟨hled, hhops, hlinked⟩ := linked_follow web 10 now r s.1
  exact ⟨_, ⟨hled, hhops, hlinked⟩, rfl⟩

end Http

end Rollout
