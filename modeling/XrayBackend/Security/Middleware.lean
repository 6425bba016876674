import XrayBackend.Security.RateLimiter
import Mathlib.Data.List.Nodup

/-!
# The rate-limit middleware (`app/security.py`)

`RateLimitMiddleware.dispatch` keys the limiter by `get_client_ip(request)`, which prefers
the first entry of `X-Forwarded-For`, then `X-Real-IP`, and only then the transport peer.
Both headers are chosen by the client, so the limit holds per derived identity, not per
peer: one peer that varies `X-Forwarded-For` gets a fresh window for every value.  For
requests that carry neither header the identity is the peer's address, and there the limit
holds per peer.
-/

namespace XrayBackend.Security

variable {τ : Type} [LinearOrderedAddCommGroup τ]

/-- An incoming request as the middleware sees it: its headers, with the lower-case names
the ASGI server delivers and latin-1 decoded values, and `request.client.host`. -/
structure Request where
  headers : List (String × String)
  client : Option String

/-- `request.headers.get(name)`: the first header of that name, matched case-insensitively. -/
def Request.header (request : Request) (name : String) : Option String :=
  (request.headers.find? (fun h => h.1 = ⟨name.data.map Char.toLower⟩)).map (·.2)

/-- `get_client_ip`. -/
def getClientIp (request : Request) : String :=
  match request.header "X-Forwarded-For" with
  | some forwardedFor =>
    if forwardedFor ≠ "" then PyStr.strip (PyStr.splitFirst ',' forwardedFor)
    else realIpOrPeer
  | none => realIpOrPeer
where
  /-- The rest of `get_client_ip`, past an absent or empty `X-Forwarded-For`. -/
  realIpOrPeer : String :=
    match request.header "X-Real-IP" with
    | some realIp => if realIp ≠ "" then PyStr.strip realIp else peer
    | none => peer
  /-- `client.host if client else "unknown"`. -/
  peer : String := request.client.getD "unknown"

/-- What `dispatch` answers: a 429 `JSONResponse` with its `detail`, or the application's
own response. -/
inductive Response
  | rejected (statusCode : Nat) (detail : String)
  | forwarded
  deriving DecidableEq, Repr

/-- `RateLimitMiddleware`: the limiter `__init__` builds. -/
structure RateLimitMiddleware (τ : Type) where
  limiter : RateLimiter τ

namespace RateLimitMiddleware

/-- `RateLimitMiddleware(app, max_requests, window_seconds)`; the application installs it
with the defaults `60` and `60`. -/
def new (maxRequests : Int) (windowSeconds : τ) : RateLimitMiddleware τ :=
  ⟨RateLimiter.new maxRequests windowSeconds⟩

/-- `dispatch(request, call_next)` for a request arriving when the clock reads `now`. -/
def dispatch (mw : RateLimitMiddleware τ) (request : Request) (now : τ) :
    Response × RateLimitMiddleware τ :=
  let clientIp := getClientIp request
  let allowed := mw.limiter.allow clientIp now
  if !allowed.1 then (.rejected 429 "Too many requests", ⟨allowed.2⟩)
  else (.forwarded, ⟨allowed.2⟩)

/-- The requests of a run, in arrival order, and the middleware's answers. -/
def run (mw : RateLimitMiddleware τ) : List (Request × τ) → List Response × RateLimitMiddleware τ
  | [] => ([], mw)
  | (q, t) :: qs =>
    ((mw.dispatch q t).1 :: (run (mw.dispatch q t).2 qs).1, (run (mw.dispatch q t).2 qs).2)

end RateLimitMiddleware

/-- The requests a run forwarded, with their arrival times. -/
def forwardedOf : List (Request × τ) → List Response → List (Request × τ)
  | c :: cs, r :: rs => if r = .forwarded then c :: forwardedOf cs rs else forwardedOf cs rs
  | _, _ => []

omit [LinearOrderedAddCommGroup τ] in
theorem forwardedOf_subset (reqs : List (Request × τ)) (rs : List Response) :
    ∀ p ∈ forwardedOf reqs rs, p ∈ reqs := by
  induction reqs generalizing rs with
  | nil => intro p hp; cases rs <;> simp [forwardedOf] at hp
  | cons c cs ih =>
    intro p hp
    cases rs with
    | nil => simp [forwardedOf] at hp
    | cons r rs =>
      simp only [forwardedOf] at hp
      split_ifs at hp
      · rcases List.mem_cons.mp hp with rfl | hp
        · exact List.mem_cons_self _ _
        · exact List.mem_cons_of_mem _ (ih rs p hp)
      · exact List.mem_cons_of_mem _ (ih rs p hp)

namespace RateLimitMiddleware

/-- The middleware runs its limiter on the derived identities, and forwards exactly what the
limiter admits. -/
theorem forwardedOf_run (mw : RateLimitMiddleware τ) (reqs : List (Request × τ)) :
    (forwardedOf reqs (mw.run reqs).1).map (fun p => (getClientIp p.1, p.2)) =
      admitted (reqs.map (fun p => (getClientIp p.1, p.2)))
        (mw.limiter.run (reqs.map (fun p => (getClientIp p.1, p.2)))).1 := by
  induction reqs generalizing mw with
  | nil => rfl
  | cons p qs ih =>
    obtain ⟨q, t⟩ := p
    have hstep := ih ⟨(mw.limiter.allow (getClientIp q) t).2⟩
    cases hok : (mw.limiter.allow (getClientIp q) t).1 <;>
      simp only [run, forwardedOf, dispatch, hok, Bool.not_false, Bool.not_true, Bool.false_eq_true,
        ↓reduceIte, reduceCtorEq, hstep, List.map_cons, RateLimiter.run, admitted_cons,
        List.nil_append, List.singleton_append]

end RateLimitMiddleware

/-- The first call on an identity the limiter has never stored finds an empty window. -/
theorem RateLimiter.run_fresh_admits (r : RateLimiter τ) (hm : 0 < r.maxRequests)
    (calls : List (String × τ)) (hfresh : ∀ p ∈ calls, r.hits p.1 = none)
    (hnodup : (calls.map (·.1)).Nodup) : (r.run calls).1 = calls.map (fun _ => true) := by
  induction calls generalizing r with
  | nil => rfl
  | cons p cs ih =>
    obtain ⟨i, t⟩ := p
    have hi : r.hits i = none := hfresh (i, t) (List.mem_cons_self _ _)
    have hok : (r.allow i t).1 = true := by
      simp [RateLimiter.allow_fst, RateLimiter.pruned, PyDict.get, hi, hm]
    have hnd := List.nodup_cons.mp hnodup
    have hrest : ∀ q ∈ cs, (r.allow i t).2.hits q.1 = none := by
      intro q hq
      have hqi : q.1 ≠ i := fun h => hnd.1 (List.mem_map.mpr ⟨q, hq, h⟩)
      rw [RateLimiter.hits_allow, PyDict.set_apply, if_neg hqi]
      exact hfresh q (List.mem_cons_of_mem _ hq)
    simp only [RateLimiter.run, hok, List.map_cons,
      ih _ (by rw [RateLimiter.maxRequests_allow]; exact hm) hrest hnd.2]

namespace RateLimitMiddleware

/-- The middleware's answers are the limiter's decisions on the derived identities. -/
theorem run_fst (mw : RateLimitMiddleware τ) (reqs : List (Request × τ)) :
    (mw.run reqs).1 = (mw.limiter.run (reqs.map (fun p => (getClientIp p.1, p.2)))).1.map
      (fun ok => if ok then .forwarded else .rejected 429 "Too many requests") := by
  induction reqs generalizing mw with
  | nil => rfl
  | cons p qs ih =>
    obtain ⟨q, t⟩ := p
    cases hok : (mw.limiter.allow (getClientIp q) t).1 <;>
      simp [run, dispatch, RateLimiter.run, hok, ih]

theorem dispatch_snd (mw : RateLimitMiddleware τ) (q : Request) (t : τ) :
    (mw.dispatch q t).2 = ⟨(mw.limiter.allow (getClientIp q) t).2⟩ := by
  unfold dispatch
  dsimp only
  split <;> rfl

/-- The middleware's limiter after a run is its limiter run on the derived identities. -/
theorem limiter_run (mw : RateLimitMiddleware τ) (reqs : List (Request × τ)) :
    (mw.run reqs).2.limiter = (mw.limiter.run (reqs.map (fun p => (getClientIp p.1, p.2)))).2 := by
  induction reqs generalizing mw with
  | nil => rfl
  | cons p qs ih => simp only [run, RateLimiter.run, List.map_cons, dispatch_snd, ih]

end RateLimitMiddleware

/-- An `X-Forwarded-For` value with no comma and no whitespace names the identity itself. -/
theorem getClientIp_forwardedFor_ones (n : Nat) (client : Option String) :
    getClientIp ⟨[("x-forwarded-for", ⟨List.replicate (n + 1) '1'⟩)], client⟩ =
      ⟨List.replicate (n + 1) '1'⟩ := by
  have hne : (⟨List.replicate (n + 1) '1'⟩ : String) ≠ "" := by
    intro h
    have := congrArg String.length h
    simp [String.length] at this
  have hname : (⟨"X-Forwarded-For".data.map Char.toLower⟩ : String) = "x-forwarded-for" := by
    decide
  simp [getClientIp, Request.header, hname, hne, PyStr.strip, PyStr.splitFirst, PyStr.isSpace,
    List.takeWhile_replicate, List.dropWhile_replicate]

/-- Sixty-one requests from one peer, at one instant, each with its own `X-Forwarded-For`:
the application's limiter of sixty per sixty seconds forwards every one of them. -/
theorem dispatch_spoofed_forwardedFor_exceeds_limit :
    let reqs : List (Request × ℤ) := (List.range 61).map (fun k =>
      (⟨[("x-forwarded-for", ⟨List.replicate (k + 1) '1'⟩)], some "203.0.113.7"⟩, 0))
    (∀ p ∈ reqs, p.1.client = some "203.0.113.7" ∧ 0 ≤ p.2 ∧ p.2 ≤ 0 + 60) ∧
      ((RateLimitMiddleware.new 60 (60 : ℤ)).run reqs).1 = List.replicate 61 .forwarded := by
  refine ⟨by simp, ?_⟩
  rw [RateLimitMiddleware.run_fst, RateLimiter.run_fresh_admits _ (by decide)]
  · simp
  · intro p _
    rfl
  · simp only [List.map_map, Function.comp_def, getClientIp_forwardedFor_ones]
    refine List.Nodup.map (fun a b h => ?_) (List.nodup_range 61)
    have := congrArg String.length h
    simpa [String.length] using this

/-- `_hits` never forgets an identity: after any run of `allow` calls from a fresh limiter it
holds an entry, maybe empty, for exactly the identities that called, admitted or not; so one
peer that sends `n` values of `X-Forwarded-For` through the middleware leaves `n` entries, for
every `n`, whatever the arrival times. -/
theorem RateLimiter.hits_run_domain (m : Int) (w : τ) :
    (∀ (calls : List (String × τ)) (j : String),
      (((RateLimiter.new m w).run calls).2.hits j).isSome ↔ j ∈ calls.map Prod.fst) ∧
    ∀ (peer : Option String) (n : Nat) (t : Nat → τ), ∀ k < n,
      (((RateLimitMiddleware.new m w).run ((List.range n).map fun i =>
          (⟨[("x-forwarded-for", ⟨List.replicate (i + 1) '1'⟩)], peer⟩, t i))).2.limiter.hits
        ⟨List.replicate (k + 1) '1'⟩).isSome := by
  refine ⟨fun calls j => ?_, fun peer n t k hk => ?_⟩
  · simpa [RateLimiter.new, PyDict.empty] using RateLimiter.isSome_hits_run (.new m w) calls j
  · rw [RateLimitMiddleware.limiter_run, RateLimiter.isSome_hits_run]
    refine .inr (List.mem_map.mpr ⟨(_, t k), List.mem_map.mpr ⟨_, List.mem_map.mpr
      ⟨k, List.mem_range.mpr hk, rfl⟩, ?_⟩, rfl⟩)
    simp only [getClientIp_forwardedFor_ones]

/-- Without `X-Forwarded-For` and `X-Real-IP` the identity is the peer's address. -/
theorem getClientIp_of_no_proxy_headers (q : Request) (hf : q.header "X-Forwarded-For" = none)
    (hr : q.header "X-Real-IP" = none) : getClientIp q = q.client.getD "unknown" := by
  simp [getClientIp, getClientIp.realIpOrPeer, getClientIp.peer, hf, hr]

/-- Along every run with non-decreasing arrival times, whatever the headers, no closed
interval of length `window_seconds` holds more than `max(0, max_requests)` forwarded
requests with one `get_client_ip` identity; in particular requests from one peer that carry
neither `X-Forwarded-For` nor `X-Real-IP` are limited per peer. -/
theorem dispatch_limits_each_client_identity (m : Int) (w : τ) (reqs : List (Request × τ))
    (hs : reqs.Pairwise (fun p q => p.2 ≤ q.2)) :
    (∀ j a, (((forwardedOf reqs ((RateLimitMiddleware.new m w).run reqs).1).countP
        (fun p => getClientIp p.1 = j ∧ a ≤ p.2 ∧ p.2 ≤ a + w) : Nat) : Int) ≤ max 0 m) ∧
    ∀ peer a, (∀ p ∈ reqs, p.1.client = some peer ∧ p.1.header "X-Forwarded-For" = none ∧
        p.1.header "X-Real-IP" = none) →
      (((forwardedOf reqs ((RateLimitMiddleware.new m w).run reqs).1).countP
        (fun p => a ≤ p.2 ∧ p.2 ≤ a + w) : Nat) : Int) ≤ max 0 m := by
  let calls := reqs.map (fun p => (getClientIp p.1, p.2))
  have hcalls : calls.Pairwise (fun p q => p.2 ≤ q.2) := List.pairwise_map.mpr hs
  obtain ⟨t, ht⟩ := RateLimiter.exists_upper_bound calls
  have hb := (RateLimiter.tracks_run_new m w hcalls ht).bounded
  have hcount : ∀ j a, (forwardedOf reqs ((RateLimitMiddleware.new m w).run reqs).1).countP
      (fun p => getClientIp p.1 = j ∧ a ≤ p.2 ∧ p.2 ≤ a + w) =
        countIn (admitted calls ((RateLimiter.new m w).run calls).1) j a (a + w) := by
    intro j a
    rw [countIn, ← RateLimitMiddleware.forwardedOf_run, List.countP_map]
    rfl
  have hid : ∀ j a, ((forwardedOf reqs ((RateLimitMiddleware.new m w).run reqs).1).countP
      (fun p => getClientIp p.1 = j ∧ a ≤ p.2 ∧ p.2 ≤ a + w) : Int) ≤ max 0 m := by
    intro j a
    rw [hcount]
    simpa using hb j a
  refine ⟨hid, fun peer a hpeer => ?_⟩
  have hsub : ∀ p ∈ forwardedOf reqs ((RateLimitMiddleware.new m w).run reqs).1, p ∈ reqs :=
    forwardedOf_subset reqs _
  calc (((forwardedOf reqs ((RateLimitMiddleware.new m w).run reqs).1).countP
          (fun p => a ≤ p.2 ∧ p.2 ≤ a + w) : Nat) : Int)
      = (((forwardedOf reqs ((RateLimitMiddleware.new m w).run reqs).1).countP
          (fun p => getClientIp p.1 = peer ∧ a ≤ p.2 ∧ p.2 ≤ a + w) : Nat) : Int) := by
        congr 1
        apply List.countP_congr
        intro p hp
        obtain ⟨hc, hf, hr⟩ := hpeer p (hsub p hp)
        simp [getClientIp_of_no_proxy_headers p.1 hf hr, hc]
    _ ≤ max 0 m := hid peer a

theorem dispatch_limits_each_client_identity_single_peer :
    let reqs : List (Request × ℤ) :=
      [(⟨[], some "198.51.100.4"⟩, 0), (⟨[], some "198.51.100.4"⟩, 30)]
    (∀ j a, (((forwardedOf reqs ((RateLimitMiddleware.new 1 (60 : ℤ)).run reqs).1).countP
        (fun p => getClientIp p.1 = j ∧ a ≤ p.2 ∧ p.2 ≤ a + 60) : Nat) : Int) ≤ max 0 1) ∧
    ∀ peer a, (∀ p ∈ reqs, p.1.client = some peer ∧ p.1.header "X-Forwarded-For" = none ∧
        p.1.header "X-Real-IP" = none) →
      (((forwardedOf reqs ((RateLimitMiddleware.new 1 (60 : ℤ)).run reqs).1).countP
        (fun p => a ≤ p.2 ∧ p.2 ≤ a + 60) : Nat) : Int) ≤ max 0 1 :=
  dispatch_limits_each_client_identity 1 60 _ (by decide)

end XrayBackend.Security
