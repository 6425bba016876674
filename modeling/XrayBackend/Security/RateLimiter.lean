import XrayBackend.Python.Builtins
import Mathlib.Algebra.Order.Group.Int

/-!
# The sliding-window rate limiter (`app/security.py`)

`RateLimiter.allow` reads the monotonic clock, takes the limiter's lock and, without
awaiting under it, prunes the identity's stored timestamps to the trailing window and
admits the call when fewer than `max_requests` remain.  Since the lock is never held across
a suspension, concurrent calls enter the critical section in the order they read the clock:
a run is a list of `(identity, clock reading)` pairs with non-decreasing readings.

Clock readings are taken in an arbitrary linearly ordered additive group `τ`, so the results
hold for integer, rational and real readings alike.

The reference behaviour is the exact sliding window over the admission history: admit at `t`
iff fewer than `max_requests` earlier admissions of the identity lie in
`[t - window_seconds, t]`.  Eviction in `allow` is lazy; it agrees with the reference only
because the pruning threshold of an identity never decreases along a run.
-/

namespace XrayBackend.Security

variable {τ : Type} [LinearOrderedAddCommGroup τ]

/-- A `RateLimiter`: its two settings and its map `_hits`. -/
structure RateLimiter (τ : Type) where
  maxRequests : Int
  windowSeconds : τ
  hits : PyDict String (List τ)

namespace RateLimiter

/-- `RateLimiter(max_requests, window_seconds)`. -/
def new (maxRequests : Int) (windowSeconds : τ) : RateLimiter τ :=
  ⟨maxRequests, windowSeconds, PyDict.empty⟩

/-- `allow(identity)` when `time.monotonic()` reads `now`. -/
def allow (r : RateLimiter τ) (identity : String) (now : τ) : Bool × RateLimiter τ :=
  let windowStart := now - r.windowSeconds
  let hits := (r.hits.get identity []).filter (fun ts => windowStart ≤ ts)
  if (hits.length : Int) ≥ r.maxRequests then (false, { r with hits := r.hits.set identity hits })
  else (true, { r with hits := r.hits.set identity (hits ++ [now]) })

/-- The calls of a run, in the order they take the lock, and their answers. -/
def run (r : RateLimiter τ) : List (String × τ) → List Bool × RateLimiter τ
  | [] => ([], r)
  | (i, t) :: cs =>
    ((r.allow i t).1 :: (run (r.allow i t).2 cs).1, (run (r.allow i t).2 cs).2)

omit [LinearOrderedAddCommGroup τ] in
@[simp] theorem maxRequests_new (m : Int) (w : τ) : (new m w).maxRequests = m := rfl

omit [LinearOrderedAddCommGroup τ] in
@[simp] theorem windowSeconds_new (m : Int) (w : τ) : (new m w).windowSeconds = w := rfl

/-- The timestamps of `identity` that `allow` keeps at `now`: those in the trailing window. -/
def pruned (r : RateLimiter τ) (identity : String) (now : τ) : List τ :=
  (r.hits.get identity []).filter (fun ts => now - r.windowSeconds ≤ ts)

/-- `allow` admits iff fewer than `max_requests` timestamps survive pruning, and stores the
survivors, followed by `now` when it admits. -/
theorem allow_eq (r : RateLimiter τ) (i : String) (t : τ) :
    r.allow i t =
      if ((r.pruned i t).length : Int) < r.maxRequests then
        (true, { r with hits := r.hits.set i (r.pruned i t ++ [t]) })
      else (false, { r with hits := r.hits.set i (r.pruned i t) }) := by
  unfold allow pruned
  dsimp only
  split_ifs with h1 h2 h2 <;> first | rfl | omega

@[simp] theorem maxRequests_allow (r : RateLimiter τ) (i : String) (t : τ) :
    (r.allow i t).2.maxRequests = r.maxRequests := by
  rw [allow_eq]; split_ifs <;> rfl

@[simp] theorem windowSeconds_allow (r : RateLimiter τ) (i : String) (t : τ) :
    (r.allow i t).2.windowSeconds = r.windowSeconds := by
  rw [allow_eq]; split_ifs <;> rfl

theorem allow_fst (r : RateLimiter τ) (i : String) (t : τ) :
    (r.allow i t).1 = decide (((r.pruned i t).length : Int) < r.maxRequests) := by
  rw [allow_eq]; split_ifs with h <;> simp [h]

theorem hits_allow (r : RateLimiter τ) (i : String) (t : τ) :
    (r.allow i t).2.hits =
      r.hits.set i (r.pruned i t ++ if (r.allow i t).1 then [t] else []) := by
  rw [allow_fst, allow_eq]
  by_cases h : ((r.pruned i t).length : Int) < r.maxRequests <;> simp [h]

end RateLimiter

/-! ## The reference sliding window -/

/-- Admissions of `i` in a history whose timestamps lie in `[lo, hi]`. -/
def countIn (adm : List (String × τ)) (i : String) (lo hi : τ) : Nat :=
  adm.countP (fun p => p.1 = i ∧ lo ≤ p.2 ∧ p.2 ≤ hi)

/-- The timestamps of the admissions of `i`, oldest first. -/
def timesOf (adm : List (String × τ)) (i : String) : List τ :=
  (adm.filter (fun p => p.1 = i)).map (·.2)

/-- The reference decision: admit `i` at `t` iff fewer than `max_requests` of its earlier
admissions lie in `[t - window_seconds, t]`. -/
def windowDecision (maxRequests : Int) (w : τ) (adm : List (String × τ)) (i : String) (t : τ) :
    Bool :=
  decide ((countIn adm i (t - w) t : Int) < maxRequests)

/-- The calls of a run that were admitted, in order. -/
def admitted : List (String × τ) → List Bool → List (String × τ)
  | c :: cs, ok :: oks => if ok then c :: admitted cs oks else admitted cs oks
  | _, _ => []

omit [LinearOrderedAddCommGroup τ] in
theorem mem_timesOf {adm : List (String × τ)} {i : String} {x : τ} :
    x ∈ timesOf adm i ↔ ∃ p ∈ adm, p.1 = i ∧ p.2 = x := by
  simp [timesOf, and_assoc]

omit [LinearOrderedAddCommGroup τ] in
@[simp] theorem timesOf_append_single (adm : List (String × τ)) (i j : String) (t : τ) :
    timesOf (adm ++ [(i, t)]) j = timesOf adm j ++ if i = j then [t] else [] := by
  by_cases h : i = j <;> simp [timesOf, h]

/-- The admissions of `i` in `[lo, hi]`, read off its timestamps. -/
theorem length_filter_timesOf (adm : List (String × τ)) (i : String) (lo hi : τ) :
    ((timesOf adm i).filter (fun ts => lo ≤ ts ∧ ts ≤ hi)).length = countIn adm i lo hi := by
  rw [← List.countP_eq_length_filter, timesOf, List.countP_map, List.countP_filter, countIn]
  apply List.countP_congr
  intro p _
  simp [and_comm]

/-- Pruning at a later threshold after pruning at an earlier one is pruning at the later. -/
theorem filter_le_filter_le {a b : τ} (hab : a ≤ b) (l : List τ) :
    (l.filter (fun ts => a ≤ ts)).filter (fun ts => b ≤ ts) = l.filter (fun ts => b ≤ ts) := by
  rw [List.filter_filter]
  apply List.filter_congr
  intro x _
  by_cases hx : b ≤ x
  · simp [hx, le_trans hab hx]
  · simp [hx]

omit [LinearOrderedAddCommGroup τ] in
@[simp] theorem admitted_cons (c : String × τ) (cs : List (String × τ)) (ok : Bool)
    (oks : List Bool) :
    admitted (c :: cs) (ok :: oks) = (if ok then [c] else []) ++ admitted cs oks := by
  cases ok <;> rfl

/-! ## Lazy eviction refines the reference window -/

namespace RateLimiter

@[simp] theorem maxRequests_run (r : RateLimiter τ) (cs : List (String × τ)) :
    (r.run cs).2.maxRequests = r.maxRequests := by
  induction cs generalizing r with
  | nil => rfl
  | cons c cs ih => simp only [run, ih, maxRequests_allow]

@[simp] theorem windowSeconds_run (r : RateLimiter τ) (cs : List (String × τ)) :
    (r.run cs).2.windowSeconds = r.windowSeconds := by
  induction cs generalizing r with
  | nil => rfl
  | cons c cs ih => simp only [run, ih, windowSeconds_allow]

/-- The simulation relation with the admission history `adm`: no admission is later than
`clock`, no window of length `window_seconds` holds more than `max(0, max_requests)`
admissions of one identity, and on every window that a call at or after `clock` looks at,
the stored list of each identity agrees with its admissions. -/
structure Tracks (r : RateLimiter τ) (adm : List (String × τ)) (clock : τ) : Prop where
  le_clock : ∀ p ∈ adm, p.2 ≤ clock
  bounded : ∀ i a, (countIn adm i a (a + r.windowSeconds) : Int) ≤ max 0 r.maxRequests
  agrees : ∀ i t, clock ≤ t →
    ((r.hits i).getD []).filter (fun ts => t - r.windowSeconds ≤ ts) =
      (timesOf adm i).filter (fun ts => t - r.windowSeconds ≤ ts)

variable {r : RateLimiter τ} {adm : List (String × τ)} {c t : τ}

theorem Tracks.mono (h : r.Tracks adm c) {c' : τ} (hc : c ≤ c') : r.Tracks adm c' where
  le_clock p hp := le_trans (h.le_clock p hp) hc
  bounded := h.bounded
  agrees i t ht := h.agrees i t (le_trans hc ht)

theorem tracks_new (m : Int) (w : τ) (c : τ) : (new m w).Tracks [] c where
  le_clock _ h := absurd h (List.not_mem_nil _)
  bounded _ _ := le_max_left (0 : Int) _
  agrees _ _ _ := rfl

/-- Under the simulation, the survivors of pruning at `t ≥ clock` are exactly the admissions
of the identity in `[t - window_seconds, t]`. -/
theorem pruned_of_tracks (h : r.Tracks adm c) (hct : c ≤ t) (i : String) :
    r.pruned i t = (timesOf adm i).filter (fun ts => t - r.windowSeconds ≤ ts ∧ ts ≤ t) := by
  rw [pruned, PyDict.get, h.agrees i t hct]
  apply List.filter_congr
  intro x hx
  obtain ⟨p, hp, -, rfl⟩ := mem_timesOf.mp hx
  simp [le_trans (h.le_clock p hp) hct]

/-- Under the simulation `allow` decides as the reference window does. -/
theorem allow_fst_of_tracks (h : r.Tracks adm c) (hct : c ≤ t) (i : String) :
    (r.allow i t).1 = windowDecision r.maxRequests r.windowSeconds adm i t := by
  rw [allow_fst, windowDecision, pruned_of_tracks h hct, length_filter_timesOf]

/-- An admission keeps every window within the cap: the earlier admissions in a window
holding `t` all lie in `[t - window_seconds, t]`, where the reference saw room. -/
theorem bounded_snoc (h : r.Tracks adm c) (hct : c ≤ t) {i : String}
    (hdec : windowDecision r.maxRequests r.windowSeconds adm i t = true) (j : String) (a : τ) :
    (countIn (adm ++ [(i, t)]) j a (a + r.windowSeconds) : Int) ≤ max 0 r.maxRequests := by
  have hold := h.bounded j a
  simp only [countIn, List.countP_append, List.countP_singleton] at hold ⊢
  split_ifs with hin
  · simp only [decide_eq_true_eq] at hin
    obtain ⟨rfl, hat, hta⟩ := hin
    have hmono : countIn adm i a (a + r.windowSeconds) ≤ countIn adm i (t - r.windowSeconds) t := by
      apply List.countP_mono_left
      intro p hp hq
      simp only [decide_eq_true_eq] at hq ⊢
      exact ⟨hq.1, le_trans (sub_le_iff_le_add.mpr hta) hq.2.1,
        le_trans (h.le_clock p hp) hct⟩
    simp only [windowDecision, countIn, decide_eq_true_eq] at hdec
    simp only [countIn] at hmono
    push_cast
    omega
  · rwa [Nat.add_zero]

/-- One call under the simulation: the simulation carries over to the history extended by
the call's admission, at the call's clock reading. -/
theorem tracks_allow (h : r.Tracks adm c) (hct : c ≤ t) (i : String) :
    (r.allow i t).2.Tracks (adm ++ if (r.allow i t).1 then [(i, t)] else []) t where
  le_clock p hp := by
    rcases List.mem_append.mp hp with hp | hp
    · exact le_trans (h.le_clock p hp) hct
    · split_ifs at hp
      · rw [List.mem_singleton.mp hp]
      · exact absurd hp (List.not_mem_nil _)
  bounded j a := by
    rw [maxRequests_allow, windowSeconds_allow]
    split_ifs with hok
    · exact bounded_snoc h hct (allow_fst_of_tracks h hct i ▸ hok) j a
    · simpa using h.bounded j a
  agrees j t' ht' := by
    rw [hits_allow, windowSeconds_allow]
    by_cases hj : j = i
    · subst hj
      simp only [PyDict.set_apply, if_true, Option.getD_some, List.filter_append]
      rw [pruned, PyDict.get, filter_le_filter_le (sub_le_sub_right ht' _),
        h.agrees j t' (le_trans hct ht')]
      split_ifs <;> simp
    · simp only [PyDict.set_apply, hj, if_false]
      rw [h.agrees j t' (le_trans hct ht')]
      split_ifs <;> simp [Ne.symm hj]


/-- Over a run with non-decreasing clock readings, none before `clock`, the simulation
carries over to the history extended by the run's admissions. -/
theorem tracks_run (h : r.Tracks adm c) {calls : List (String × τ)}
    (hs : calls.Pairwise (fun p q => p.2 ≤ q.2)) (hc : ∀ p ∈ calls, c ≤ p.2) {t : τ}
    (ht : ∀ p ∈ calls, p.2 ≤ t) (hct : c ≤ t) :
    (r.run calls).2.Tracks (adm ++ admitted calls (r.run calls).1) t := by
  induction calls generalizing r adm c with
  | nil => simpa [run, admitted] using h.mono hct
  | cons p cs ih =>
    obtain ⟨hp, hcs⟩ := List.pairwise_cons.mp hs
    have h0 := tracks_allow h (hc p (List.mem_cons_self p cs)) p.1
    have := ih h0 hcs hp (fun q hq => ht q (List.mem_cons_of_mem p hq))
      (ht p (List.mem_cons_self p cs))
    simpa [run, List.append_assoc] using this

/-- From a fresh limiter, a run with non-decreasing readings, all up to `t`, is simulated by its
own admissions at `t`. -/
theorem tracks_run_new (m : Int) (w : τ) {calls : List (String × τ)}
    (hs : calls.Pairwise (fun p q => p.2 ≤ q.2)) {t : τ} (ht : ∀ p ∈ calls, p.2 ≤ t) :
    ((new m w).run calls).2.Tracks (admitted calls ((new m w).run calls).1) t := by
  cases calls with
  | nil => exact tracks_new m w t
  | cons p cs =>
    have hfirst : ∀ q ∈ p :: cs, p.2 ≤ q.2 := by
      intro q hq
      rcases List.mem_cons.mp hq with rfl | hq
      · exact le_refl _
      · exact (List.pairwise_cons.mp hs).1 q hq
    simpa using tracks_run (tracks_new m w p.2) hs hfirst ht (ht p (List.mem_cons_self p cs))

theorem exists_upper_bound (calls : List (String × τ)) : ∃ t : τ, ∀ p ∈ calls, p.2 ≤ t := by
  induction calls with
  | nil => exact ⟨0, fun _ h => absurd h (List.not_mem_nil _)⟩
  | cons p cs ih =>
    obtain ⟨t, ht⟩ := ih
    refine ⟨max p.2 t, fun q hq => ?_⟩
    rcases List.mem_cons.mp hq with rfl | hq
    · exact le_max_left _ _
    · exact le_trans (ht q hq) (le_max_right _ _)

/-- Along every run with non-decreasing clock readings, `allow(i)` at `t` admits iff fewer than
`max_requests` earlier admissions of `i` lie in `[t - window_seconds, t]`, then stores exactly
their timestamps (and `t` if admitted), at most `max(0, max_requests)`; and no closed interval
of length `window_seconds` holds more than `max(0, max_requests)` admissions of one identity. -/
theorem allow_refines_slidingWindow (m : Int) (w : τ) (calls : List (String × τ))
    (hs : calls.Pairwise (fun p q => p.2 ≤ q.2)) :
    (∀ pre i t post, calls = pre ++ (i, t) :: post →
      let r := ((new m w).run pre).2
      let adm := admitted pre ((new m w).run pre).1
      (r.allow i t).1 = windowDecision m w adm i t ∧
        (r.allow i t).2.hits i = some ((timesOf adm i).filter (fun ts => t - w ≤ ts ∧ ts ≤ t) ++
          if (r.allow i t).1 then [t] else []) ∧
        ((((r.allow i t).2.hits i).getD []).length : Int) ≤ max 0 m) ∧
    ∀ j a, (countIn (admitted calls ((new m w).run calls).1) j a (a + w) : Int) ≤ max 0 m := by
  refine ⟨fun pre i t post hcalls => ?_, fun j a => ?_⟩
  · have hs' := (List.pairwise_append.mp (hcalls ▸ hs))
    have h := tracks_run_new m w hs'.1 (fun p hp => hs'.2.2 p hp (i, t) (List.mem_cons_self _ _))
    have hdec := allow_fst_of_tracks h (le_refl t) i
    have hpr := pruned_of_tracks h (le_refl t) i
    have hb := h.bounded i (t - w)
    simp only [maxRequests_run, windowSeconds_run, maxRequests_new, windowSeconds_new]
      at hdec hpr hb
    refine ⟨hdec, by rw [hits_allow, PyDict.set_apply, if_pos rfl, hpr], ?_⟩
    rw [hits_allow, PyDict.set_apply, if_pos rfl, Option.getD_some, List.length_append]
    by_cases hok : (((new m w).run pre).2.allow i t).1
    · have hlt := allow_fst _ i t ▸ hok
      simp only [decide_eq_true_eq, maxRequests_run, maxRequests_new] at hlt
      simp only [hok, if_true, List.length_singleton]
      push_cast
      omega
    · rw [sub_add_cancel, ← length_filter_timesOf, ← hpr] at hb
      simpa [hok] using hb
  · obtain ⟨t, ht⟩ := exists_upper_bound calls
    simpa using (tracks_run_new m w hs ht).bounded j a

/-- A three-request burst at one instant, under a cap of two per minute. -/
theorem allow_refines_slidingWindow_burst :
    let calls : List (String × ℤ) := [("A", 0), ("A", 0), ("A", 0)]
    (∀ pre i t post, calls = pre ++ (i, t) :: post →
      let r := ((new 2 (60 : ℤ)).run pre).2
      let adm := admitted pre ((new 2 (60 : ℤ)).run pre).1
      (r.allow i t).1 = windowDecision 2 60 adm i t ∧
        (r.allow i t).2.hits i = some ((timesOf adm i).filter (fun ts => t - 60 ≤ ts ∧ ts ≤ t) ++
          if (r.allow i t).1 then [t] else []) ∧
        ((((r.allow i t).2.hits i).getD []).length : Int) ≤ max 0 2) ∧
    ∀ j a, (countIn (admitted calls ((new 2 (60 : ℤ)).run calls).1) j a (a + 60) : Int) ≤ max 0 2 :=
  allow_refines_slidingWindow 2 60 _ (by decide)

/-- With `max_requests = -1` the first call is refused, and the limiter stores an empty list
for its identity: that is more than `max_requests` entries, and the run's zero admissions
in `[0, 60]` are more than `max_requests` too. -/
theorem allow_negative_cap_exceeds_cap :
    let r := (new (-1) (60 : ℤ)).allow "A" 0
    r.1 = false ∧ r.2.hits "A" = some [] ∧
      ¬ ((((r.2.hits "A").getD []).length : Int) ≤ -1) ∧
      ¬ ((countIn (admitted [("A", (0 : ℤ))] [r.1]) "A" 0 (0 + 60) : Int) ≤ -1) := by
  decide

/-! ## The identities `_hits` remembers -/

/-- `allow` keeps an entry for its identity, even an empty one, and touches no other. -/
theorem isSome_hits_allow (r : RateLimiter τ) (i : String) (t : τ) (j : String) :
    ((r.allow i t).2.hits j).isSome ↔ j = i ∨ (r.hits j).isSome := by
  rw [hits_allow, PyDict.set_apply]
  by_cases h : j = i <;> simp [h]

/-- `_hits` never forgets an identity: after a run it holds an entry for every identity it
held or that called `allow`, admitted or not, and for no other. -/
theorem isSome_hits_run (r : RateLimiter τ) (calls : List (String × τ)) (j : String) :
    ((r.run calls).2.hits j).isSome ↔ (r.hits j).isSome ∨ j ∈ calls.map Prod.fst := by
  induction calls generalizing r with
  | nil => simp [run]
  | cons c cs ih =>
    rw [run, ih, isSome_hits_allow]
    simp only [List.map_cons, List.mem_cons]
    tauto

end RateLimiter

end XrayBackend.Security
