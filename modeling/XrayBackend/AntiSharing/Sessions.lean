import XrayBackend.AntiSharing.Limiter

/-!
# What the limiter's counts mean

`ConnectionLimiter` never learns which session an `end_session` closes; its caller
promises that it closes one it started.  To say what a count means we pair the limiter
with the sessions each identifier really holds open (started by a `start_session` that
returned `True`, not yet ended) and look at the runs that keep that promise.

In hard-block mode the count of every identifier is exactly its open sessions and never
exceeds `max_connections`, so once one slot is left, of any number of competing
`start_session` calls exactly one is admitted.  In log-only mode a start over the cap is
admitted without being counted while its `end_session` still decrements: the count stays
between zero and `min(open, max_connections)` but can fall below that minimum.
-/

namespace XrayBackend.AntiSharing

open ConnectionLimiter

/-- The open sessions after one call and its reply. -/
def openedAfter (o : String → Nat) : Call → Reply → String → Nat
  | .startSession u, .admitted true => Function.update o u (o u + 1)
  | .endSession u, _ => Function.update o u (o u - 1)
  | _, _ => o

/-- A limiter together with the sessions each identifier holds open. -/
structure Tracked where
  limiter : ConnectionLimiter
  opened : String → Nat

namespace Tracked

/-- A fresh limiter; nobody holds a session. -/
def init (m : Int) (logOnly : Bool) : Tracked := ⟨ConnectionLimiter.new m logOnly, fun _ => 0⟩

def step (t : Tracked) (c : Call) : Tracked :=
  ⟨(t.limiter.step c).2, openedAfter t.opened c (t.limiter.step c).1⟩

def run : Tracked → List Call → Tracked
  | t, [] => t
  | t, c :: cs => run (t.step c) cs

/-- A call keeps the caller's promise: an `end_session(u)` closes an open session of `u`. -/
def ClosesOpen (t : Tracked) : Call → Prop
  | .endSession u => 0 < t.opened u
  | _ => True

instance (t : Tracked) : DecidablePred t.ClosesOpen
  | .endSession u => inferInstanceAs (Decidable (0 < t.opened u))
  | .startSession _ | .markSuspicious _ | .activeConnections _ => isTrue trivial

/-- Every `end_session` of the run closes a session that is open when it runs. -/
def Bracketed : Tracked → List Call → Prop
  | _, [] => True
  | t, c :: cs => t.ClosesOpen c ∧ Bracketed (t.step c) cs

instance decBracketed : ∀ t cs, Decidable (Bracketed t cs)
  | _, [] => isTrue trivial
  | t, c :: cs => @instDecidableAnd _ _ (inferInstance) (decBracketed (t.step c) cs)

theorem limiter_run (t : Tracked) (cs : List Call) : (t.run cs).limiter = (t.limiter.run cs).2 := by
  induction cs generalizing t with
  | nil => rfl
  | cons c cs ih => exact ih (t.step c)

@[simp] theorem maxConnections_run (t : Tracked) (cs : List Call) :
    (t.run cs).limiter.maxConnections = t.limiter.maxConnections := by
  rw [limiter_run, ConnectionLimiter.maxConnections_run]

@[simp] theorem logOnly_run (t : Tracked) (cs : List Call) :
    (t.run cs).limiter.logOnly = t.limiter.logOnly := by
  rw [limiter_run, ConnectionLimiter.logOnly_run]

end Tracked

/-! ## Hard-block mode -/

namespace Tracked

/-- Every identifier's count is its open sessions, and those stay within the cap. -/
def Accounted (t : Tracked) : Prop :=
  ∀ u, t.limiter.activeConnections u = t.opened u ∧
    (t.opened u : Int) ≤ t.limiter.maxConnections

theorem accounted_init (m : Int) : (init m false).Accounted := fun _ =>
  ⟨rfl, le_max_left (0 : Int) m⟩

section HardBlock

variable {t : Tracked} (hhard : t.limiter.logOnly = false) (hon : 0 < t.limiter.maxConnections)
include hhard hon

/-- In hard-block mode every call that keeps the promise keeps the accounting exact. -/
theorem accounted_step (h : t.Accounted) {c : Call} (hc : t.ClosesOpen c) :
    (t.step c).Accounted := by
  have hen : t.limiter.enabled = true := by simp [enabled, hon]
  intro v
  simp only [step, maxConnections_step]
  cases c with
  | startSession u =>
    by_cases hlt : t.limiter.activeConnections u < t.limiter.maxConnections
    · have hadm : (t.limiter.startSession u).1 = true := by
        simp [admitted_startSession, hen, hlt]
      simp only [ConnectionLimiter.step, hadm, openedAfter, activeConnections_startSession, hen,
        hlt, and_true, true_and]
      by_cases hvu : v = u
      · subst hvu
        have := (h v).1
        simp only [if_true, Function.update_same]
        omega
      · simp only [hvu, if_false, Function.update_noteq hvu]
        exact h v
    · have hadm : (t.limiter.startSession u).1 = false := by
        simp [admitted_startSession, hen, hlt, hhard]
      simp only [ConnectionLimiter.step, hadm, openedAfter, activeConnections_startSession, hlt,
        and_false, if_false]
      exact h v
  | endSession u =>
    have hopen : 0 < t.opened u := hc
    simp only [ConnectionLimiter.step, openedAfter, activeConnections_endSession, hen, and_true]
    by_cases hvu : v = u
    · subst hvu
      have := h v
      simp only [if_true, Function.update_same]
      omega
    · simp only [hvu, if_false, Function.update_noteq hvu]
      exact h v
  | markSuspicious u => exact h v
  | activeConnections u => exact h v

/-- In hard-block mode, over every run that keeps the promise, the accounting stays exact. -/
theorem accounted_run (h : t.Accounted) {cs : List Call} (hb : t.Bracketed cs) :
    (t.run cs).Accounted := by
  induction cs generalizing t with
  | nil => exact h
  | cons c cs ih =>
    have hhard' : (t.step c).limiter.logOnly = false := by simp [step, hhard]
    have hon' : 0 < (t.step c).limiter.maxConnections := by simp [step, hon]
    exact ih hhard' hon' (accounted_step hhard hon h hb.1) hb.2

end HardBlock

end Tracked

namespace ConnectionLimiter

/-- Admitted `start_session(u)` calls of a run, read off its calls and replies. -/
def admittedStarts (u : String) (cs : List Call) (rs : List Reply) : Nat :=
  (cs.zip rs).count (.startSession u, .admitted true)

/-- One call of a run, and the admitted starts of `u` that follow it. -/
theorem admittedStarts_run_cons (l : ConnectionLimiter) (u : String) (c : Call) (cs : List Call) :
    admittedStarts u (c :: cs) (l.run (c :: cs)).1 =
      admittedStarts u cs ((l.step c).2.run cs).1 +
        if c = .startSession u ∧ (l.step c).1 = .admitted true then 1 else 0 := by
  simp only [admittedStarts, run, List.zip_cons_cons, List.count_cons, beq_iff_eq, Prod.mk.injEq]

section LastSlot

variable {u : String} {cs : List Call}

/-- Once `u` is at its cap, a hard-block limiter refuses every further `start_session(u)`
while no `end_session(u)` frees a slot. -/
theorem admittedStarts_of_full {l : ConnectionLimiter} (hhard : l.logOnly = false)
    (hon : 0 < l.maxConnections) (hfull : l.maxConnections ≤ l.activeConnections u)
    (hnoend : ∀ c ∈ cs, c ≠ .endSession u) :
    admittedStarts u cs (l.run cs).1 = 0 := by
  induction cs generalizing l with
  | nil => rfl
  | cons c cs ih =>
    have hkeep : (l.step c).2.maxConnections ≤ (l.step c).2.activeConnections u ∧
        ¬ (c = .startSession u ∧ (l.step c).1 = .admitted true) := by
      rw [maxConnections_step]
      by_cases hcu : c = .startSession u
      · subst hcu
        have hno : ¬ l.activeConnections u < l.maxConnections := not_lt.mpr hfull
        simp only [step, activeConnections_startSession, hno, and_false, if_false,
          admitted_startSession, enabled, hon, hhard, Reply.admitted.injEq]
        simp [hfull, hno]
      · rw [activeConnections_step_of_keeps l hcu (hnoend c (List.mem_cons_self c cs))]
        exact ⟨hfull, fun h => hcu h.1⟩
    rw [admittedStarts_run_cons, if_neg hkeep.2, ih (by simpa using hhard) (by simpa using hon)
      hkeep.1 fun c' hc' => hnoend c' (List.mem_cons_of_mem c hc')]

/-- With one slot of `u` left, among any number of competing `start_session(u)` calls,
interleaved with any calls but `end_session(u)`, exactly one is admitted. -/
theorem admittedStarts_of_lastSlot {l : ConnectionLimiter} (hhard : l.logOnly = false)
    (hon : 0 < l.maxConnections) (hslot : l.activeConnections u + 1 = l.maxConnections)
    (hnoend : ∀ c ∈ cs, c ≠ .endSession u) (hsome : .startSession u ∈ cs) :
    admittedStarts u cs (l.run cs).1 = 1 := by
  induction cs generalizing l with
  | nil => simp at hsome
  | cons c cs ih =>
    have hnoend' : ∀ c ∈ cs, c ≠ .endSession u :=
      fun c' hc' => hnoend c' (List.mem_cons_of_mem c hc')
    by_cases hcu : c = .startSession u
    · -- the first competing start takes the slot
      subst hcu
      have hlt : l.activeConnections u < l.maxConnections := by omega
      have hen : l.enabled = true := by simp [enabled, hon]
      have hadm : (l.step (.startSession u)).1 = .admitted true := by
        simp [step, admitted_startSession, hlt]
      have hfull : (l.step (.startSession u)).2.maxConnections ≤
          (l.step (.startSession u)).2.activeConnections u := by
        rw [maxConnections_step]
        simp only [step, activeConnections_startSession, hen, hlt, and_self, if_true]
        omega
      rw [admittedStarts_run_cons, if_pos ⟨rfl, hadm⟩,
        admittedStarts_of_full (by simpa using hhard) (by simpa using hon) hfull hnoend']
    · -- any other call leaves the slot as it is
      have hslot' : (l.step c).2.activeConnections u + 1 = (l.step c).2.maxConnections := by
        rw [maxConnections_step,
          activeConnections_step_of_keeps l hcu (hnoend c (List.mem_cons_self c cs))]
        exact hslot
      rw [admittedStarts_run_cons, if_neg fun h => hcu h.1, ih (by simpa using hhard)
        (by simpa using hon) hslot' hnoend' ((List.mem_cons.mp hsome).resolve_left (Ne.symm hcu))]

end LastSlot

end ConnectionLimiter

/-- In hard-block mode, over every run whose `end_session` calls each close an admitted
session still open, `active_connections(u)` is the number of open sessions of `u` and never
exceeds `max_connections`; and when one slot of `u` is left, of any number of competing
`start_session(u)` calls, among any calls but `end_session(u)`, exactly one is admitted. -/
theorem hardBlock_counts_open_sessions (m : Int) (hm : 0 < m) (calls : List Call)
    (hb : (Tracked.init m false).Bracketed calls) :
    let t := (Tracked.init m false).run calls
    (∀ u, t.limiter.activeConnections u = t.opened u ∧ (t.opened u : Int) ≤ m) ∧
      ∀ u cs, (t.opened u : Int) + 1 = m → (∀ c ∈ cs, c ≠ .endSession u) →
        .startSession u ∈ cs → ConnectionLimiter.admittedStarts u cs (t.limiter.run cs).1 = 1 := by
  have hinit : (Tracked.init m false).limiter.maxConnections = m := max_eq_right hm.le
  have hmax : ((Tracked.init m false).run calls).limiter.maxConnections = m := by
    rw [Tracked.maxConnections_run, hinit]
  have hacc := @Tracked.accounted_run (Tracked.init m false) rfl (by rw [hinit]; exact hm)
    (Tracked.accounted_init m) calls hb
  refine ⟨fun u => ?_, fun u cs hslot hnoend hsome => ?_⟩
  · have := hacc u
    rwa [hmax] at this
  · refine admittedStarts_of_lastSlot (by rw [Tracked.logOnly_run]; rfl) (by rw [hmax]; exact hm) ?_
      hnoend hsome
    rw [(hacc u).1, hmax]
    exact hslot

theorem hardBlock_counts_open_sessions_one_slot :
    let t := (Tracked.init 1 false).run [.startSession "A", .startSession "B", .endSession "A"]
    (∀ u, t.limiter.activeConnections u = t.opened u ∧ (t.opened u : Int) ≤ 1) ∧
      ∀ u cs, (t.opened u : Int) + 1 = 1 → (∀ c ∈ cs, c ≠ .endSession u) →
        .startSession u ∈ cs → ConnectionLimiter.admittedStarts u cs (t.limiter.run cs).1 = 1 :=
  hardBlock_counts_open_sessions 1 (by decide) _ (by decide)

/-! ## Log-only mode -/

namespace Tracked

/-- Every identifier's count lies between zero and the smaller of its open sessions and
the cap. -/
def Undercounted (t : Tracked) : Prop :=
  ∀ u, 0 ≤ t.limiter.activeConnections u ∧ t.limiter.activeConnections u ≤ t.opened u ∧
    t.limiter.activeConnections u ≤ t.limiter.maxConnections

theorem undercounted_init (m : Int) (logOnly : Bool) : (init m logOnly).Undercounted :=
  fun _ => ⟨le_refl 0, le_refl 0, le_max_left (0 : Int) m⟩

/-- Whatever the mode, a call that keeps the promise keeps every count under the open
sessions and the cap. -/
theorem undercounted_step {t : Tracked} (h : t.Undercounted) {c : Call} (hc : t.ClosesOpen c) :
    (t.step c).Undercounted := by
  intro v
  simp only [step, maxConnections_step]
  have hv := h v
  cases c with
  | startSession u =>
    simp only [ConnectionLimiter.step, activeConnections_startSession]
    have hopen : t.opened v ≤ openedAfter t.opened (.startSession u)
        (.admitted (t.limiter.startSession u).1) v := by
      cases (t.limiter.startSession u).1
      · exact le_refl _
      · by_cases hvu : v = u
        · subst hvu; simp [openedAfter]
        · simp [openedAfter, Function.update_noteq hvu]
    split_ifs with hc
    · obtain ⟨rfl, hen, hlt⟩ := hc
      have hadm : (t.limiter.startSession v).1 = true := by
        simp [admitted_startSession, hen, hlt]
      simp only [hadm, openedAfter, Function.update_same]
      omega
    · omega
  | endSession u =>
    have hopen : 0 < t.opened u := hc
    simp only [ConnectionLimiter.step, openedAfter, activeConnections_endSession]
    by_cases hvu : v = u
    · subst hvu
      simp only [true_and, Function.update_same]
      split_ifs with hen
      · omega
      · have hoff : t.limiter.maxConnections ≤ 0 := by simpa [enabled] using hen
        omega
    · simp only [hvu, false_and, if_false, Function.update_noteq hvu]
      exact hv
  | markSuspicious u => exact hv
  | activeConnections u => exact hv

theorem undercounted_run {t : Tracked} (h : t.Undercounted) {cs : List Call}
    (hb : t.Bracketed cs) : (t.run cs).Undercounted := by
  induction cs generalizing t with
  | nil => exact h
  | cons c cs ih => exact ih (undercounted_step h hb.1) hb.2

end Tracked

/-- Log-only mode, one connection allowed: `A` starts twice, the second start admitted over
the cap and left uncounted, then ends once.  One session of `A` is still open, yet its
count is zero, and the next `start_session("A")` is admitted without a warning. -/
theorem logOnly_start_at_cap_unlogged :
    let t := (Tracked.init 1 true).run [.startSession "A", .startSession "A", .endSession "A"]
    (Tracked.init 1 true).Bracketed
        [.startSession "A", .startSession "A", .endSession "A", .startSession "A"] ∧
      t.opened "A" = 1 ∧ (t.limiter.startSession "A").2.log = t.limiter.log ∧
      t.limiter.activeConnections "A" < min (t.opened "A" : Int) 1 := by
  decide

/-- In log-only mode, over every run whose `end_session` calls each close an admitted
session still open, every `start_session` is admitted, it logs `connection_limit_exceeded`
exactly when the count of its identifier has reached `max_connections`, and every count
stays between zero and the smaller of the open sessions and the cap. -/
theorem logOnly_count_below_open_sessions (m : Int) (hm : 0 < m) (calls : List Call)
    (hb : (Tracked.init m true).Bracketed calls) :
    let t := (Tracked.init m true).run calls
    (∀ u, 0 ≤ t.limiter.activeConnections u ∧
        t.limiter.activeConnections u ≤ min (t.opened u : Int) m) ∧
      ∀ u, (t.limiter.startSession u).1 = true ∧
        (t.limiter.startSession u).2.log =
          if m ≤ t.limiter.activeConnections u then
            t.limiter.log ++
              [⟨"connection_limit_exceeded", u, some (t.limiter.activeConnections u)⟩]
          else t.limiter.log := by
  have hmax : ((Tracked.init m true).run calls).limiter.maxConnections = m := by
    rw [Tracked.maxConnections_run]
    exact max_eq_right hm.le
  have hlog : ((Tracked.init m true).run calls).limiter.logOnly = true := by
    rw [Tracked.logOnly_run]
    rfl
  have hen : ((Tracked.init m true).run calls).limiter.enabled = true := by
    simp only [enabled, hmax, decide_eq_true_eq]
    exact hm
  have hinv := Tracked.undercounted_run (Tracked.undercounted_init m true) hb
  refine ⟨fun u => ?_, fun u => ⟨?_, ?_⟩⟩
  · have := hinv u
    rw [hmax] at this
    exact ⟨this.1, le_min this.2.1 this.2.2⟩
  · simp only [admitted_startSession, hlog, Bool.or_true]
  · simp only [log_startSession, hen, hmax, true_and]

theorem logOnly_count_below_open_sessions_restart :
    let t := (Tracked.init 1 true).run [.startSession "A", .startSession "A", .endSession "A"]
    (∀ u, 0 ≤ t.limiter.activeConnections u ∧
        t.limiter.activeConnections u ≤ min (t.opened u : Int) 1) ∧
      ∀ u, (t.limiter.startSession u).1 = true ∧
        (t.limiter.startSession u).2.log =
          if 1 ≤ t.limiter.activeConnections u then
            t.limiter.log ++
              [⟨"connection_limit_exceeded", u, some (t.limiter.activeConnections u)⟩]
          else t.limiter.log :=
  logOnly_count_below_open_sessions 1 (by decide) _ (by decide)

end XrayBackend.AntiSharing
