import XrayBackend.Python.Builtins

/-!
# The connection accounting limiter (`app/anti_sharing.py`)

`ConnectionLimiter` keeps, per user identifier, the number of sessions it has counted in
`_active`.  Every method that touches `_active` does so inside `async with self._lock`
and never awaits there, so under asyncio's cooperative scheduling each call is one atomic
step and any interleaving of concurrent calls is a sequence of calls.  A run is therefore
a list of `Call`s, executed by `run`.

The main result here is the representation invariant of `_active`: from any setting of
`max_connections` and `log_only`, along every run, well bracketed or not, every stored
count lies in `1..max(0, max_connections)`.
-/

namespace XrayBackend.AntiSharing

/-- A record handed to `self._logger.warning`: its message and its `extra` fields. -/
structure LogRecord where
  message : String
  uuid : String
  active : Option Int
  deriving DecidableEq, Repr

/-- A `ConnectionLimiter`: the settings fixed by `__init__` (with `max_connections`
already clamped at zero) and its mutable parts, `_active` and what it has logged. -/
structure ConnectionLimiter where
  maxConnections : Int
  logOnly : Bool
  maxConnections_nonneg : 0 ≤ maxConnections
  active : PyDict String Int
  log : List LogRecord

namespace ConnectionLimiter

/-- `ConnectionLimiter(max_connections, log_only)`. -/
def new (maxConnections : Int) (logOnly : Bool) : ConnectionLimiter where
  maxConnections := max 0 maxConnections
  logOnly := logOnly
  maxConnections_nonneg := le_max_left (0 : Int) _
  active := PyDict.empty
  log := []

/-- `self.enabled`, set once by `__init__` to `self.max_connections > 0`. -/
def enabled (l : ConnectionLimiter) : Bool := decide (0 < l.maxConnections)

/-- `start_session`: whether the session is admitted, and the limiter after the call. -/
def startSession (l : ConnectionLimiter) (uuid : String) : Bool × ConnectionLimiter :=
  if !l.enabled then (true, l)
  else
    let current := l.active.get uuid 0
    if current ≥ l.maxConnections then
      (l.logOnly,
        { l with log := l.log ++ [⟨"connection_limit_exceeded", uuid, some current⟩] })
    else (true, { l with active := l.active.set uuid (current + 1) })

/-- `end_session`. -/
def endSession (l : ConnectionLimiter) (uuid : String) : ConnectionLimiter :=
  if !l.enabled then l
  else
    let current := l.active.get uuid 0
    if current ≤ 1 then { l with active := l.active.pop uuid }
    else { l with active := l.active.set uuid (current - 1) }

/-- `mark_suspicious`: a warning, and nothing else. -/
def markSuspicious (l : ConnectionLimiter) (uuid : String) : ConnectionLimiter :=
  { l with log := l.log ++ [⟨"suspicious_activity", uuid, none⟩] }

/-- `active_connections`. -/
def activeConnections (l : ConnectionLimiter) (uuid : String) : Int := l.active.get uuid 0

end ConnectionLimiter

/-- One call on the limiter, as a concurrent task issues it. -/
inductive Call
  | startSession (uuid : String)
  | endSession (uuid : String)
  | markSuspicious (uuid : String)
  | activeConnections (uuid : String)
  deriving DecidableEq, Repr

/-- The identifier a call is about. -/
def Call.uuid : Call → String
  | .startSession u | .endSession u | .markSuspicious u | .activeConnections u => u

/-- What a call returns to its task. -/
inductive Reply
  | admitted (ok : Bool)
  | ended
  | marked
  | count (n : Int)
  deriving DecidableEq, Repr

namespace ConnectionLimiter

/-- One call, executed atomically under `self._lock`. -/
def step (l : ConnectionLimiter) : Call → Reply × ConnectionLimiter
  | .startSession u => (.admitted (l.startSession u).1, (l.startSession u).2)
  | .endSession u => (.ended, l.endSession u)
  | .markSuspicious u => (.marked, l.markSuspicious u)
  | .activeConnections u => (.count (l.activeConnections u), l)

/-- A run: the calls in the order they take the lock, with their replies. -/
def run (l : ConnectionLimiter) : List Call → List Reply × ConnectionLimiter
  | [] => ([], l)
  | c :: cs => ((l.step c).1 :: (run (l.step c).2 cs).1, (run (l.step c).2 cs).2)

/-! ## What each call does to the settings and to `_active` -/

@[simp] theorem maxConnections_step (l : ConnectionLimiter) (c : Call) :
    (l.step c).2.maxConnections = l.maxConnections := by
  cases c <;> simp only [step, startSession, endSession, markSuspicious] <;> split_ifs <;> rfl

@[simp] theorem logOnly_step (l : ConnectionLimiter) (c : Call) :
    (l.step c).2.logOnly = l.logOnly := by
  cases c <;> simp only [step, startSession, endSession, markSuspicious] <;> split_ifs <;> rfl

@[simp] theorem enabled_step (l : ConnectionLimiter) (c : Call) :
    (l.step c).2.enabled = l.enabled := by
  simp only [enabled, maxConnections_step]

/-- `start_session` counts a session exactly when the limiter is on and under its cap. -/
theorem active_startSession (l : ConnectionLimiter) (u : String) :
    (l.startSession u).2.active =
      if l.enabled ∧ l.activeConnections u < l.maxConnections then
        l.active.set u (l.activeConnections u + 1)
      else l.active := by
  unfold startSession activeConnections
  by_cases he : l.enabled
  · by_cases hc : l.active.get u 0 < l.maxConnections
    · simp [he, hc, not_le.mpr hc]
    · simp [he, hc, le_of_not_lt hc]
  · simp [he]

/-- What `start_session` answers. -/
theorem admitted_startSession (l : ConnectionLimiter) (u : String) :
    (l.startSession u).1 =
      (!l.enabled || decide (l.activeConnections u < l.maxConnections) || l.logOnly) := by
  unfold startSession activeConnections
  by_cases he : l.enabled
  · by_cases hc : l.active.get u 0 < l.maxConnections
    · simp [he, hc, not_le.mpr hc]
    · simp [he, hc, le_of_not_lt hc]
  · simp [he]

/-- `end_session` leaves the counts alone when the limiter is off. -/
theorem active_endSession (l : ConnectionLimiter) (u : String) :
    (l.endSession u).active =
      if !l.enabled then l.active
      else if l.activeConnections u ≤ 1 then l.active.pop u
      else l.active.set u (l.activeConnections u - 1) := by
  unfold endSession activeConnections
  dsimp only
  split_ifs <;> rfl

/-- `start_session` logs `connection_limit_exceeded` exactly when the limiter is on and the
identifier is at its cap. -/
theorem log_startSession (l : ConnectionLimiter) (u : String) :
    (l.startSession u).2.log =
      if l.enabled ∧ l.maxConnections ≤ l.activeConnections u then
        l.log ++ [⟨"connection_limit_exceeded", u, some (l.activeConnections u)⟩]
      else l.log := by
  unfold startSession activeConnections
  by_cases he : l.enabled
  · by_cases hc : l.maxConnections ≤ l.active.get u 0 <;> simp [he, hc]
  · simp [he]

/-- The count `start_session` leaves: one more for `u` when it was counted. -/
theorem activeConnections_startSession (l : ConnectionLimiter) (u v : String) :
    (l.startSession u).2.activeConnections v =
      if v = u ∧ l.enabled ∧ l.activeConnections u < l.maxConnections then
        l.activeConnections u + 1
      else l.activeConnections v := by
  have hget : (l.startSession u).2.activeConnections v =
      ((l.startSession u).2.active v).getD 0 := rfl
  rw [hget, active_startSession]
  by_cases hc : l.enabled ∧ l.activeConnections u < l.maxConnections
  · by_cases hvu : v = u
    · simp only [hc, hvu, and_self, if_true, PyDict.set_apply, Option.getD_some]
    · simp only [hc, hvu, and_self, if_true, if_false, false_and, PyDict.set_apply]; rfl
  · simp only [hc, if_false, and_false]; rfl

/-- The count `end_session` leaves: one less for `u`, never below zero. -/
theorem activeConnections_endSession (l : ConnectionLimiter) (u v : String) :
    (l.endSession u).activeConnections v =
      if v = u ∧ l.enabled then max 0 (l.activeConnections u - 1) else l.activeConnections v := by
  by_cases hvu : v = u
  · subst hvu
    simp only [activeConnections, PyDict.get, active_endSession, true_and]
    split_ifs <;> simp_all
    all_goals omega
  · simp only [activeConnections, PyDict.get, active_endSession, hvu, false_and, if_false]
    split_ifs <;> simp [hvu]

/-- A call about another identifier does not move this one's count. -/
theorem activeConnections_step_of_ne (l : ConnectionLimiter) {c : Call} {u : String}
    (h : c.uuid ≠ u) : (l.step c).2.activeConnections u = l.activeConnections u := by
  cases c with
  | startSession v =>
    have hu : u ≠ v := Ne.symm h
    simp only [step, activeConnections, PyDict.get, active_startSession]
    split_ifs <;> simp [hu]
  | endSession v =>
    have hu : u ≠ v := Ne.symm h
    simp only [step, activeConnections, PyDict.get, active_endSession]
    split_ifs <;> simp [hu]
  | markSuspicious v => rfl
  | activeConnections v => rfl

/-- A call that neither starts nor ends a session of `u` does not move its count. -/
theorem activeConnections_step_of_keeps (l : ConnectionLimiter) {c : Call} {u : String}
    (hs : c ≠ .startSession u) (he : c ≠ .endSession u) :
    (l.step c).2.activeConnections u = l.activeConnections u := by
  cases c with
  | startSession v => exact activeConnections_step_of_ne l fun h => hs (by subst h; rfl)
  | endSession v => exact activeConnections_step_of_ne l fun h => he (by subst h; rfl)
  | markSuspicious v | activeConnections v => rfl

@[simp] theorem maxConnections_run (l : ConnectionLimiter) (cs : List Call) :
    (l.run cs).2.maxConnections = l.maxConnections := by
  induction cs generalizing l with
  | nil => rfl
  | cons c cs ih => simp only [run, ih, maxConnections_step]

@[simp] theorem logOnly_run (l : ConnectionLimiter) (cs : List Call) :
    (l.run cs).2.logOnly = l.logOnly := by
  induction cs generalizing l with
  | nil => rfl
  | cons c cs ih => simp only [run, ih, logOnly_step]

/-! ## The representation invariant of `_active` -/

/-- Every count stored in `_active` lies in `1..max_connections`. -/
def CountsInRange (l : ConnectionLimiter) : Prop :=
  ∀ u c, l.active u = some c → 1 ≤ c ∧ c ≤ l.maxConnections

theorem countsInRange_new (m : Int) (logOnly : Bool) : (new m logOnly).CountsInRange := by
  intro u c h
  simp [new] at h

section CountsInRange

variable {l : ConnectionLimiter} (h : l.CountsInRange) (u : String)
include h

theorem activeConnections_nonneg : 0 ≤ l.activeConnections u := by
  unfold activeConnections PyDict.get
  cases hu : l.active u with
  | none => rfl
  | some c => have := (h u c hu).1; simp only [Option.getD_some]; omega

theorem activeConnections_le : l.activeConnections u ≤ l.maxConnections := by
  unfold activeConnections PyDict.get
  cases hu : l.active u with
  | none => exact l.maxConnections_nonneg
  | some c => exact (h u c hu).2

omit u in
/-- Every call keeps the stored counts in range. -/
theorem countsInRange_step (c : Call) : (l.step c).2.CountsInRange := by
  intro v n hv
  rw [maxConnections_step]
  cases c with
  | startSession u =>
    simp only [step, active_startSession] at hv
    split_ifs at hv with hc
    · simp only [PyDict.set_apply] at hv
      split_ifs at hv with hvu
      · cases hv
        have := activeConnections_nonneg h u
        omega
      · exact h v n hv
    · exact h v n hv
  | endSession u =>
    simp only [step, active_endSession] at hv
    split_ifs at hv with he hc
    · exact h v n hv
    · simp only [PyDict.pop_apply] at hv
      split_ifs at hv
      exact h v n hv
    · simp only [PyDict.set_apply] at hv
      split_ifs at hv with hvu
      · cases hv
        have := activeConnections_le h u
        omega
      · exact h v n hv
  | markSuspicious u => exact h v n hv
  | activeConnections u => exact h v n hv

end CountsInRange

theorem countsInRange_run {l : ConnectionLimiter} (h : l.CountsInRange) (cs : List Call) :
    (l.run cs).2.CountsInRange := by
  induction cs generalizing l with
  | nil => exact h
  | cons c cs ih => exact ih (countsInRange_step h c)

/-- From any `max_connections` and `log_only`, along every run, `_active` holds only counts
in `1..max(0, max_connections)`: none when the limiter is off, and the two read-only calls
leave it as it is. -/
theorem storedCounts_within_cap (m : Int) (logOnly : Bool) (calls : List Call) :
    let l := ((new m logOnly).run calls).2
    (∀ u c, l.active u = some c → 1 ≤ c ∧ c ≤ max 0 m) ∧
      (m ≤ 0 → ∀ u, l.active u = none) ∧
      (∀ u, (l.step (.markSuspicious u)).2.active = l.active ∧
        (l.step (.activeConnections u)).2 = l) := by
  have hinv := countsInRange_run (countsInRange_new m logOnly) calls
  have hmax : ((new m logOnly).run calls).2.maxConnections = max 0 m := by
    rw [maxConnections_run]; rfl
  refine ⟨fun u c hc => hmax ▸ hinv u c hc, fun hm u => ?_, fun u => ⟨rfl, rfl⟩⟩
  cases hu : ((new m logOnly).run calls).2.active u with
  | none => rfl
  | some c =>
    have := hinv u c hu
    rw [hmax, max_eq_left hm] at this
    omega

end ConnectionLimiter

end XrayBackend.AntiSharing
