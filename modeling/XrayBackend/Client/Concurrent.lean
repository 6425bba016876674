import XrayBackend.Client.Users

/-!
# Concurrent `add_user` and `remove_user` calls (`app/xray_client.py`)

The application serves requests concurrently, and `add_user` and `remove_user` take no lock.
Each suspends twice: in the readiness wait, and on the reply to the request it hands to its
stub.  Here each call is a task that the event loop runs from one suspension point to the next,
in any interleaving: it first runs to its wait (opening the channel if none is held), then
resumes when the wait ends (sending its request through the stub the client holds then), and
finishes when the proxy's reply arrives, the proxy applying an acknowledged request, as it reads
its bytes, at that moment.

The tasks share only the client's channel, opened once, and the proxy's table, which each
reply changes at once.  So the interleaving is invisible: the calls run one after another, in
the order the tasks finished, give every task its result, send exactly the finished tasks'
requests, byte for byte, and leave the table as the concurrent run does.  This is the
sequential model of `Client.run` justified, for these two methods, against the interleavings
the event loop can produce.
-/

namespace XrayBackend.Client

open XrayBackend.Proto

/-! ## Tasks -/

/-- The method a task runs. -/
inductive Method
  | addUser
  | removeUser
  deriving DecidableEq, Repr

namespace Method

/-- The method's stub. -/
def stub : Method → XrayClient → Option String
  | .addUser => XrayClient.addUserStub
  | .removeUser => XrayClient.removeUserStub

/-- The bytes of the method's request. -/
def request : Method → XrayClient → String → Option Bytes
  | .addUser => XrayClient.addUserBytes
  | .removeUser => XrayClient.removeUserBytes

/-- The failures the method answers `False` for. -/
def benign : Method → RpcError → Bool
  | .addUser => addUserBenign
  | .removeUser => removeUserBenign

/-- The method's result once its request is answered with `reply`. -/
def result (m : Method) : RpcOutcome → Except XrayClientError Bool
  | .ack => .ok true
  | .fail e => if m.benign e then .ok false else .error ⟨e.message⟩

/-- The same method as a call of the sequential model. -/
def call : Method → String → ReadyOutcome → RpcOutcome → Call
  | .addUser => .addUser
  | .removeUser => .removeUser

theorem step_call (w : World) (m : Method) (uuid : String) (wait : ReadyOutcome)
    (reply : RpcOutcome) :
    step w (m.call uuid wait reply) =
      changeUserStep w m.stub m.request m.benign uuid wait reply := by
  cases m
  · exact step_addUser w uuid wait reply
  · exact step_removeUser w uuid wait reply

theorem call_ne_close (m : Method) (uuid : String) (wait : ReadyOutcome) (reply : RpcOutcome) :
    m.call uuid wait reply ≠ .close := by
  cases m <;> simp [call]

end Method

/-- Where a task stands: not yet run, suspended in its readiness wait, suspended on the reply
to the request it handed to `stub`, or finished with its result and the request it sent. -/
inductive Phase
  | pending
  | waiting
  | inFlight (stub : Option String) (request : Option Bytes)
  | done (result : Except XrayClientError Bool) (sent : Option (Option String × Option Bytes))

namespace Phase

/-- Whether a task has finished. -/
def isDone : Phase → Bool
  | .done _ _ => true
  | _ => false

/-- A task's result as the sequential model reports a call's, `None` before it finishes. -/
def outcome : Phase → Except XrayClientError (Option Bool)
  | .done r _ => r.map some
  | _ => .ok none

/-- The request a task has handed to its stub, if it has sent one. -/
def request : Phase → Option (Option String × Option Bytes)
  | .inFlight stub request => some (stub, request)
  | .done _ sent => sent
  | _ => none

end Phase

/-- What the event loop does next: run task `i` to its readiness wait, end that wait, or
deliver the proxy's reply to its request. -/
inductive Action
  | begin (i : Nat)
  | resolve (i : Nat) (wait : ReadyOutcome)
  | answer (i : Nat) (reply : RpcOutcome)

/-- The client's world, where each task stands, and the tasks finished, newest first. -/
structure Conc where
  world : World
  phase : Nat → Phase
  finished : List Nat

/-- Tasks not yet run on a world. -/
def Conc.init (w : World) : Conc := ⟨w, fun _ => .pending, []⟩

/-- What a task does before its first suspension: `start` opens a channel and installs the
stubs when none is held. -/
def World.begun (w : World) : World :=
  if w.client.channel.isNone then { w with client := w.client.openChannel }.log .opened else w

@[simp] theorem begun_users (w : World) : w.begun.users = w.users := by
  unfold World.begun
  split_ifs <;> rfl

@[simp] theorem begun_client (w : World) : w.begun.client = w.client.started := by
  unfold World.begun XrayClient.started
  split_ifs <;> rfl

@[simp] theorem sentRequests_begun (w : World) :
    sentRequests w.begun.events = sentRequests w.events := by
  unfold World.begun
  split_ifs <;> simp [Event.sentRequest]

namespace Conc

/-- One action of the event loop on the tasks `calls`; `none` when task `i` does not exist or
is not at the point the action resumes. -/
def step (calls : List (Method × String)) (c : Conc) : Action → Option Conc
  | .begin i =>
    match calls[i]?, c.phase i with
    | some _, .pending =>
      some { c with world := c.world.begun, phase := Function.update c.phase i .waiting }
    | _, _ => none
  | .resolve i wait =>
    match calls[i]?, c.phase i with
    | some (m, uuid), .waiting =>
      let w := c.world.log (.waited wait)
      match wait.raises with
      | some e => some ⟨w, Function.update c.phase i (.done (.error e) none), i :: c.finished⟩
      | none =>
        some ⟨w.log (.sent (m.stub w.client) (m.request w.client uuid)),
          Function.update c.phase i (.inFlight (m.stub w.client) (m.request w.client uuid)),
          c.finished⟩
    | _, _ => none
  | .answer i reply =>
    match calls[i]?, c.phase i with
    | some (m, _), .inFlight stub request =>
      let world := match reply with
        | .ack => c.world.received stub request
        | .fail _ => c.world
      some ⟨world, Function.update c.phase i (.done (m.result reply) (some (stub, request))),
        i :: c.finished⟩
    | _, _ => none

/-- A schedule of actions, each resuming a task where it stands. -/
def run (calls : List (Method × String)) (c : Conc) : List Action → Option Conc
  | [] => some c
  | a :: as => (c.step calls a).bind fun c' => c'.run calls as

end Conc

/-! ## One action -/

namespace Conc

variable {calls : List (Method × String)} {c c' : Conc}

/-- Everything one action can do: a task runs to its wait; or it ends its wait and either
finishes with the wait's error or sends its method's request on the client it finds; or it
receives its reply and finishes, an acknowledged request applied as the proxy reads it. -/
theorem step_cases {a : Action} (h : c.step calls a = some c') :
    (∃ i, c.phase i = .pending ∧
      c' = { c with world := c.world.begun, phase := Function.update c.phase i .waiting }) ∨
    (∃ i m uuid wait e, calls[i]? = some (m, uuid) ∧ c.phase i = .waiting ∧
      wait.raises = some e ∧
      c' = ⟨c.world.log (.waited wait), Function.update c.phase i (.done (.error e) none),
        i :: c.finished⟩) ∨
    (∃ i m uuid, calls[i]? = some (m, uuid) ∧ c.phase i = .waiting ∧
      c' = ⟨(c.world.log (.waited .ready)).log
          (.sent (m.stub c.world.client) (m.request c.world.client uuid)),
        Function.update c.phase i (.inFlight (m.stub c.world.client)
          (m.request c.world.client uuid)), c.finished⟩) ∨
    (∃ i m uuid stub request reply, calls[i]? = some (m, uuid) ∧
      c.phase i = .inFlight stub request ∧
      c'.world = (match reply with
        | .ack => c.world.received stub request
        | .fail _ => c.world) ∧
      c'.phase = Function.update c.phase i (.done (m.result reply) (some (stub, request))) ∧
      c'.finished = i :: c.finished) := by
  cases a with
  | begin i =>
    simp only [step] at h
    split at h
    · cases h; exact .inl ⟨i, ‹_›, rfl⟩
    · cases h
  | resolve i wait =>
    simp only [step] at h
    split at h
    · rename_i m uuid hcall hph
      split at h
      · rename_i e he
        cases h; exact .inr (.inl ⟨i, m, uuid, wait, e, hcall, hph, he, rfl⟩)
      · rename_i he
        cases raises_eq_none.mp he
        cases h; exact .inr (.inr (.inl ⟨i, m, uuid, hcall, hph, rfl⟩))
    · cases h
  | answer i reply =>
    simp only [step] at h
    split at h
    · rename_i m uuid stub request hcall hph
      cases h
      exact .inr (.inr (.inr ⟨i, m, uuid, stub, request, reply, hcall, hph, rfl, rfl, rfl⟩))
    · cases h

end Conc

/-! ## The sequential order that explains a concurrent run -/

theorem run_append (w : World) (l₁ l₂ : List Call) :
    run w (l₁ ++ l₂) =
      ((run w l₁).1 ++ (run (run w l₁).2 l₂).1, (run (run w l₁).2 l₂).2) := by
  induction l₁ generalizing w with
  | nil => rfl
  | cons c cs ih =>
    show run w (c :: (cs ++ l₂)) = _
    simp only [run, ih, List.cons_append]

/-- The run with one more call, whatever state it runs in. -/
theorem run_snoc (w : World) (l : List Call) (call : Call) :
    run w (l ++ [call]) =
      ((run w l).1 ++ [(step (run w l).2 call).1], (step (run w l).2 call).2) := by
  rw [run_append]
  rfl

/-- Inserting one request among distinct tasks that had not sent one. -/
theorem filterMap_update_perm {α : Type} {l : List Nat} (hl : l.Nodup) {f : Nat → Option α}
    {i : Nat} (hi : i ∈ l) (hf : f i = none) (x : α) :
    (l.filterMap (Function.update f i (some x))).Perm (x :: l.filterMap f) := by
  induction l with
  | nil => cases hi
  | cons j l ih =>
    obtain ⟨hj, hl⟩ := List.nodup_cons.mp hl
    by_cases hji : j = i
    · subst hji
      have hrest : l.filterMap (Function.update f j (some x)) = l.filterMap f :=
        List.filterMap_congr fun k hk => Function.update_noteq (ne_of_mem_of_not_mem hk hj) _ _
      simp [hf, hrest]
    · have ih := ih hl ((List.mem_cons.mp hi).resolve_left (Ne.symm hji))
      rw [List.filterMap_cons, List.filterMap_cons, Function.update_noteq hji]
      cases f j with
      | none => exact ih
      | some y => exact (ih.cons y).trans (List.Perm.swap x y _)

/-- Changing one task's phase for one with the same request keeps every task's request. -/
theorem request_update_of_eq {phase : Nat → Phase} {i : Nat} {p : Phase}
    (h : p.request = (phase i).request) :
    (fun j => (Function.update phase i p j).request) = fun j => (phase j).request := by
  funext j
  by_cases hj : j = i
  · subst hj; rw [Function.update_same, h]
  · rw [Function.update_noteq hj]

/-- The finished tasks in finish order, each with a sequential call of its method on its user,
explain a concurrent state when the calls, run one after another, give each task its result,
send exactly their requests and leave the table as it is; and every request on the concurrent
wire is one task's, its method's stub and bytes on the client `start` leaves. -/
structure Explains (calls : List (Method × String)) (w : World) (c : Conc)
    (lin : List (Nat × Call)) : Prop where
  order : lin.map Prod.fst = c.finished.reverse
  calls_eq : ∀ p ∈ lin, ∃ m uuid wait reply, calls[p.1]? = some (m, uuid) ∧
    p.2 = m.call uuid wait reply
  results : (run w (lin.map Prod.snd)).1 = lin.map fun p => (c.phase p.1).outcome
  users : (run w (lin.map Prod.snd)).2.users = c.world.users
  sent : sentRequests (run w (lin.map Prod.snd)).2.events =
    (lin.filterMap fun p => (c.phase p.1).request).reverse ++ sentRequests w.events
  requests : ∀ i stub request, (c.phase i).request = some (stub, request) →
    ∃ m uuid, calls[i]? = some (m, uuid) ∧ stub = m.stub w.client.started ∧
      request = m.request w.client.started uuid
  wire : (sentRequests c.world.events).Perm
    ((List.range calls.length).filterMap (fun i => (c.phase i).request) ++ sentRequests w.events)

/-- What every reachable state satisfies: each task finishes once, the finished ones are those
marked done, the client is as built or as `start` leaves it (as `start` leaves it once a task
has run), and a sequential order explains the state. -/
structure Linearizable (calls : List (Method × String)) (w : World) (c : Conc) : Prop where
  nodup : c.finished.Nodup
  finished_iff : ∀ i, i ∈ c.finished ↔ (c.phase i).isDone = true
  client : c.world.client = w.client ∨ c.world.client = w.client.started
  begun : ∀ i, c.phase i ≠ .pending → c.world.client = w.client.started
  explained : ∃ lin, Explains calls w c lin

namespace Conc

variable {calls : List (Method × String)} {w : World} {c c' : Conc}

theorem linearizable_init (calls : List (Method × String)) (w : World) :
    Linearizable calls w (Conc.init w) where
  nodup := List.nodup_nil
  finished_iff _ := iff_of_false (List.not_mem_nil _) Bool.false_ne_true
  client := .inl rfl
  begun _ h := absurd rfl h
  explained := ⟨[], rfl, fun _ h => absurd h (List.not_mem_nil _), rfl, rfl, rfl,
    fun _ _ _ h => (by cases h), by
      have hnil : (List.range calls.length).filterMap (fun i => ((Conc.init w).phase i).request) =
          [] := List.filterMap_eq_nil_iff.mpr fun _ _ => rfl
      rw [hnil]
      exact .refl _⟩

/-- The tasks of an explaining order have finished, so an unfinished task's phase can change
without changing theirs. -/
theorem update_phase_lin {lin : List (Nat × Call)} (h : Explains calls w c lin)
    (hf : ∀ i, i ∈ c.finished ↔ (c.phase i).isDone = true) {i : Nat}
    (hi : (c.phase i).isDone = false) (p : Phase) :
    ∀ q ∈ lin, Function.update c.phase i p q.1 = c.phase q.1 := by
  intro q hq
  have hq : q.1 ∈ c.finished := by
    rw [← List.mem_reverse, ← h.order]
    exact List.mem_map_of_mem _ hq
  have hne : q.1 ≠ i := fun he => by rw [he, hf] at hq; simp [hi] at hq
  rw [Function.update_noteq hne]

/-- Changing the phase of an unfinished task changes neither the outcomes nor the requests of
the tasks of an explaining order. -/
theorem lin_update_phase {lin : List (Nat × Call)} (h : Explains calls w c lin)
    (hf : ∀ i, i ∈ c.finished ↔ (c.phase i).isDone = true) {i : Nat}
    (hi : (c.phase i).isDone = false) (p : Phase) :
    lin.map (fun q => (Function.update c.phase i p q.1).outcome) =
        lin.map (fun q => (c.phase q.1).outcome) ∧
      lin.filterMap (fun q => (Function.update c.phase i p q.1).request) =
        lin.filterMap (fun q => (c.phase q.1).request) := by
  have hlin := update_phase_lin h hf hi p
  exact ⟨List.map_congr_left fun q hq => by rw [hlin q hq],
    List.filterMap_congr fun q hq => by rw [hlin q hq]⟩

/-- Moving an unfinished task to another unfinished phase keeps the finished tasks those done. -/
theorem finished_iff_update (hf : ∀ j, j ∈ c.finished ↔ (c.phase j).isDone = true) {i : Nat}
    (hi : (c.phase i).isDone = false) {p : Phase} (hphase : c'.phase = Function.update c.phase i p)
    (hp : p.isDone = false) (hfin : c'.finished = c.finished) (j : Nat) :
    j ∈ c'.finished ↔ (c'.phase j).isDone = true := by
  rw [hfin, hphase]
  by_cases hj : j = i
  · subst hj; rw [Function.update_same, hf, hi, hp]
  · rw [Function.update_noteq hj, hf]

/-- Giving task `i` a phase whose request, if it has one, is its method's on the client `start`
leaves keeps every task's request its method's. -/
theorem requests_update {lin : List (Nat × Call)} (h : Explains calls w c lin) {i : Nat}
    {p : Phase} (hphase : c'.phase = Function.update c.phase i p)
    (hp : ∀ s r, p.request = some (s, r) → ∃ m uuid, calls[i]? = some (m, uuid) ∧
      s = m.stub w.client.started ∧ r = m.request w.client.started uuid)
    (j : Nat) (s : Option String) (r : Option Bytes) (hj : (c'.phase j).request = some (s, r)) :
    ∃ m uuid, calls[j]? = some (m, uuid) ∧ s = m.stub w.client.started ∧
      r = m.request w.client.started uuid := by
  rw [hphase] at hj
  by_cases hji : j = i
  · subst hji; rw [Function.update_same] at hj; exact hp s r hj
  · rw [Function.update_noteq hji] at hj; exact h.requests j s r hj

/-- The sequential run of an explaining order leaves the client `start` would leave. -/
theorem started_lin {lin : List (Nat × Call)} (h : Explains calls w c lin) :
    (Client.run w (lin.map Prod.snd)).2.client.started = w.client.started :=
  started_run fun call hc => by
    obtain ⟨p, hp, rfl⟩ := List.mem_map.mp hc
    obtain ⟨m, uuid, wait, reply, -, hcall⟩ := h.calls_eq p hp
    rw [hcall]
    exact Method.call_ne_close m uuid wait reply

/-- A task runs to its readiness wait: the channel is opened if none was held. -/
theorem linearizable_begin (hl : Linearizable calls w c) {i : Nat} (hph : c.phase i = .pending)
    (hworld : c'.world = c.world.begun) (hphase : c'.phase = Function.update c.phase i .waiting)
    (hfin : c'.finished = c.finished) : Linearizable calls w c' := by
  obtain ⟨hnd, hf, hcl, -, lin, hex⟩ := hl
  have hi : (c.phase i).isDone = false := by rw [hph]; rfl
  have hlin := lin_update_phase hex hf hi .waiting
  have hstarted : c'.world.client = w.client.started := by
    rcases hcl with h | h <;> simp [hworld, h]
  refine ⟨hfin ▸ hnd, finished_iff_update hf hi hphase rfl hfin, .inr hstarted,
    fun _ _ => hstarted, lin, hfin ▸ hex.order, hex.calls_eq, ?_,
    by rw [hworld, begun_users]; exact hex.users, ?_,
    requests_update hex hphase (fun _ _ h => nomatch h), ?_⟩
  · rw [hphase, hlin.1]
    exact hex.results
  · rw [hex.sent, hphase, hlin.2]
  · rw [hworld, sentRequests_begun, hphase, request_update_of_eq (by rw [hph]; rfl)]
    exact hex.wire

/-- A task's wait succeeds: its request goes out on the client it finds, the table unchanged. -/
theorem linearizable_send (hl : Linearizable calls w c) {i : Nat} {m : Method} {uuid : String}
    (hcall : calls[i]? = some (m, uuid)) (hph : c.phase i = .waiting)
    (hworld : c'.world = (c.world.log (.waited .ready)).log
      (.sent (m.stub c.world.client) (m.request c.world.client uuid)))
    (hphase : c'.phase = Function.update c.phase i
      (.inFlight (m.stub c.world.client) (m.request c.world.client uuid)))
    (hfin : c'.finished = c.finished) : Linearizable calls w c' := by
  obtain ⟨hnd, hf, hcl, hbeg, lin, hex⟩ := hl
  have hi : (c.phase i).isDone = false := by rw [hph]; rfl
  have hlin := lin_update_phase hex hf hi
    (.inFlight (m.stub c.world.client) (m.request c.world.client uuid))
  have hstarted : c.world.client = w.client.started := hbeg i (by rw [hph]; exact nofun)
  have hclient : c'.world.client = c.world.client := by rw [hworld]; rfl
  have hlt : i < calls.length := (List.getElem?_eq_some_iff.mp hcall).1
  refine ⟨hfin ▸ hnd, finished_iff_update hf hi hphase rfl hfin, hclient ▸ hcl,
    fun _ _ => hclient ▸ hstarted, lin, hfin ▸ hex.order, hex.calls_eq, ?_,
    by rw [hworld]; exact hex.users, ?_, requests_update hex hphase fun s r h => ?_, ?_⟩
  · rw [hphase, hlin.1]
    exact hex.results
  · rw [hex.sent, hphase, hlin.2]
  · simp only [Phase.request, Option.some.injEq, Prod.mk.injEq] at h
    exact ⟨m, uuid, hcall, by rw [← h.1, hstarted], by rw [← h.2, hstarted]⟩
  · have hperm := @filterMap_update_perm _ _ (List.nodup_range calls.length)
      (fun j => (c.phase j).request) i (List.mem_range.mpr hlt)
      (show (c.phase i).request = none by rw [hph]; rfl)
      (m.stub c.world.client, m.request c.world.client uuid)
    have hfun : (fun j => (c'.phase j).request) = Function.update (fun j => (c.phase j).request)
        i (some (m.stub c.world.client, m.request c.world.client uuid)) := by
      funext j
      rw [hphase]
      by_cases hj : j = i
      · subst hj; simp [Phase.request]
      · simp [Function.update_noteq hj]
    rw [hfun, hworld]
    simp only [log_events, sentRequests_cons, Event.sentRequest, Option.toList_some,
      Option.toList_none, List.nil_append, List.singleton_append]
    exact (hex.wire.cons _).trans (hperm.append_right _).symm

/-- A step that finishes an unfinished task with the result and the request its call has in the
sequential model, run from any state with the same table and the same client after `start`, and
that moves neither the client nor the concurrent wire, keeps a state linearizable: the task joins
the end of the order. -/
theorem linearizable_of_finish (hl : Linearizable calls w c) {i : Nat}
    (hi : (c.phase i).isDone = false) (hbegun : c.phase i ≠ .pending) {call : Call}
    (hcall : ∃ m uuid wait reply, calls[i]? = some (m, uuid) ∧ call = m.call uuid wait reply)
    {r : Except XrayClientError Bool} {sent : Option (Option String × Option Bytes)}
    (hreq : sent = (c.phase i).request)
    (hres : ∀ w', (Client.step w' call).1 = r.map some)
    (husers : ∀ w', w'.users = c.world.users → w'.client.started = w.client.started →
      (Client.step w' call).2.users = c'.world.users)
    (hsent : ∀ w', w'.client.started = w.client.started →
      sentRequests (Client.step w' call).2.events = sent.toList ++ sentRequests w'.events)
    (hclient : c'.world.client = c.world.client)
    (hwire : sentRequests c'.world.events = sentRequests c.world.events)
    (hphase : c'.phase = Function.update c.phase i (.done r sent))
    (hfin : c'.finished = i :: c.finished) : Linearizable calls w c' := by
  obtain ⟨hnd, hf, hcl, hbeg, lin, hex⟩ := hl
  have hnot : i ∉ c.finished := by rw [hf, hi]; exact Bool.false_ne_true
  have hlin := lin_update_phase hex hf hi (.done r sent)
  have hstarted := started_lin hex
  refine ⟨hfin ▸ List.nodup_cons.mpr ⟨hnot, hnd⟩, fun j => ?_, hclient ▸ hcl,
    fun _ _ => hclient ▸ hbeg i hbegun, lin ++ [(i, call)], ?_, ?_, ?_, ?_, ?_,
    requests_update hex hphase fun s r' h => hex.requests i s r' (hreq ▸ h), ?_⟩
  · rw [hfin, hphase]
    by_cases hj : j = i
    · subst hj; simp [Phase.isDone]
    · simp [Function.update_noteq hj, hf, hj]
  · simp [hex.order, hfin]
  · intro p hp
    rcases List.mem_append.mp hp with hp | hp
    · exact hex.calls_eq p hp
    · rw [List.mem_singleton.mp hp]; exact hcall
  · rw [hphase, List.map_append, List.map_cons, List.map_nil, List.map_append, run_snoc,
      hex.results, hlin.1, hres]
    simp [Phase.outcome]
  · rw [List.map_append, List.map_cons, List.map_nil, run_snoc]
    exact husers _ hex.users hstarted
  · rw [List.map_append, List.map_cons, List.map_nil, run_snoc, hsent _ hstarted, hex.sent,
      hphase, List.filterMap_append, hlin.2]
    cases sent <;> simp [Phase.request]
  · rw [hwire, hphase, request_update_of_eq (by rw [Phase.request, hreq])]
    exact hex.wire

/-- One action keeps a state linearizable. -/
theorem linearizable_step (hl : Linearizable calls w c) {a : Action}
    (h : c.step calls a = some c') : Linearizable calls w c' := by
  rcases step_cases h with ⟨i, hph, rfl⟩ | ⟨i, m, uuid, wait, e, hcall, hph, he, rfl⟩ |
    ⟨i, m, uuid, hcall, hph, rfl⟩ |
    ⟨i, m, uuid, stub, request, reply, hcall, hph, hworld, hphase, hfin⟩
  · -- a task runs to its wait
    exact linearizable_begin hl hph rfl rfl rfl
  · -- a wait fails: the task finishes with the wait's error, having sent nothing
    have hnr : ¬(wait = .ready ∧ RpcOutcome.ack = .ack) := fun h' => by
      rw [h'.1] at he; cases he
    refine linearizable_of_finish hl (by rw [hph]; rfl) (by rw [hph]; exact nofun)
      ⟨m, uuid, wait, .ack, hcall, rfl⟩ (by rw [hph]; rfl) (fun w' => ?_) (fun w' hw _ => ?_)
      (fun w' _ => ?_) rfl (by simp [Event.sentRequest]) rfl rfl
    · rw [Method.step_call, fst_changeUserStep, he]; rfl
    · rw [Method.step_call, users_changeUserStep_of_not_ack _ _ _ _ _ hnr, hw]; rfl
    · rw [Method.step_call, sentRequests_changeUserStep, if_neg fun h' => hnr ⟨h', rfl⟩]; rfl
  · -- a wait succeeds: the request goes out, the table unchanged
    exact linearizable_send hl hcall hph rfl rfl rfl
  · -- a reply arrives: the task finishes as the sequential call does
    obtain ⟨lin, hex⟩ := hl.explained
    obtain ⟨m', uuid', hcall', hs, hr⟩ := hex.requests i stub request (by rw [hph]; rfl)
    rw [hcall] at hcall'
    cases hcall'
    have htag : c.world.client.inboundTag = w.client.inboundTag := by
      rcases hl.client with h' | h' <;> simp [h']
    refine linearizable_of_finish hl (by rw [hph]; rfl) (by rw [hph]; exact nofun)
      ⟨m, uuid, .ready, reply, hcall, rfl⟩ (by rw [hph]; rfl) (fun w' => ?_)
      (fun w' hw hst => ?_) (fun w' hst => ?_) (by rw [hworld]; cases reply <;> rfl)
      (by rw [hworld]; cases reply <;> rfl) hphase hfin
    · rw [Method.step_call, fst_changeUserStep]
      cases reply with
      | ack => rfl
      | fail e =>
        by_cases hb : m.benign e <;> simp [ReadyOutcome.raises, Method.result, Except.map, hb]
    · rw [Method.step_call, hworld]
      cases reply with
      | ack =>
        have htag' : w'.client.inboundTag = w.client.inboundTag := by
          rw [← XrayClient.started_inboundTag, hst, XrayClient.started_inboundTag]
        rw [users_changeUserStep_ack, hst, hw, htag', ← hs, ← hr]
        simp [World.received, htag]
      | fail e =>
        rw [users_changeUserStep_of_not_ack _ _ _ _ _ (by simp), hw]
    · rw [Method.step_call, sentRequests_changeUserStep, if_pos rfl, hst, ← hs, ← hr]
      rfl

/-- Every schedule keeps a state linearizable. -/
theorem linearizable_run (hl : Linearizable calls w c) {acts : List Action}
    (h : c.run calls acts = some c') : Linearizable calls w c' := by
  induction acts generalizing c with
  | nil => cases h; exact hl
  | cons a as ih =>
    obtain ⟨c₁, h₁, h₂⟩ := Option.bind_eq_some.mp h
    exact ih (linearizable_step hl h₁) h₂

/-- Whatever the interleaving, the concurrent `add_user` and `remove_user` calls behave as the
same calls made one after another in the order they finished: each task finishes at most once,
and a sequence of calls of the sequential model, one per finished task, explains the state. -/
theorem run_linearizable (calls : List (Method × String)) (w : World) (acts : List Action)
    {c : Conc} (h : (Conc.init w).run calls acts = some c) :
    c.finished.Nodup ∧ (∀ i, i ∈ c.finished ↔ (c.phase i).isDone = true) ∧
      ∃ lin, Explains calls w c lin :=
  let hl := linearizable_run (linearizable_init calls w) h
  ⟨hl.nodup, hl.finished_iff, hl.explained⟩

theorem run_linearizable_two_tasks :
    let calls := [(Method.addUser, "u"), (Method.removeUser, "u")]
    let w := World.init startupClient fun _ => false
    let acts := [Action.begin 0, .begin 1, .resolve 1 .ready,
      .answer 1 (.fail ⟨.notFound, some "User u not found.", ""⟩), .resolve 0 .ready,
      .answer 0 .ack]
    let c := ((Conc.init w).run calls acts).getD (Conc.init w)
    (Conc.init w).run calls acts = some c ∧
      c.finished.Nodup ∧ (∀ i, i ∈ c.finished ↔ (c.phase i).isDone = true) ∧
      ∃ lin, Explains calls w c lin := by
  intro calls w acts c
  exact ⟨rfl, run_linearizable calls w acts rfl⟩

end Conc

end XrayBackend.Client
