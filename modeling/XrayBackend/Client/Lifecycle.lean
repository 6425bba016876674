import XrayBackend.Client.Session

/-!
# The channel's life (`XrayClient.start`, `close`, `_ensure_channel_ready`)

`start` assigns the new channel and its stubs before it waits for the channel to be ready,
and the wait raises without undoing the assignment.  A `start` that fails therefore leaves
the client holding the channel whose wait just failed, and every later `start`, until a
`close`, sees a channel and returns at once without waiting: `startup_event` swallows the
first failure, and the client is then "started" on a channel that was never ready.

What the code does rely on is that the methods that use the channel wait again: `add_user`
and `remove_user` re-run the readiness wait on a held channel, so every request they send
leaves right after a wait that succeeded, through the stub `start` installed for it.
-/

namespace XrayBackend.Client

open XrayBackend.Proto

/-! ## The client's attributes along a run -/

/-- Every call but `close` opens a channel when none is held and otherwise leaves the client's
attributes as they are. -/
theorem client_step_of_ne_close (w : World) {c : Call} (hc : c ≠ .close) :
    (step w c).2.client = w.client.started := by
  cases c with
  | start wait =>
    rw [step_start]
    by_cases h : w.client.channel.isNone
    · simp [h, afterWait_client]
    · simp [h, XrayClient.started]
  | close => exact absurd rfl hc
  | addUser uuid wait reply => rw [step_addUser, client_changeUserStep, afterWait_client]
  | removeUser uuid wait reply => rw [step_removeUser, client_changeUserStep, afterWait_client]
  | checkHealth first second =>
    rw [step_checkHealth]
    by_cases h : w.client.channel.isNone
    · cases first.raises <;> simp [h, afterWait_client, XrayClient.started]
    · simp [h, afterWait_client]

/-- A held channel stays held, with the client's attributes unchanged, through every call but
`close`. -/
theorem client_run_of_held {w : World} (hw : w.client.channel.isSome) {cs : List Call}
    (hcs : ∀ c ∈ cs, c ≠ .close) : (run w cs).2.client = w.client := by
  induction cs generalizing w with
  | nil => rfl
  | cons c cs ih =>
    have hkeep : (step w c).2.client = w.client := by
      rw [client_step_of_ne_close w (hcs c (List.mem_cons_self c cs))]
      simp [XrayClient.started, Option.isNone_iff_eq_none, Option.isSome_iff_ne_none.mp hw]
    rw [run, ih (hkeep ▸ hw) (fun c' hc' => hcs c' (List.mem_cons_of_mem c hc')), hkeep]

/-- Along calls without `close`, the client `start` would leave stays the same. -/
theorem started_run {w : World} {cs : List Call} (hcs : ∀ c ∈ cs, c ≠ .close) :
    (run w cs).2.client.started = w.client.started := by
  induction cs generalizing w with
  | nil => rfl
  | cons c cs ih =>
    rw [run, ih (fun c' hc' => hcs c' (List.mem_cons_of_mem c hc')),
      client_step_of_ne_close w (hcs c (List.mem_cons_self c cs)), XrayClient.started_started]

/-- On a held channel `start` does nothing, whatever the channel's waits so far. -/
theorem step_start_of_held {w : World} (hw : w.client.channel.isSome) (wait : ReadyOutcome) :
    step w (.start wait) = (.ok none, w) := by
  rw [step_start, if_neg (by simpa [Option.isNone_iff_eq_none, Option.isSome_iff_ne_none] using hw)]

/-! ## What `start` leaves behind -/

/-- A client fresh from the constructor (`startup_event`'s), before any call. -/
def startupClient : XrayClient :=
  { target := "127.0.0.1" ++ ":" ++ intStr 10085, inboundTag := "vless-in",
    accountTypeUrl := accountTypeUrl, handlerService := handlerService, flow := "",
    encryption := "none", channel := none, addUserStub := none, removeUserStub := none }

/-- The constructor builds `startupClient`; its first `start` times out and raises, yet leaves
the new channel in place, and a second `start` then returns normally with no wait at all: the
only wait the held channel ever had failed. -/
theorem start_after_failed_start_skips_wait :
    XrayClient.new "127.0.0.1" 10085 "vless-in" accountTypeUrl handlerService "" "none" =
        .ok startupClient ∧
      run (World.init startupClient fun _ => false) [.start .timeout, .start .ready] =
        ([.error ⟨"Timed out connecting to Xray gRPC"⟩, .ok none],
          ⟨startupClient.openChannel, fun _ => false, [.waited .timeout, .opened]⟩) :=
  ⟨rfl, rfl⟩

/-- A `start` that raises found no channel and leaves the one it opened, stubs installed,
after a wait that did not succeed; from then on, until a `close`, every `start` returns at
once and changes nothing.  A `start` that returns normally either found a channel held and
changed nothing, or opened one whose wait succeeded. -/
theorem start_failure_keeps_opened_channel (w : World) (wait : ReadyOutcome)
    (r : Except XrayClientError (Option Bool)) (w' : World) (h : step w (.start wait) = (r, w')) :
    (∀ e, r = .error e → w.client.channel = none ∧ wait ≠ .ready ∧
      w' = ({ w with client := w.client.openChannel }.log .opened).log (.waited wait) ∧
      ∀ mid wait', (∀ c ∈ mid, c ≠ .close) →
        step (run w' mid).2 (.start wait') = (.ok none, (run w' mid).2)) ∧
    (r = .ok none → (w.client.channel.isSome ∧ w' = w) ∨
      (w.client.channel = none ∧ wait = .ready ∧
        w' = ({ w with client := w.client.openChannel }.log .opened).log (.waited .ready))) := by
  rw [step_start] at h
  cases hch : w.client.channel with
  | some ch =>
    simp only [hch, Option.isNone_some, Bool.false_eq_true, if_false, Prod.mk.injEq] at h
    obtain ⟨rfl, rfl⟩ := h
    exact ⟨fun e he => (by cases he), fun _ => .inl ⟨by simp [hch], rfl⟩⟩
  | none =>
    simp only [hch, Option.isNone_none, if_true, Prod.mk.injEq, World.afterWait] at h
    obtain ⟨rfl, rfl⟩ := h
    have hheld : (({ w with client := w.client.openChannel }.log .opened).log
        (.waited wait)).client.channel.isSome := by simp
    cases wait with
    | ready => exact ⟨fun e he => (by cases he), fun _ => .inr ⟨rfl, rfl, rfl⟩⟩
    | timeout | rpcError _ =>
      refine ⟨fun e _ => ⟨rfl, by simp, rfl, fun mid wait' hmid => ?_⟩, fun he => by cases he⟩
      exact step_start_of_held ((client_run_of_held hheld hmid).symm ▸ hheld) wait'

theorem start_failure_keeps_opened_channel_timeout :
    let w := World.init startupClient fun _ => false
    let r : Except XrayClientError (Option Bool) := .error ⟨"Timed out connecting to Xray gRPC"⟩
    let w' := ({ w with client := startupClient.openChannel }.log .opened).log (.waited .timeout)
    step w (.start .timeout) = (r, w') ∧
    (∀ e, r = .error e → w.client.channel = none ∧ ReadyOutcome.timeout ≠ .ready ∧
      w' = ({ w with client := w.client.openChannel }.log .opened).log (.waited .timeout) ∧
      ∀ mid wait', (∀ c ∈ mid, c ≠ .close) →
        step (run w' mid).2 (.start wait') = (.ok none, (run w' mid).2)) ∧
    (r = .ok none → (w.client.channel.isSome ∧ w' = w) ∨
      (w.client.channel = none ∧ ReadyOutcome.timeout = .ready ∧
        w' = ({ w with client := w.client.openChannel }.log .opened).log (.waited .ready))) :=
  ⟨rfl, start_failure_keeps_opened_channel _ _ _ _ rfl⟩

/-! ## Every request follows a wait that succeeded -/

/-- The attributes a client built by the constructor can hold: as built, started, or closed
after a start. -/
def ReachedFrom (c d : XrayClient) : Prop :=
  d = c ∨ d = c.openChannel ∨ d = { c.openChannel with channel := none }

/-- Every request in the record (newest first) left right after a readiness wait that
succeeded, through the stub `start` installed for its method, with that method's bytes. -/
def SentAfterWait (c : XrayClient) : List Event → Prop
  | [] => True
  | .sent stub request :: rest =>
    (rest.head? = some (.waited .ready) ∧ ∃ uuid,
      (stub = c.openChannel.addUserStub ∧ request = c.addUserBytes uuid) ∨
      (stub = c.openChannel.removeUserStub ∧ request = c.removeUserBytes uuid)) ∧
    SentAfterWait c rest
  | _ :: rest => SentAfterWait c rest

section Wired

variable {c : XrayClient} (hc : c.channel = none) {w : World}

include hc in
/-- Whatever a reachable client holds, the channel its calls use is the one `start` opens. -/
theorem openChannel_of_reachedFrom (hr : ReachedFrom c w.client) :
    w.client.started = c.openChannel := by
  rcases hr with h | h | h
  · simp [XrayClient.started, h, hc]
  · simp [XrayClient.started, h]
  · rw [h]; rfl

include hc in
theorem reachedFrom_step (hr : ReachedFrom c w.client) (call : Call) :
    ReachedFrom c (step w call).2.client := by
  by_cases hclose : call = .close
  · subst hclose
    rw [step_close]
    rcases hr with h | h | h <;> simp [h, hc, ReachedFrom]
  · rw [client_step_of_ne_close w hclose, openChannel_of_reachedFrom hc hr]
    exact .inr (.inl rfl)

theorem sentAfterWait_afterWait (hs : SentAfterWait c w.events) (wait : ReadyOutcome) :
    SentAfterWait c (w.afterWait wait).events := by
  rw [afterWait_events]
  split_ifs <;> exact hs

include hc in
theorem sentAfterWait_step (hr : ReachedFrom c w.client) (hs : SentAfterWait c w.events)
    (call : Call) : SentAfterWait c (step w call).2.events := by
  have hready := openChannel_of_reachedFrom hc hr
  rw [← afterWait_client w .ready] at hready
  have hsent : ∀ stub request, (∃ uuid,
      (stub = c.openChannel.addUserStub ∧ request = c.addUserBytes uuid) ∨
      (stub = c.openChannel.removeUserStub ∧ request = c.removeUserBytes uuid)) →
      SentAfterWait c (.sent stub request :: (w.afterWait .ready).events) := fun _ _ h =>
    ⟨⟨head_afterWait_events w .ready, h⟩, sentAfterWait_afterWait hs .ready⟩
  cases call with
  | start wait =>
    rw [step_start]
    split_ifs
    · exact sentAfterWait_afterWait hs wait
    · exact hs
  | close => rw [step_close]; split_ifs <;> exact hs
  | addUser uuid wait reply =>
    rw [step_addUser, changeUserStep]
    cases wait <;> try exact sentAfterWait_afterWait hs _
    cases reply <;> exact hsent _ _ ⟨uuid, .inl ⟨by rw [hready], by rw [hready]; rfl⟩⟩
  | removeUser uuid wait reply =>
    rw [step_removeUser, changeUserStep]
    cases wait <;> try exact sentAfterWait_afterWait hs _
    cases reply <;> exact hsent _ _ ⟨uuid, .inr ⟨by rw [hready], by rw [hready]; rfl⟩⟩
  | checkHealth first second =>
    rw [step_checkHealth]
    split_ifs
    · cases first.raises
      · exact sentAfterWait_afterWait (sentAfterWait_afterWait hs first) second
      · exact sentAfterWait_afterWait hs first
    · exact sentAfterWait_afterWait hs first

include hc in
theorem sentAfterWait_run (hr : ReachedFrom c w.client) (hs : SentAfterWait c w.events)
    (calls : List Call) : SentAfterWait c (run w calls).2.events := by
  induction calls generalizing w with
  | nil => exact hs
  | cons call calls ih =>
    exact ih (reachedFrom_step hc hr call) (sentAfterWait_step hc hr hs call)

end Wired

/-! ## The calls reach the proxy's handler -/

/-- A client whose calls reach the proxy's handler service: it names the service the proxy
serves, and a channel it holds carries the stubs `start` installs. -/
structure XrayClient.ReachesHandler (c : XrayClient) : Prop where
  service : c.handlerService = Client.handlerService
  stubs : c.channel.isSome → c.addUserStub = c.openChannel.addUserStub ∧
    c.removeUserStub = c.openChannel.removeUserStub

namespace XrayClient.ReachesHandler

variable {c : XrayClient}

theorem of_fresh (hc : c.channel = none) (hs : c.handlerService = Client.handlerService) :
    c.ReachesHandler :=
  ⟨hs, fun h => by simp [hc] at h⟩

/-- The client the settings build holds no channel and names the handler service. -/
theorem of_ofSettings {settings : Settings} (h : XrayClient.ofSettings settings = .ok c) :
    c.ReachesHandler := by
  obtain ⟨-, rfl⟩ := XrayClient.new_eq_ok h
  exact of_fresh rfl rfl

/-- The client `start` leaves calls the handler's two methods by their paths. -/
theorem started_stubs (h : c.ReachesHandler) :
    c.started.addUserStub = some ("/" ++ Client.handlerService ++ "/AddUser") ∧
      c.started.removeUserStub = some ("/" ++ Client.handlerService ++ "/RemoveUser") := by
  unfold XrayClient.started
  split_ifs with hch
  · simp [XrayClient.openChannel, h.service]
  · obtain ⟨h1, h2⟩ := h.stubs (by simpa [Option.isNone_iff_eq_none,
      Option.isSome_iff_ne_none] using hch)
    simp [h1, h2, XrayClient.openChannel, h.service]

theorem started (h : c.ReachesHandler) : c.started.ReachesHandler := by
  unfold XrayClient.started
  split_ifs
  · exact ⟨h.service, fun _ => ⟨rfl, rfl⟩⟩
  · exact h

end XrayClient.ReachesHandler

theorem reachesHandler_step {w : World} (h : w.client.ReachesHandler) (call : Call) :
    (step w call).2.client.ReachesHandler := by
  by_cases hclose : call = .close
  · subst hclose
    rw [step_close]
    split_ifs
    · exact ⟨h.service, fun hs => by simp at hs⟩
    · exact h
  · rw [client_step_of_ne_close w hclose]
    exact h.started

theorem reachesHandler_run {w : World} (h : w.client.ReachesHandler) (calls : List Call) :
    (run w calls).2.client.ReachesHandler := by
  induction calls generalizing w with
  | nil => exact h
  | cons call calls ih => exact ih (reachesHandler_step h call)

theorem sentAfterWait_of_eq_append {c : XrayClient} {pre rest : List Event} {stub : Option String}
    {request : Option Bytes} (hs : SentAfterWait c (pre ++ .sent stub request :: rest)) :
    rest.head? = some (.waited .ready) ∧ ∃ uuid,
      (stub = c.openChannel.addUserStub ∧ request = c.addUserBytes uuid) ∨
      (stub = c.openChannel.removeUserStub ∧ request = c.removeUserBytes uuid) := by
  induction pre with
  | nil => exact hs.1
  | cons e pre ih => cases e <;> first | exact ih hs | exact ih hs.2

/-- On a client built by the constructor, through every run of calls and whatever the
transport does, every request handed to a stub left right after a readiness wait that
succeeded, through the stub `start` installed for `AddUser` or `RemoveUser`, carrying the bytes
of that method's request. -/
theorem requests_follow_successful_wait {host : String} {port : Int}
    {tag accountTypeUrl handlerService flow encryption : String} {c : XrayClient}
    (hc : XrayClient.new host port tag accountTypeUrl handlerService flow encryption = .ok c)
    (users : String → Bool) (calls : List Call) (pre rest : List Event) (stub : Option String)
    (request : Option Bytes)
    (he : (run (World.init c users) calls).2.events = pre ++ .sent stub request :: rest) :
    rest.head? = some (.waited .ready) ∧ ∃ uuid,
      (stub = some ("/" ++ handlerService ++ "/AddUser") ∧ request = c.addUserBytes uuid) ∨
      (stub = some ("/" ++ handlerService ++ "/RemoveUser") ∧
        request = c.removeUserBytes uuid) := by
  obtain ⟨-, hc⟩ := XrayClient.new_eq_ok hc
  have hs : SentAfterWait c (run (World.init c users) calls).2.events :=
    @sentAfterWait_run c (by rw [hc]) (World.init c users) (.inl rfl) trivial calls
  rw [he] at hs
  have hstubs : c.openChannel.addUserStub = some ("/" ++ handlerService ++ "/AddUser") ∧
      c.openChannel.removeUserStub = some ("/" ++ handlerService ++ "/RemoveUser") := by
    rw [hc]; exact ⟨rfl, rfl⟩
  rw [← hstubs.1, ← hstubs.2]
  exact sentAfterWait_of_eq_append hs

theorem requests_follow_successful_wait_addUser :
    [Event.waited .ready, .opened].head? = some (.waited .ready) ∧ ∃ uuid,
      (some ("/" ++ handlerService ++ "/AddUser") = some ("/" ++ handlerService ++ "/AddUser") ∧
        startupClient.addUserBytes "u" = startupClient.addUserBytes uuid) ∨
      (some ("/" ++ handlerService ++ "/AddUser") =
          some ("/" ++ handlerService ++ "/RemoveUser") ∧
        startupClient.addUserBytes "u" = startupClient.removeUserBytes uuid) :=
  @requests_follow_successful_wait "127.0.0.1" 10085 "vless-in" accountTypeUrl handlerService
    "" "none" startupClient rfl (fun _ => false) [.addUser "u" .ready .ack] [] _ _ _ rfl

end XrayBackend.Client
