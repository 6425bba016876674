import XrayBackend.Client.Requests
import XrayBackend.Python.Builtins

/-!
# The client's channel and its calls (`app/xray_client.py`)

`XrayClient` holds at most one gRPC channel.  `start` opens one when none is held, installs
the `AddUser` and `RemoveUser` stubs on it and waits, with a two-second limit, for it to be
ready; `close` drops it; `add_user` and `remove_user` start the client or re-run the
readiness wait, then send their request; `check_health` turns every `XrayClientError` into
`False`.  None of them takes a lock: we model the calls of one client made one after another,
and `Client.Concurrent` shows that interleaving `add_user` and `remove_user` at their
suspension points changes neither their results nor the proxy's table.

The methods are written in `EStateM`, which keeps the state reached when a call raises, as
Python keeps the attributes it has already assigned.  The world is the client's attributes,
the inbound's user table on the proxy, and a record of what happened on the wire, newest
first.  What the transport does (how each readiness wait ends, how each call is answered) is
an argument of the call, so that a theorem over every list of calls covers every behaviour of
the transport.
-/

namespace XrayBackend.Client

open XrayBackend.Proto

/-! ## What the transport can do -/

/-- `grpc.StatusCode`. -/
inductive StatusCode
  | ok | cancelled | unknown | invalidArgument | deadlineExceeded | notFound | alreadyExists
  | permissionDenied | resourceExhausted | failedPrecondition | aborted | outOfRange
  | unimplemented | internal | unavailable | dataLoss | unauthenticated
  deriving DecidableEq, Repr

/-- A `grpc.RpcError` as the client reads it: `code()`, `details()` and `str(exc)`. -/
structure RpcError where
  code : StatusCode
  details : Option String
  text : String
  deriving DecidableEq, Repr

/-- `exc.details() or str(exc)`, the text the client raises with. -/
def RpcError.message (e : RpcError) : String :=
  match e.details with
  | some d => if d = "" then e.text else d
  | none => e.text

/-- `exc.details() or ""`, the text the client searches. -/
def RpcError.detailText (e : RpcError) : String := e.details.getD ""

/-- How `asyncio.wait_for(channel.channel_ready(), timeout=2)` ends. -/
inductive ReadyOutcome
  | ready
  | timeout
  | rpcError (e : RpcError)
  deriving DecidableEq, Repr

/-- How a unary call ends: answered, or with an `AioRpcError`. -/
inductive RpcOutcome
  | ack
  | fail (e : RpcError)
  deriving DecidableEq, Repr

/-- A reply the proxy may give for a user who is (`present`) or is not in the inbound: it
answers `ALREADY_EXISTS` only for a present user and `NOT_FOUND` only for an absent one. -/
def RpcOutcome.Allowed (present : Bool) : RpcOutcome → Prop
  | .ack => True
  | .fail e => (e.code = .alreadyExists → present = true) ∧ (e.code = .notFound → present = false)

instance (present : Bool) : DecidablePred (RpcOutcome.Allowed present)
  | .ack => isTrue trivial
  | .fail e => inferInstanceAs (Decidable
      ((e.code = .alreadyExists → present = true) ∧ (e.code = .notFound → present = false)))

/-- What happens on the wire, in order: a channel opened, a readiness wait and how it ended,
a channel closed, a request handed to a stub. -/
inductive Event
  | opened
  | waited (outcome : ReadyOutcome)
  | closed
  | sent (stub : Option String) (request : Option Bytes)
  deriving DecidableEq, Repr

/-- The client's attributes, the inbound's user table, and the events so far, newest first. -/
structure World where
  client : XrayClient
  users : String → Bool
  events : List Event

/-- A client fresh from its constructor, before any call. -/
def World.init (c : XrayClient) (users : String → Bool) : World := ⟨c, users, []⟩

/-- The world with one more event. -/
def World.log (w : World) (e : Event) : World := { w with events := e :: w.events }

/-- The client's methods: they read and assign its attributes and may raise
`XrayClientError`, keeping what they assigned before the raise. -/
abbrev ClientM := EStateM XrayClientError World

/-! ## The methods -/

/-- The client once `start` has opened a channel on its target and installed the two stubs. -/
def XrayClient.openChannel (c : XrayClient) : XrayClient :=
  { c with
    channel := some ⟨c.target⟩
    addUserStub := some ("/" ++ c.handlerService ++ "/AddUser")
    removeUserStub := some ("/" ++ c.handlerService ++ "/RemoveUser") }

/-- The client as `start` leaves it: a channel opened and the stubs installed when none is
held. -/
def XrayClient.started (c : XrayClient) : XrayClient :=
  if c.channel.isNone then c.openChannel else c

@[simp] theorem XrayClient.started_started (c : XrayClient) : c.started.started = c.started := by
  unfold XrayClient.started; split_ifs <;> simp_all [XrayClient.openChannel]

@[simp] theorem XrayClient.started_inboundTag (c : XrayClient) :
    c.started.inboundTag = c.inboundTag := by
  unfold XrayClient.started; split_ifs <;> rfl

/-- The two `except` clauses of `_ensure_channel_ready`, on how the wait ended. -/
def ReadyOutcome.check : ReadyOutcome → ClientM Unit
  | .ready => pure ()
  | .timeout => throw ⟨"Timed out connecting to Xray gRPC"⟩
  | .rpcError e => throw ⟨e.message⟩

/-- `_ensure_channel_ready`, the wait ending as `wait`. -/
def ensureChannelReady (wait : ReadyOutcome) : ClientM Unit := do
  let w ← get
  if w.client.channel.isNone then throw ⟨"Xray gRPC channel not initialized"⟩
  set (w.log (.waited wait))
  wait.check

/-- `start`: nothing when a channel is held; otherwise open one, install the stubs and wait. -/
def start (wait : ReadyOutcome) : ClientM Unit := do
  let w ← get
  if w.client.channel.isNone then
    set ({ w with client := w.client.openChannel }.log .opened)
    ensureChannelReady wait

/-- `close`: a held channel is closed and dropped. -/
def close : ClientM Unit := do
  let w ← get
  if w.client.channel.isSome then
    set ({ w with client := { w.client with channel := none } }.log .closed)

/-! ## The proxy's side -/

/-- What the proxy does to its inbounds' tables on a request it acknowledges, as it reads the
stub's method path and the request bytes (§6): the inbound's tag, the user's email, and whether
the user is then in the inbound; `none` for a request it does not read as either method. -/
def proxyChange (stub : Option String) (request : Option Bytes) :
    Option (String × String × Bool) := do
  let path ← stub
  let bytes ← request
  if path = "/" ++ handlerService ++ "/AddUser" then
    let r ← parseAddUserRequest bytes
    let u ← r.user
    pure (r.tag, u.email, true)
  else if path = "/" ++ handlerService ++ "/RemoveUser" then
    let r ← parseRemoveUserRequest bytes
    pure (r.tag, r.email, false)
  else none

/-- The table of the inbound `tag` once the proxy has applied `change`. -/
def applyChange (tag : String) (users : String → Bool) :
    Option (String × String × Bool) → (String → Bool)
  | some (t, email, present) => if t = tag then Function.update users email present else users
  | none => users

/-- The world once the proxy has acknowledged `request` on `stub`: the client's inbound's table
changed as the proxy reads the request. -/
def World.received (w : World) (stub : Option String) (request : Option Bytes) : World :=
  { w with users := applyChange w.client.inboundTag w.users (proxyChange stub request) }

/-- A call handed to the proxy through `stub` with the bytes `request`: an answered call is
applied as the proxy reads it, a failed one changes nothing. -/
def callStub (stub : Option String) (request : Option Bytes) :
    RpcOutcome → ClientM (Option RpcError)
  | .ack => do
    modify fun w => (w.log (.sent stub request)).received stub request
    pure none
  | .fail e => do
    modify (·.log (.sent stub request))
    pure (some e)

/-- The shared body of `add_user` and `remove_user`: make sure of the channel, send the
request through the method's stub, and answer `True`, `False` for a failure the method deems
benign, or raise with the error's text. -/
def changeUser (stub : XrayClient → Option String) (request : XrayClient → String → Option Bytes)
    (benign : RpcError → Bool) (uuid : String) (wait : ReadyOutcome) (reply : RpcOutcome) :
    ClientM Bool := do
  if (← get).client.channel.isNone then start wait else ensureChannelReady wait
  let c := (← get).client
  match ← callStub (stub c) (request c uuid) reply with
  | none => pure true
  | some e => if benign e then pure false else throw ⟨e.message⟩

/-- The failures `add_user` answers `False` for. -/
def addUserBenign (e : RpcError) : Bool :=
  e.code = .alreadyExists || PyStr.lowerContains "exist" e.detailText

/-- The failures `remove_user` answers `False` for. -/
def removeUserBenign (e : RpcError) : Bool :=
  (e.code = .notFound || e.code = .failedPrecondition) ||
    PyStr.lowerContains "not found" e.detailText

/-- `add_user(uuid)`. -/
def addUser : String → ReadyOutcome → RpcOutcome → ClientM Bool :=
  changeUser XrayClient.addUserStub XrayClient.addUserBytes addUserBenign

/-- `remove_user(uuid)`. -/
def removeUser : String → ReadyOutcome → RpcOutcome → ClientM Bool :=
  changeUser XrayClient.removeUserStub XrayClient.removeUserBytes removeUserBenign

/-- `check_health`; `first` and `second` are how its first and second readiness waits end. -/
def checkHealth (first second : ReadyOutcome) : ClientM Bool :=
  try
    let fresh := (← get).client.channel.isNone
    if fresh then start first
    ensureChannelReady (if fresh then second else first)
    pure true
  catch _ => pure false

/-! ## Runs -/

/-- A call on the client, with how the transport answers it. -/
inductive Call
  | start (wait : ReadyOutcome)
  | close
  | addUser (uuid : String) (wait : ReadyOutcome) (reply : RpcOutcome)
  | removeUser (uuid : String) (wait : ReadyOutcome) (reply : RpcOutcome)
  | checkHealth (first second : ReadyOutcome)
  deriving DecidableEq, Repr

/-- A call as a method: `start` and `close` return `None`. -/
def Call.exec : Call → ClientM (Option Bool)
  | .start wait => do Client.start wait; pure none
  | .close => do Client.close; pure none
  | .addUser uuid wait reply => some <$> Client.addUser uuid wait reply
  | .removeUser uuid wait reply => some <$> Client.removeUser uuid wait reply
  | .checkHealth first second => some <$> Client.checkHealth first second

/-- One call: its outcome and the world after it, also when it raises. -/
def step (w : World) (c : Call) : Except XrayClientError (Option Bool) × World :=
  match c.exec.run w with
  | .ok a w' => (.ok a, w')
  | .error e w' => (.error e, w')

/-- A run: the calls one after another, with their outcomes. -/
def run (w : World) : List Call → List (Except XrayClientError (Option Bool)) × World
  | [] => ([], w)
  | c :: cs => ((step w c).1 :: (run (step w c).2 cs).1, (run (step w c).2 cs).2)

/-! ## What each method does -/

/-- The error a readiness wait raises, if it raises. -/
def ReadyOutcome.raises : ReadyOutcome → Option XrayClientError
  | .ready => none
  | .timeout => some ⟨"Timed out connecting to Xray gRPC"⟩
  | .rpcError e => some ⟨e.message⟩

@[simp] theorem raises_eq_none {wait : ReadyOutcome} : wait.raises = none ↔ wait = .ready := by
  cases wait <;> simp [ReadyOutcome.raises]

/-- The world after the first step of `add_user` and `remove_user`: a channel opened and its
stubs installed when none was held, then one readiness wait. -/
def World.afterWait (w : World) (wait : ReadyOutcome) : World :=
  if w.client.channel.isNone then
    ({ w with client := w.client.openChannel }.log .opened).log (.waited wait)
  else w.log (.waited wait)

@[simp] theorem log_client (w : World) (e : Event) : (w.log e).client = w.client := rfl
@[simp] theorem log_users (w : World) (e : Event) : (w.log e).users = w.users := rfl
@[simp] theorem log_events (w : World) (e : Event) : (w.log e).events = e :: w.events := rfl

@[simp] theorem openChannel_channel (c : XrayClient) :
    c.openChannel.channel = some ⟨c.target⟩ := rfl

theorem afterWait_client (w : World) (wait : ReadyOutcome) :
    (w.afterWait wait).client = w.client.started := by
  unfold World.afterWait XrayClient.started; split_ifs <;> rfl

@[simp] theorem afterWait_users (w : World) (wait : ReadyOutcome) :
    (w.afterWait wait).users = w.users := by
  unfold World.afterWait; split_ifs <;> rfl

theorem afterWait_events (w : World) (wait : ReadyOutcome) :
    (w.afterWait wait).events = if w.client.channel.isNone
      then .waited wait :: .opened :: w.events else .waited wait :: w.events := by
  unfold World.afterWait; split_ifs <;> rfl

@[simp] theorem head_afterWait_events (w : World) (wait : ReadyOutcome) :
    (w.afterWait wait).events.head? = some (.waited wait) := by
  rw [afterWait_events]; split_ifs <;> rfl

theorem changeUser_run (stub : XrayClient → Option String)
    (request : XrayClient → String → Option Bytes) (benign : RpcError → Bool)
    (uuid : String) (wait : ReadyOutcome) (reply : RpcOutcome) (w : World) :
    (changeUser stub request benign uuid wait reply).run w =
      match wait.raises with
      | some e => .error e (w.afterWait wait)
      | none =>
        let c := (w.afterWait wait).client
        let w' := (w.afterWait wait).log (.sent (stub c) (request c uuid))
        match reply with
        | .ack => .ok true (w'.received (stub c) (request c uuid))
        | .fail e =>
          (if benign e then pure false else throw ⟨e.message⟩ : ClientM Bool).run w' := by
  rcases w with ⟨⟨_, _, _, _, _, _, _ | _, _, _⟩, _, _⟩ <;> cases wait <;> cases reply <;> rfl

/-! ## What each call does -/

theorem map_run {α β : Type} (f : α → β) (x : ClientM α) (w : World) :
    (f <$> x).run w = match x.run w with
      | .ok a w' => .ok (f a) w'
      | .error e w' => .error e w' := by
  show EStateM.map f x w = _
  unfold EStateM.map EStateM.run
  cases x w <;> rfl

theorem step_start (w : World) (wait : ReadyOutcome) :
    step w (.start wait) = if w.client.channel.isNone
      then (wait.raises.elim (.ok none) .error, w.afterWait wait) else (.ok none, w) := by
  rcases w with ⟨⟨_, _, _, _, _, _, _ | _, _, _⟩, _, _⟩ <;> cases wait <;> rfl

theorem step_close (w : World) :
    step w .close = (.ok none, if w.client.channel.isSome then
      { w with client := { w.client with channel := none } }.log .closed else w) := by
  rcases w with ⟨⟨_, _, _, _, _, _, _ | _, _, _⟩, _, _⟩ <;> rfl

theorem step_checkHealth (w : World) (first second : ReadyOutcome) :
    step w (.checkHealth first second) =
      if w.client.channel.isNone then
        match first.raises with
        | some _ => (.ok (some false), w.afterWait first)
        | none => (.ok (some second.raises.isNone), (w.afterWait first).afterWait second)
      else (.ok (some first.raises.isNone), w.afterWait first) := by
  rcases w with ⟨⟨_, _, _, _, _, _, _ | _, _, _⟩, _, _⟩ <;> cases first <;> cases second <;> rfl

/-- What `add_user` or `remove_user` returns and leaves behind, in one piece: a wait that
fails raises after the first step; otherwise the request goes out through the method's stub,
the reply decides the answer, and an answered request is applied as the proxy reads it. -/
def changeUserStep (w : World) (stub : XrayClient → Option String)
    (request : XrayClient → String → Option Bytes) (benign : RpcError → Bool)
    (uuid : String) (wait : ReadyOutcome) (reply : RpcOutcome) :
    Except XrayClientError (Option Bool) × World :=
  match wait.raises with
  | some e => (.error e, w.afterWait wait)
  | none =>
    let c := (w.afterWait wait).client
    let w' := (w.afterWait wait).log (.sent (stub c) (request c uuid))
    match reply with
    | .ack => (.ok (some true), w'.received (stub c) (request c uuid))
    | .fail e => (if benign e then .ok (some false) else .error ⟨e.message⟩, w')

theorem step_changeUser (w : World) (stub : XrayClient → Option String)
    (request : XrayClient → String → Option Bytes) (benign : RpcError → Bool)
    (uuid : String) (wait : ReadyOutcome) (reply : RpcOutcome) :
    (match (some <$> changeUser stub request benign uuid wait reply).run w with
      | .ok a w' => (.ok a, w')
      | .error e w' => (.error e, w') : Except XrayClientError (Option Bool) × World) =
      changeUserStep w stub request benign uuid wait reply := by
  rw [map_run, changeUser_run, changeUserStep]
  cases wait.raises with
  | some e => rfl
  | none =>
    cases reply with
    | ack => rfl
    | fail e => by_cases h : benign e <;> simp [h] <;> rfl

theorem step_addUser (w : World) (uuid : String) (wait : ReadyOutcome) (reply : RpcOutcome) :
    step w (.addUser uuid wait reply) = changeUserStep w XrayClient.addUserStub
      XrayClient.addUserBytes addUserBenign uuid wait reply :=
  step_changeUser w _ _ _ uuid wait reply

theorem step_removeUser (w : World) (uuid : String) (wait : ReadyOutcome) (reply : RpcOutcome) :
    step w (.removeUser uuid wait reply) = changeUserStep w XrayClient.removeUserStub
      XrayClient.removeUserBytes removeUserBenign uuid wait reply :=
  step_changeUser w _ _ _ uuid wait reply

@[simp] theorem received_client (w : World) (stub : Option String) (request : Option Bytes) :
    (w.received stub request).client = w.client := rfl

@[simp] theorem received_events (w : World) (stub : Option String) (request : Option Bytes) :
    (w.received stub request).events = w.events := rfl

/-- The client's attributes after `add_user` or `remove_user` are those after its first step. -/
theorem client_changeUserStep (w : World) (stub : XrayClient → Option String)
    (request : XrayClient → String → Option Bytes) (benign : RpcError → Bool)
    (uuid : String) (wait : ReadyOutcome) (reply : RpcOutcome) :
    (changeUserStep w stub request benign uuid wait reply).2.client =
      (w.afterWait wait).client := by
  unfold changeUserStep
  cases wait.raises <;> cases reply <;> rfl

/-! ## What reaches the proxy -/

/-- A request handed to a stub. -/
def Event.isSent : Event → Bool
  | .sent _ _ => true
  | _ => false

/-- The requests a record holds. -/
def sentCount (events : List Event) : Nat := events.countP Event.isSent

/-- The stub and bytes of a request handed to a stub. -/
def Event.sentRequest : Event → Option (Option String × Option Bytes)
  | .sent stub request => some (stub, request)
  | _ => none

/-- The requests of a record, newest first, each with its stub. -/
def sentRequests (events : List Event) : List (Option String × Option Bytes) :=
  events.filterMap Event.sentRequest

@[simp] theorem sentRequests_cons (e : Event) (events : List Event) :
    sentRequests (e :: events) = e.sentRequest.toList ++ sentRequests events := by
  cases h : e.sentRequest <;> simp [sentRequests, List.filterMap_cons, h]

@[simp] theorem sentRequests_afterWait (w : World) (wait : ReadyOutcome) :
    sentRequests (w.afterWait wait).events = sentRequests w.events := by
  rw [afterWait_events]
  split_ifs <;> simp [Event.sentRequest]

@[simp] theorem sentCount_cons (e : Event) (events : List Event) :
    sentCount (e :: events) = sentCount events + if e.isSent then 1 else 0 := by
  simp [sentCount, List.countP_cons]

@[simp] theorem sentCount_afterWait (w : World) (wait : ReadyOutcome) :
    sentCount (w.afterWait wait).events = sentCount w.events := by
  rw [afterWait_events]
  split_ifs <;> simp [Event.isSent]

/-- `start`, `close` and `check_health` send nothing and leave the table alone. -/
theorem quiet_step (w : World) {c : Call} (hc : ∀ uuid wait reply,
    c ≠ .addUser uuid wait reply ∧ c ≠ .removeUser uuid wait reply) :
    (step w c).2.users = w.users ∧ sentCount (step w c).2.events = sentCount w.events := by
  cases c with
  | start wait => rw [step_start]; split_ifs <;> simp
  | close => rw [step_close]; split_ifs <;> simp [Event.isSent]
  | addUser uuid wait reply => exact absurd rfl (hc uuid wait reply).1
  | removeUser uuid wait reply => exact absurd rfl (hc uuid wait reply).2
  | checkHealth first second =>
    rw [step_checkHealth]
    split_ifs
    · cases first.raises <;> simp
    · simp

/-- `add_user` and `remove_user` send at most one request. -/
theorem sentCount_changeUserStep (w : World) (stub : XrayClient → Option String)
    (request : XrayClient → String → Option Bytes) (benign : RpcError → Bool)
    (uuid : String) (wait : ReadyOutcome) (reply : RpcOutcome) :
    sentCount (changeUserStep w stub request benign uuid wait reply).2.events ≤
      sentCount w.events + 1 := by
  unfold changeUserStep
  cases wait.raises with
  | some e => simp
  | none => cases reply <;> simp [Event.isSent]

/-- Every call sends at most one request. -/
theorem sentCount_step_le (w : World) (c : Call) :
    sentCount (step w c).2.events ≤ sentCount w.events + 1 := by
  cases c with
  | addUser uuid wait reply => rw [step_addUser]; exact sentCount_changeUserStep ..
  | removeUser uuid wait reply => rw [step_removeUser]; exact sentCount_changeUserStep ..
  | start _ | close | checkHealth _ _ =>
    rw [(quiet_step w (by simp)).2]
    omega

/-! ## What the proxy reads -/

/-- The proxy reads the bytes of `add_user(uuid)`, sent on the `AddUser` path, as putting
`uuid` in the client's inbound. -/
theorem proxyChange_addUser (c : XrayClient) (uuid : String) :
    proxyChange (some ("/" ++ handlerService ++ "/AddUser")) (c.addUserBytes uuid) =
      some (c.inboundTag, uuid, true) := by
  obtain ⟨bytes, value, hb, hp, -⟩ := addUserBytes_parse c uuid
  simp [proxyChange, hb, hp]

/-- The proxy reads the bytes of `remove_user(uuid)`, sent on the `RemoveUser` path, as taking
`uuid` out of the client's inbound. -/
theorem proxyChange_removeUser (c : XrayClient) (uuid : String) :
    proxyChange (some ("/" ++ handlerService ++ "/RemoveUser")) (c.removeUserBytes uuid) =
      some (c.inboundTag, uuid, false) := by
  obtain ⟨bytes, hb, hp⟩ := removeUserBytes_parse c uuid
  simp [proxyChange, hb, hp, handlerService]

end XrayBackend.Client
