import XrayBackend.Security.Middleware
import XrayBackend.Security.ApiKey
import XrayBackend.Client.Users
import XrayBackend.AntiSharing.Limiter

/-!
# The application (`app/main.py`)

Every request first passes `RateLimitMiddleware`.  `/add_user` and `/remove_user` then pass
the `verify_api_key` dependency, fetch the client `startup_event` installed, and call it,
turning an `XrayClientError` into a 503; `/health` needs no key and reports what
`check_health` says.  `startup_event` builds the connection limiter and the client from the
settings and starts the client, logging a failure and carrying on; `shutdown_event` closes
the client.

The application's state is its settings, the middleware, `app.state`, and what the client
acts on: the proxy's user table and the record of what went over the wire.  The main result
is end to end: along every run in which no request carries the configured API key, the
proxy's table never changes and no request reaches it, whatever the headers, the rate
limiter and the transport do.  With the key, against a proxy that keeps its users as a set,
`/add_user` and `/remove_user` are the set operations the service means, and a no-op is never
answered with an error.
-/

namespace XrayBackend.App

open Security Client AntiSharing

/-- What a route answers: a JSON body with its status code, or the plain 500 that an
unhandled exception leaves. -/
inductive HttpResponse
  | json (statusCode : Nat) (content : List (String × String))
  | serverError
  deriving DecidableEq, Repr

/-- The application: its settings, the middleware, `app.state.connection_limiter` and
`app.state.xray_client`, the proxy's user table and the record of the wire, newest first. -/
structure AppState (τ : Type) where
  settings : Settings
  middleware : RateLimitMiddleware τ
  connectionLimiter : Option ConnectionLimiter
  xrayClient : Option XrayClient
  users : String → Bool
  events : List Event

/-- A route with what it reads from the body (`str(payload.uuid)`) and how the transport
answers the client's calls. -/
inductive Route
  | addUser (uuid : String) (wait : ReadyOutcome) (reply : RpcOutcome)
  | removeUser (uuid : String) (wait : ReadyOutcome) (reply : RpcOutcome)
  | health (first second : ReadyOutcome)

namespace AppState

variable {τ : Type}

/-- The application before `startup_event`, with its middleware. -/
def init (settings : Settings) (middleware : RateLimitMiddleware τ) (users : String → Bool) :
    AppState τ :=
  ⟨settings, middleware, none, none, users, []⟩

/-- What the installed client `c` acts on. -/
def world (s : AppState τ) (c : XrayClient) : World := ⟨c, s.users, s.events⟩

/-- The application once the client's world has become `w`. -/
def withWorld (s : AppState τ) (w : World) : AppState τ :=
  { s with xrayClient := some w.client, users := w.users, events := w.events }

@[simp] theorem withWorld_users (s : AppState τ) (w : World) : (s.withWorld w).users = w.users :=
  rfl
@[simp] theorem withWorld_events (s : AppState τ) (w : World) :
    (s.withWorld w).events = w.events := rfl
@[simp] theorem withWorld_xrayClient (s : AppState τ) (w : World) :
    (s.withWorld w).xrayClient = some w.client := rfl
@[simp] theorem world_users (s : AppState τ) (c : XrayClient) : (s.world c).users = s.users := rfl
@[simp] theorem world_events (s : AppState τ) (c : XrayClient) :
    (s.world c).events = s.events := rfl

/-! ## Startup, shutdown and the routes -/

/-- `startup_event`: the connection limiter, then the client from the settings, installed and
started; a failing `start` is logged and swallowed, a failing constructor aborts startup. -/
def startupEvent (s : AppState τ) (wait : ReadyOutcome) :
    Except XrayClientError Unit × AppState τ :=
  let s := { s with
    connectionLimiter := some (ConnectionLimiter.new s.settings.maxConnectionsPerUser false) }
  match XrayClient.ofSettings s.settings with
  | .error e => (.error e, s)
  | .ok c => (.ok (), s.withWorld (Client.step (s.world c) (.start wait)).2)

/-- `shutdown_event`: the installed client is closed. -/
def shutdownEvent (s : AppState τ) : AppState τ :=
  match s.xrayClient with
  | none => s
  | some c => s.withWorld (Client.step (s.world c) .close).2

/-- The body shared by `/add_user` and `/remove_user`: the API-key dependency, `_get_client`,
then the client's call, an `XrayClientError` becoming a 503. -/
def userRoute (call : String → ReadyOutcome → RpcOutcome → Client.Call) (uuid : String)
    (wait : ReadyOutcome) (reply : RpcOutcome) (request : Request) (s : AppState τ) :
    HttpResponse × AppState τ :=
  match verifyApiKey s.settings (request.header "X-API-KEY") with
  | .error (.httpException statusCode detail) => (.json statusCode [("detail", detail)], s)
  | .error (.typeError _) => (.serverError, s)
  | .ok () =>
    match s.xrayClient with
    | none => (.json 503 [("detail", "Xray client not initialized")], s)
    | some c =>
      let r := Client.step (s.world c) (call uuid wait reply)
      (match r.1 with
        | .ok _ => .json 200 [("status", "ok")]
        | .error _ => .json 503 [("detail", "Xray unavailable")], s.withWorld r.2)

/-- `POST /add_user`. -/
def addUser : String → ReadyOutcome → RpcOutcome → Request → AppState τ →
    HttpResponse × AppState τ :=
  userRoute Client.Call.addUser

/-- `POST /remove_user`. -/
def removeUser : String → ReadyOutcome → RpcOutcome → Request → AppState τ →
    HttpResponse × AppState τ :=
  userRoute Client.Call.removeUser

/-- `GET /health`: `check_health` of the installed client, `degraded` without one. -/
def health (first second : ReadyOutcome) (s : AppState τ) : HttpResponse × AppState τ :=
  match s.xrayClient with
  | none => (.json 503 [("status", "degraded")], s)
  | some c =>
    let r := Client.step (s.world c) (.checkHealth first second)
    (match r.1 with
      | .ok (some true) => .json 200 [("status", "ok")]
      | _ => .json 503 [("status", "degraded")], s.withWorld r.2)

/-- The router: the route's endpoint. -/
def serve (route : Route) (request : Request) (s : AppState τ) : HttpResponse × AppState τ :=
  match route with
  | .addUser uuid wait reply => addUser uuid wait reply request s
  | .removeUser uuid wait reply => removeUser uuid wait reply request s
  | .health first second => health first second s

variable [LinearOrderedAddCommGroup τ]

/-- A request arriving when the clock reads `now`: the middleware, then the router. -/
def handle (s : AppState τ) (route : Route) (request : Request) (now : τ) :
    HttpResponse × AppState τ :=
  let d := s.middleware.dispatch request now
  let s := { s with middleware := d.2 }
  match d.1 with
  | .rejected statusCode detail => (.json statusCode [("detail", detail)], s)
  | .forwarded => serve route request s

end AppState

/-- What happens to the application: its startup, its shutdown, or a request. -/
inductive AppEvent (τ : Type)
  | startup (wait : ReadyOutcome)
  | shutdown
  | request (route : Route) (request : Request) (now : τ)

/-- How an event ends: startup's outcome, shutdown, or the answer to a request. -/
inductive Outcome
  | started (result : Except XrayClientError Unit)
  | stopped
  | answered (response : HttpResponse)

/-- Whether an event is a request whose `X-API-KEY` header is `key`. -/
def AppEvent.carriesKey {τ : Type} (key : String) : AppEvent τ → Bool
  | .request _ req _ => decide (req.header "X-API-KEY" = some key)
  | _ => false

namespace AppState

variable {τ : Type} [LinearOrderedAddCommGroup τ]

/-- One event. -/
def step (s : AppState τ) : AppEvent τ → Outcome × AppState τ
  | .startup wait => (.started (s.startupEvent wait).1, (s.startupEvent wait).2)
  | .shutdown => (.stopped, s.shutdownEvent)
  | .request route request now =>
    (.answered (s.handle route request now).1, (s.handle route request now).2)

/-- A run of the application: its events in order, with their outcomes. -/
def run (s : AppState τ) : List (AppEvent τ) → List Outcome × AppState τ
  | [] => ([], s)
  | e :: es => ((s.step e).1 :: ((s.step e).2.run es).1, ((s.step e).2.run es).2)

/-! ## What reaches the proxy -/

omit [LinearOrderedAddCommGroup τ] in
/-- Installing the world a quiet call leaves changes neither the table nor the requests sent. -/
theorem quiet_withWorld (s : AppState τ) (c : XrayClient) {call : Client.Call}
    (hc : ∀ uuid wait reply, call ≠ .addUser uuid wait reply ∧ call ≠ .removeUser uuid wait reply) :
    (s.withWorld (Client.step (s.world c) call).2).users = s.users ∧
      sentCount (s.withWorld (Client.step (s.world c) call).2).events = sentCount s.events := by
  simpa using quiet_step (s.world c) hc

/-- After a request the application is the middleware's, or the router's on top of it. -/
theorem handle_cases (s : AppState τ) (route : Route) (request : Request) (now : τ) :
    s.handle route request now = (.json 429 [("detail", "Too many requests")],
        { s with middleware := (s.middleware.dispatch request now).2 }) ∨
      s.handle route request now =
        serve route request { s with middleware := (s.middleware.dispatch request now).2 } := by
  unfold handle RateLimitMiddleware.dispatch
  by_cases h : (s.middleware.limiter.allow (getClientIp request) now).1 <;> simp [h]

omit [LinearOrderedAddCommGroup τ] in
@[simp] theorem settings_serve (route : Route) (request : Request) (s : AppState τ) :
    (serve route request s).2.settings = s.settings := by
  cases route <;> simp only [serve, addUser, removeUser, userRoute, health] <;> split <;>
    (try split) <;> rfl

@[simp] theorem settings_step (s : AppState τ) (e : AppEvent τ) :
    (s.step e).2.settings = s.settings := by
  cases e with
  | startup wait => simp only [step, startupEvent]; split <;> rfl
  | shutdown => simp only [step, shutdownEvent]; split <;> rfl
  | request route request now =>
    rcases handle_cases s route request now with h | h <;> simp [step, h]

omit [LinearOrderedAddCommGroup τ] in
/-- The routes either leave the client's world alone or run one call on the installed client. -/
theorem serve_world_cases (route : Route) (request : Request) (s : AppState τ) :
    ((serve route request s).2.xrayClient = s.xrayClient ∧
        (serve route request s).2.events = s.events) ∨
      ∃ d call, s.xrayClient = some d ∧
        (serve route request s).2.xrayClient = some (Client.step (s.world d) call).2.client ∧
        (serve route request s).2.events = (Client.step (s.world d) call).2.events := by
  cases route <;> simp only [serve, addUser, removeUser, userRoute, health] <;> split <;>
    (try split) <;>
    first
    | exact .inl ⟨rfl, rfl⟩
    | exact .inr ⟨_, _, ‹_›, rfl, rfl⟩

/-- Every event either leaves the client's world alone, or runs one call on the installed
client, or (a startup whose constructor succeeds) starts a fresh client built from the
settings. -/
theorem step_world_cases (s : AppState τ) (e : AppEvent τ) :
    ((s.step e).2.xrayClient = s.xrayClient ∧ (s.step e).2.events = s.events) ∨
      (∃ d call, s.xrayClient = some d ∧
        (s.step e).2.xrayClient = some (Client.step (s.world d) call).2.client ∧
        (s.step e).2.events = (Client.step (s.world d) call).2.events) ∨
      ∃ c wait, XrayClient.ofSettings s.settings = .ok c ∧
        (s.step e).2.xrayClient = some (Client.step (s.world c) (.start wait)).2.client ∧
        (s.step e).2.events = (Client.step (s.world c) (.start wait)).2.events := by
  cases e with
  | startup wait =>
    simp only [step, startupEvent]
    split
    · exact .inl ⟨rfl, rfl⟩
    · exact .inr (.inr ⟨_, wait, ‹_›, rfl, rfl⟩)
  | shutdown =>
    simp only [step, shutdownEvent]
    split
    · exact .inl ⟨rfl, rfl⟩
    · exact .inr (.inl ⟨_, .close, ‹_›, rfl, rfl⟩)
  | request route request now =>
    simp only [step]
    rcases handle_cases s route request now with hd | hd <;> rw [hd]
    · exact .inl ⟨rfl, rfl⟩
    · exact (serve_world_cases route request _).imp_right .inl

/-- Every event keeps every client the application holds calling the proxy's handler service:
a startup installs a fresh client built from the settings. -/
theorem reachesHandler_step {s : AppState τ}
    (h : ∀ c, s.xrayClient = some c → c.ReachesHandler) (e : AppEvent τ) :
    ∀ c, (s.step e).2.xrayClient = some c → c.ReachesHandler := by
  rcases step_world_cases s e with ⟨hx, -⟩ | ⟨d, call, hd, hx, -⟩ | ⟨c', wait, hc', hx, -⟩
  · exact fun c hc => h c (hx ▸ hc)
  · rintro c hc
    rw [hx] at hc
    cases hc
    exact Client.reachesHandler_step (h d hd) call
  · rintro c hc
    rw [hx] at hc
    cases hc
    exact Client.reachesHandler_step (.of_ofSettings hc') (.start wait)

omit [LinearOrderedAddCommGroup τ] in
/-- The router on a request without the configured key changes neither the table nor the
requests sent: `/add_user` and `/remove_user` refuse it at the key, `/health` sends nothing. -/
theorem quiet_serve (route : Route) {request : Request} (s : AppState τ)
    (hk : request.header "X-API-KEY" ≠ some s.settings.apiKey) :
    (serve route request s).2.users = s.users ∧
      sentCount (serve route request s).2.events = sentCount s.events := by
  have hgate : ∀ (call : String → ReadyOutcome → RpcOutcome → Client.Call) uuid wait reply,
      (userRoute call uuid wait reply request s).2.users = s.users ∧
        sentCount (userRoute call uuid wait reply request s).2.events = sentCount s.events := by
    intro call uuid wait reply
    unfold userRoute
    split
    · exact ⟨rfl, rfl⟩
    · exact ⟨rfl, rfl⟩
    · rename_i hv
      exact absurd (eq_of_verifyApiKey_ok hv) hk
  cases route with
  | addUser uuid wait reply => exact hgate _ uuid wait reply
  | removeUser uuid wait reply => exact hgate _ uuid wait reply
  | health first second =>
    simp only [serve, health]
    split
    · exact ⟨rfl, rfl⟩
    · exact quiet_withWorld _ _ (by simp)

omit [LinearOrderedAddCommGroup τ] in
/-- The router sends at most one request on to the proxy. -/
theorem sentCount_serve_le (route : Route) (request : Request) (s : AppState τ) :
    sentCount (serve route request s).2.events ≤ sentCount s.events + 1 := by
  cases route <;> simp only [serve, addUser, removeUser, userRoute, health] <;> split <;>
    (try split) <;> first | exact Nat.le_succ _ | exact sentCount_step_le _ _

/-- One event: only a request carrying the configured key can send a request on to the
proxy or change its table, and it sends at most one. -/
theorem sentCount_step (s : AppState τ) (e : AppEvent τ) :
    sentCount (s.step e).2.events ≤
        sentCount s.events + (if e.carriesKey s.settings.apiKey then 1 else 0) ∧
      (e.carriesKey s.settings.apiKey = false → (s.step e).2.users = s.users) := by
  cases e with
  | startup wait =>
    simp only [step, startupEvent, AppEvent.carriesKey]
    split
    · simp
    · exact ⟨(quiet_withWorld _ _ (by simp)).2.le, fun _ => (quiet_withWorld _ _ (by simp)).1⟩
  | shutdown =>
    simp only [step, shutdownEvent, AppEvent.carriesKey]
    split
    · simp
    · exact ⟨(quiet_withWorld _ _ (by simp)).2.le, fun _ => (quiet_withWorld _ _ (by simp)).1⟩
  | request route request now =>
    simp only [step, AppEvent.carriesKey]
    rcases handle_cases s route request now with h | h <;> rw [h]
    · simp
    · by_cases hk : request.header "X-API-KEY" = some s.settings.apiKey
      · simpa [hk] using sentCount_serve_le route request _
      · obtain ⟨husers, hcount⟩ :=
          quiet_serve route { s with middleware := (s.middleware.dispatch request now).2 } hk
        simp only [hk, decide_False, Bool.false_eq_true, if_false, add_zero, forall_const]
        exact ⟨hcount.le, husers⟩

/-- Along every run of the application, whatever the headers, the rate limiter and the
transport do, each request the client sends on to the proxy is owed to a distinct HTTP request
carrying the configured API key; and when no request of the run carries it, the proxy's user
table is never changed. -/
theorem proxy_reached_only_with_api_key (s : AppState τ) (events : List (AppEvent τ)) :
    sentCount (s.run events).2.events ≤
        sentCount s.events + events.countP (AppEvent.carriesKey s.settings.apiKey) ∧
      (events.countP (AppEvent.carriesKey s.settings.apiKey) = 0 →
        (s.run events).2.users = s.users) := by
  induction events generalizing s with
  | nil => simp [run]
  | cons e es ih =>
    obtain ⟨hcount, husers⟩ := sentCount_step s e
    obtain ⟨ihcount, ihusers⟩ := ih (s.step e).2
    simp only [settings_step] at ihcount ihusers
    simp only [run, List.countP_cons]
    cases he : e.carriesKey s.settings.apiKey
    · simp only [he, Bool.false_eq_true, if_false, add_zero] at hcount ⊢
      exact ⟨by omega, fun h0 => by rw [ihusers h0, husers he]⟩
    · simp only [he, if_true] at hcount ⊢
      exact ⟨by omega, fun h0 => by omega⟩

/-! ## After a validated startup -/

/-- Settings that validate let the constructor build the client: its host is a loopback name. -/
theorem ofSettings_ok {raw : RawSettings} {settings : Settings}
    (hv : Settings.validate raw = .ok settings) : ∃ c, XrayClient.ofSettings settings = .ok c := by
  have hmem := (Settings.validate_ok hv).1
  exact ⟨_, by rw [XrayClient.ofSettings, XrayClient.new, if_neg (not_not.mpr hmem)]⟩

/-- A client, once installed, stays installed: `shutdown_event` only closes it. -/
theorem xrayClient_isSome_step {s : AppState τ} (hs : s.xrayClient.isSome) (e : AppEvent τ) :
    (s.step e).2.xrayClient.isSome := by
  cases e with
  | startup wait => simp only [step, startupEvent]; split <;> simp [hs]
  | shutdown => simp only [step, shutdownEvent]; split <;> simp [hs]
  | request route request now =>
    simp only [step]
    rcases handle_cases s route request now with hd | hd <;> rw [hd]
    · exact hs
    · cases route <;> simp only [serve, addUser, removeUser, userRoute, health] <;> split <;>
        (try split) <;> simp [hs]

omit [LinearOrderedAddCommGroup τ] in
/-- With a client installed the router never answers "Xray client not initialized": the gate's
only `HTTPException` is the 403, and the client's errors become "Xray unavailable". -/
theorem serve_ne_not_initialized (route : Route) (request : Request) {s : AppState τ}
    (hs : s.xrayClient.isSome) :
    (serve route request s).1 ≠ .json 503 [("detail", "Xray client not initialized")] := by
  obtain ⟨c, hc⟩ := Option.isSome_iff_exists.mp hs
  have hgate : ∀ (call : String → ReadyOutcome → RpcOutcome → Client.Call) uuid wait reply,
      (userRoute call uuid wait reply request s).1 ≠
        .json 503 [("detail", "Xray client not initialized")] := by
    intro call uuid wait reply
    unfold userRoute
    split
    · obtain ⟨rfl, rfl⟩ := verifyApiKey_httpException ‹_›
      simp
    · simp
    · simp only [hc]
      split <;> simp
  cases route with
  | addUser uuid wait reply => exact hgate _ uuid wait reply
  | removeUser uuid wait reply => exact hgate _ uuid wait reply
  | health first second =>
    simp only [serve, health, hc]
    split <;> simp

/-- With a client installed no request is answered "Xray client not initialized". -/
theorem step_ne_not_initialized {s : AppState τ} (hs : s.xrayClient.isSome) (e : AppEvent τ) :
    (s.step e).1 ≠ .answered (.json 503 [("detail", "Xray client not initialized")]) := by
  cases e with
  | startup _ | shutdown => simp [step]
  | request route request now =>
    simp only [step, ne_eq, Outcome.answered.injEq]
    rcases handle_cases s route request now with hd | hd <;> rw [hd]
    · simp
    · exact serve_ne_not_initialized route request hs

/-- Started from settings that validate, the application installs its client and never
answers "Xray client not initialized", along every run of requests, shutdowns and restarts,
whatever the transport does. -/
theorem validated_startup_installs_client {raw : RawSettings} {settings : Settings}
    (hv : Settings.validate raw = .ok settings) (middleware : RateLimitMiddleware τ)
    (users : String → Bool) (wait : ReadyOutcome) (events : List (AppEvent τ)) :
    ((init settings middleware users).run (.startup wait :: events)).1.head? =
        some (.started (.ok ())) ∧
      ∀ o ∈ ((init settings middleware users).run (.startup wait :: events)).1,
        o ≠ .answered (.json 503 [("detail", "Xray client not initialized")]) := by
  obtain ⟨c, hc⟩ := ofSettings_ok hv
  have hstart : (init settings middleware users).step (.startup wait) =
      (.started (.ok ()), ((init settings middleware users).startupEvent wait).2) := by
    simp only [step, startupEvent, init, hc]
  have hinst : ((init settings middleware users).step (.startup wait)).2.xrayClient.isSome := by
    simp [step, startupEvent, init, hc]
  have hrun : ∀ (s : AppState τ), s.xrayClient.isSome → ∀ o ∈ (s.run events).1,
      o ≠ .answered (.json 503 [("detail", "Xray client not initialized")]) := by
    induction events with
    | nil => simp [run]
    | cons e es ih =>
      intro s hs o ho
      rcases List.mem_cons.mp ho with rfl | ho
      · exact step_ne_not_initialized hs e
      · exact ih _ (xrayClient_isSome_step hs e) o ho
  refine ⟨by simp [run, hstart], fun o ho => ?_⟩
  rcases List.mem_cons.mp ho with rfl | ho
  · simp [hstart]
  · exact hrun _ hinst o ho

theorem validated_startup_installs_client_defaults :
    Settings.validate (Settings.defaults "secret") =
        .ok ⟨"secret", "127.0.0.1", 10085, "vless-reality", 0⟩ ∧
      ((init ⟨"secret", "127.0.0.1", 10085, "vless-reality", 0⟩
          (RateLimitMiddleware.new (60 : Int) (60 : ℤ)) (fun _ => false)).run [.startup .timeout,
            .request (.addUser "u" .ready .ack) ⟨[("x-api-key", "secret")], some "127.0.0.1"⟩
              0]).1.head? =
        some (.started (.ok ())) ∧
      ∀ o ∈ ((init ⟨"secret", "127.0.0.1", 10085, "vless-reality", 0⟩
          (RateLimitMiddleware.new (60 : Int) (60 : ℤ)) (fun _ => false)).run [.startup .timeout,
            .request (.addUser "u" .ready .ack) ⟨[("x-api-key", "secret")], some "127.0.0.1"⟩
              0]).1,
        o ≠ .answered (.json 503 [("detail", "Xray client not initialized")]) :=
  ⟨rfl, @validated_startup_installs_client ℤ _ (Settings.defaults "secret") _ rfl _ _ _ _⟩

end AppState

/-! ## `/add_user` and `/remove_user` as set operations -/

/-- The request to `/add_user` or `/remove_user` for an operation, the client's readiness wait
succeeding and the proxy answering `reply`. -/
def Route.ofSetOp : SetOp → RpcOutcome → Route
  | .add u, reply => .addUser u .ready reply
  | .remove u, reply => .removeUser u .ready reply

/-- A request for an operation on the set of users, and how the proxy answers it. -/
structure UserCall (τ : Type) where
  op : SetOp
  reply : RpcOutcome
  request : Request
  now : τ

/-- The event of a user call. -/
def UserCall.event {τ : Type} (q : UserCall τ) : AppEvent τ :=
  .request (Route.ofSetOp q.op q.reply) q.request q.now

/-- Whether a request was answered `200 {"status": "ok"}`. -/
def Outcome.isOk : Outcome → Bool
  | .answered r => decide (r = .json 200 [("status", "ok")])
  | _ => false

/-- The operations of the calls answered `200 {"status": "ok"}`, in order. -/
def okOps {τ : Type} (calls : List (UserCall τ)) (outcomes : List Outcome) : List SetOp :=
  ((calls.zip outcomes).filter (·.2.isOk)).map (·.1.op)

theorem okOps_cons {τ : Type} (q : UserCall τ) (qs : List (UserCall τ)) (o : Outcome)
    (os : List Outcome) :
    okOps (q :: qs) (o :: os) = if o.isOk then q.op :: okOps qs os else okOps qs os := by
  unfold okOps
  rw [List.zip_cons_cons, List.filter_cons]
  split <;> rfl

namespace AppState

variable {τ : Type} [LinearOrderedAddCommGroup τ]

/-- Every call is answered as a proxy keeping a set answers, its table being the application's
when the call arrives. -/
def SetLikeCalls : AppState τ → List (UserCall τ) → Prop
  | _, [] => True
  | s, q :: qs =>
    q.reply.SetLike q.op.adding (s.users q.op.uuid) ∧ SetLikeCalls (s.step q.event).2 qs

instance decSetLikeCalls : (s : AppState τ) → (calls : List (UserCall τ)) →
    Decidable (SetLikeCalls s calls)
  | _, [] => isTrue trivial
  | s, q :: qs =>
    haveI := decSetLikeCalls (s.step q.event).2 qs
    inferInstanceAs (Decidable (_ ∧ _))

omit [LinearOrderedAddCommGroup τ] in
/-- Past the gate, with a client installed, a user route is the client's call, a raise turned
into a 503. -/
theorem userRoute_of_gate {call : String → ReadyOutcome → RpcOutcome → Client.Call}
    {uuid : String} {wait : ReadyOutcome} {reply : RpcOutcome} {request : Request}
    {s : AppState τ} {c : XrayClient} (hc : s.xrayClient = some c)
    (hk : verifyApiKey s.settings (request.header "X-API-KEY") = .ok ()) :
    userRoute call uuid wait reply request s =
      (match (Client.step (s.world c) (call uuid wait reply)).1 with
        | .ok _ => .json 200 [("status", "ok")]
        | .error _ => .json 503 [("detail", "Xray unavailable")],
        s.withWorld (Client.step (s.world c) (call uuid wait reply)).2) := by
  simp only [userRoute, hk, hc]

omit [LinearOrderedAddCommGroup τ] in
/-- Past the gate, with a client installed, a set-keeping proxy's answer makes a user route
the model's operation, answered `200`. -/
theorem serve_ofSetOp {s : AppState τ} {c : XrayClient} (hc : s.xrayClient = some c)
    (hw : c.ReachesHandler) {op : SetOp} {reply : RpcOutcome} {request : Request}
    (hk : verifyApiKey s.settings (request.header "X-API-KEY") = .ok ())
    (hr : reply.SetLike op.adding (s.users op.uuid)) :
    (serve (Route.ofSetOp op reply) request s).1 = .json 200 [("status", "ok")] ∧
      (serve (Route.ofSetOp op reply) request s).2.users = (op.apply s.users).2 := by
  obtain ⟨h1, h2⟩ := @SetOp.step_call (s.world c) hw op reply hr
  cases op <;> simp only [SetOp.call] at h1 h2 <;>
    simp only [Route.ofSetOp, serve, addUser, removeUser, userRoute_of_gate hc hk, h1, h2,
      world_users, withWorld_users, and_self]

/-- A user call with the configured ASCII key, to an application with its client installed,
answered as a set-keeping proxy answers: the rate limiter refuses it, the table kept, or it is
the model's operation, answered `200`. -/
theorem step_userCall {s : AppState τ} {c : XrayClient} (hc : s.xrayClient = some c)
    (hw : c.ReachesHandler) (hascii : PyStr.isAscii s.settings.apiKey = true) {q : UserCall τ}
    (hkey : q.request.header "X-API-KEY" = some s.settings.apiKey)
    (hr : q.reply.SetLike q.op.adding (s.users q.op.uuid)) :
    ((s.step q.event).1 = .answered (.json 429 [("detail", "Too many requests")]) ∧
        (s.step q.event).2.users = s.users) ∨
      ((s.step q.event).1 = .answered (.json 200 [("status", "ok")]) ∧
        (s.step q.event).2.users = (q.op.apply s.users).2) := by
  simp only [step, UserCall.event]
  rcases handle_cases s (Route.ofSetOp q.op q.reply) q.request q.now with hd | hd <;> rw [hd]
  · exact .inl ⟨rfl, rfl⟩
  · have hk : verifyApiKey s.settings (q.request.header "X-API-KEY") = .ok () := by
      rw [hkey, verifyApiKey_self hascii]
    obtain ⟨h1, h2⟩ := @serve_ofSetOp τ
      { s with middleware := (s.middleware.dispatch q.request q.now).2 } c hc hw _ _ _ hk hr
    exact .inr ⟨by rw [h1], h2⟩

/-- With the configured ASCII key on every request, an installed client that reaches the handler,
and a proxy keeping the inbound's users as a set, no no-op becomes an error: every `/add_user`
and `/remove_user` request whose wait succeeds is answered `200` or, by the rate limiter, `429`,
and the table ends as the set model leaves it after the operations answered `200`, in order. -/
theorem user_routes_refine_setModel (s : AppState τ) (hs : s.xrayClient.isSome)
    (hreach : ∀ c, s.xrayClient = some c → c.ReachesHandler)
    (hascii : PyStr.isAscii s.settings.apiKey = true) (calls : List (UserCall τ))
    (hkey : ∀ q ∈ calls, q.request.header "X-API-KEY" = some s.settings.apiKey)
    (h : SetLikeCalls s calls) :
    (∀ o ∈ (s.run (calls.map UserCall.event)).1,
        o = .answered (.json 200 [("status", "ok")]) ∨
          o = .answered (.json 429 [("detail", "Too many requests")])) ∧
      (s.run (calls.map UserCall.event)).2.users =
        (SetOp.applyAll s.users (okOps calls (s.run (calls.map UserCall.event)).1)).2 := by
  induction calls generalizing s with
  | nil => simp [run, okOps, SetOp.applyAll]
  | cons q qs ih =>
    obtain ⟨hr, hrest⟩ := h
    have hkey' :
        ∀ q' ∈ qs, q'.request.header "X-API-KEY" = some (s.step q.event).2.settings.apiKey :=
      fun q' hq' => by rw [settings_step]; exact hkey q' (List.mem_cons_of_mem q hq')
    obtain ⟨ih1, ih2⟩ := ih (s.step q.event).2 (xrayClient_isSome_step hs _)
      (reachesHandler_step hreach _) (by rwa [settings_step]) hkey' hrest
    obtain ⟨c, hc⟩ := Option.isSome_iff_exists.mp hs
    simp only [List.map_cons, run, List.forall_mem_cons, okOps_cons]
    rcases step_userCall hc (hreach c hc) hascii (hkey q (List.mem_cons_self q qs)) hr with
      ⟨h1, h2⟩ | ⟨h1, h2⟩ <;> rw [h2] at ih2 <;> rw [h1]
    · -- refused by the rate limiter: the table is kept
      exact ⟨⟨.inr rfl, ih1⟩, ih2⟩
    · -- the model's operation, answered `200`
      exact ⟨⟨.inl rfl, ih1⟩, ih2⟩

theorem user_routes_refine_setModel_add_twice :
    let s : AppState ℤ := ⟨⟨"secret", "127.0.0.1", 10085, "vless-reality", 0⟩,
      RateLimitMiddleware.new 60 60, none, some startupClient, fun _ => false, []⟩
    let key : Request := ⟨[("x-api-key", "secret")], some "127.0.0.1"⟩
    let calls : List (UserCall ℤ) := [⟨.add "u", .ack, key, 0⟩,
      ⟨.add "u", .fail ⟨.unknown, some "User u already exists.", ""⟩, key, 1⟩]
    s.xrayClient.isSome ∧ (∀ c, s.xrayClient = some c → c.ReachesHandler) ∧
      PyStr.isAscii s.settings.apiKey = true ∧
      (∀ q ∈ calls, q.request.header "X-API-KEY" = some s.settings.apiKey) ∧ SetLikeCalls s calls ∧
      (∀ o ∈ (s.run (calls.map UserCall.event)).1,
        o = .answered (.json 200 [("status", "ok")]) ∨
          o = .answered (.json 429 [("detail", "Too many requests")])) ∧
      (s.run (calls.map UserCall.event)).2.users =
        (SetOp.applyAll s.users (okOps calls (s.run (calls.map UserCall.event)).1)).2 := by
  intro s key calls
  have hreach : ∀ c, s.xrayClient = some c → c.ReachesHandler := fun c hc => by
    cases hc
    exact .of_fresh rfl rfl
  -- the first call adds the user, so the second one finds it there
  have hset : SetLikeCalls s calls := by
    simp only [SetLikeCalls, and_true]
    refine ⟨by decide, ?_⟩
    rcases @step_userCall ℤ _ s startupClient rfl (hreach _ rfl) (by decide)
      ⟨.add "u", .ack, key, 0⟩ (by decide) (by decide) with ⟨h1, -⟩ | ⟨-, h2⟩
    · have hok : (s.step (UserCall.event ⟨.add "u", .ack, key, 0⟩)).1.isOk = true := by decide
      rw [h1] at hok
      exact absurd hok (by decide)
    · rw [h2]
      decide
  exact ⟨rfl, hreach, by decide, by decide, hset,
    user_routes_refine_setModel s rfl hreach (by decide) _ (by decide) hset⟩

end AppState

end XrayBackend.App
