import XrayBackend.App

/-!
# What the application sends to the proxy, across its life (`app/main.py`)

`startup_event` builds a fresh `XrayClient` from the settings each time it runs and starts it;
`shutdown_event` closes the installed client; the routes call the installed client.  Every one
of these acts on the client through one call of its own, so the client-level facts of
`Client.Lifecycle` carry over to the whole application: whatever events arrive, in whatever
order, with restarts and shutdowns between requests, every request that reaches the proxy
leaves right after a readiness wait that succeeded, through the stub that `start` installed on
the client the settings build, and every channel the application holds is to the configured
loopback endpoint.
-/

namespace XrayBackend.App

open Security Client

namespace AppState

variable {τ : Type} [LinearOrderedAddCommGroup τ]

/-! ## The invariant -/

/-- What the application holds for the client `c` its settings build: an installed client is
`c` as built, started or closed, and every request in the record left right after a readiness
wait that succeeded, through `c`'s stubs, with `c`'s bytes. -/
structure Wired (c : XrayClient) (s : AppState τ) : Prop where
  reached : ∀ d, s.xrayClient = some d → ReachedFrom c d
  sent : SentAfterWait c s.events

omit [LinearOrderedAddCommGroup τ] in
/-- One call on a client reached from the fresh client `c` leaves the application wired to `c`. -/
theorem wired_of_call {c d : XrayClient} (hc : c.channel = none) {s s' : AppState τ}
    (hr : ReachedFrom c d) (hs : SentAfterWait c s.events) (call : Client.Call)
    (hx : s'.xrayClient = some (Client.step (s.world d) call).2.client)
    (hev : s'.events = (Client.step (s.world d) call).2.events) : Wired c s' where
  reached _ hd := by
    rw [hx] at hd
    cases hd
    exact @reachedFrom_step c hc (s.world d) hr call
  sent := hev ▸ @sentAfterWait_step c hc (s.world d) hr hs call

/-- Every event keeps the application wired to the client its settings build. -/
theorem wired_step {c : XrayClient} {s : AppState τ}
    (hc : XrayClient.ofSettings s.settings = .ok c) (hw : Wired c s) (e : AppEvent τ) :
    Wired c (s.step e).2 := by
  have hfresh : c.channel = none := by
    obtain ⟨-, rfl⟩ := XrayClient.new_eq_ok hc
    rfl
  rcases step_world_cases s e with
    ⟨hx, hev⟩ | ⟨d, call, hd, hx, hev⟩ | ⟨c', wait, hc', hx, hev⟩
  · exact ⟨hx ▸ hw.reached, hev ▸ hw.sent⟩
  · exact wired_of_call hfresh (hw.reached d hd) hw.sent call hx hev
  · cases hc.symm.trans hc'
    exact wired_of_call hfresh (.inl rfl) hw.sent (.start wait) hx hev

theorem wired_run {c : XrayClient} {s : AppState τ}
    (hc : XrayClient.ofSettings s.settings = .ok c) (hw : Wired c s) (events : List (AppEvent τ)) :
    Wired c (s.run events).2 := by
  induction events generalizing s with
  | nil => exact hw
  | cons e es ih => exact ih (by rwa [settings_step]) (wired_step hc hw e)

/-- Settings whose constructor fails leave the application without a client and the proxy
untouched. -/
theorem unwired_run {s : AppState τ} (hc : ∀ c, XrayClient.ofSettings s.settings ≠ .ok c)
    (hs : s.xrayClient = none) (events : List (AppEvent τ)) :
    (s.run events).2.xrayClient = none ∧ (s.run events).2.events = s.events := by
  induction events generalizing s with
  | nil => exact ⟨hs, rfl⟩
  | cons e es ih =>
    have hstep : (s.step e).2.xrayClient = none ∧ (s.step e).2.events = s.events := by
      rcases step_world_cases s e with ⟨hx, hev⟩ | ⟨d, _, hd, -⟩ | ⟨c', _, hc', -⟩
      · exact ⟨hx ▸ hs, hev⟩
      · rw [hs] at hd; cases hd
      · exact absurd hc' (hc c')
    obtain ⟨ih1, ih2⟩ := ih (fun c => by rw [settings_step]; exact hc c) hstep.1
    exact ⟨ih1, ih2.trans hstep.2⟩

/-! ## Along every run -/

/-- Along every run from the initial state, whatever the settings, events and transport, every
request handed to a stub follows a successful readiness wait and goes through the `AddUser` or
`RemoveUser` stub of the client the settings build, to the configured loopback `host:port`, with
that method's bytes; a client held at the end holds no channel or one to that target. -/
theorem proxy_reached_through_configured_endpoint (settings : Settings)
    (middleware : RateLimitMiddleware τ) (users : String → Bool) (events : List (AppEvent τ)) :
    (∀ pre stub request rest,
      ((init settings middleware users).run events).2.events = pre ++ .sent stub request :: rest →
        rest.head? = some (.waited .ready) ∧
        ∃ c uuid, XrayClient.ofSettings settings = .ok c ∧
          settings.xrayApiHost ∈ localhostValues ∧
          c.target = settings.xrayApiHost ++ ":" ++ intStr settings.xrayApiPort ∧
          ((stub = some ("/" ++ handlerService ++ "/AddUser") ∧
              request = c.addUserBytes uuid) ∨
            (stub = some ("/" ++ handlerService ++ "/RemoveUser") ∧
              request = c.removeUserBytes uuid))) ∧
      ∀ d, ((init settings middleware users).run events).2.xrayClient = some d →
        settings.xrayApiHost ∈ localhostValues ∧
        d.target = settings.xrayApiHost ++ ":" ++ intStr settings.xrayApiPort ∧
        (d.channel = none ∨ d.channel = some ⟨d.target⟩) := by
  cases hc : XrayClient.ofSettings settings with
  | error err =>
    obtain ⟨hnone, hev⟩ := @unwired_run τ _ (init settings middleware users)
      (fun c h => nomatch h.symm.trans hc) rfl events
    refine ⟨fun pre stub request rest he => ?_, fun d hd => by rw [hnone] at hd; cases hd⟩
    rw [hev] at he
    exact absurd he.symm (by simp [init])
  | ok c =>
    obtain ⟨hmem, hcdef⟩ := XrayClient.new_eq_ok hc
    have hw := @wired_run τ _ c (init settings middleware users) hc
      ⟨fun d hd => (by cases hd), trivial⟩ events
    refine ⟨fun pre stub request rest he => ?_, fun d hd => ?_⟩
    · have hs := hw.sent
      rw [he] at hs
      obtain ⟨hhead, uuid, hcases⟩ := sentAfterWait_of_eq_append hs
      refine ⟨hhead, c, uuid, rfl, hmem, by rw [hcdef], ?_⟩
      rw [hcdef] at hcases ⊢
      exact hcases
    · refine ⟨hmem, ?_⟩
      rcases hw.reached d hd with rfl | rfl | rfl <;> rw [hcdef] <;> simp [XrayClient.openChannel]

end AppState

end XrayBackend.App
