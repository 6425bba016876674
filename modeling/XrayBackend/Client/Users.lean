import XrayBackend.Client.Lifecycle

/-!
# What `add_user` and `remove_user` report (`app/xray_client.py`)

An answered `AddUser` or `RemoveUser` call changes the proxy's table as the proxy reads the
request the method sent; a failed one changes nothing.  On a client whose calls reach the
proxy's handler service, an answered `add_user(u)` puts `u` in the configured inbound and an
answered `remove_user(u)` takes it out.

The docstrings of the two methods promise `False` when the user already exists, or does not
exist.  The code answers `False` for any failure whose text matches: `add_user` for
`ALREADY_EXISTS` and for any detail mentioning "exist", `remove_user` for `NOT_FOUND`,
`FAILED_PRECONDITION` and any detail mentioning "not found".  So a failure unrelated to the
user, a missing inbound handler reported as "does not exist", say, is answered `False` with
the table unchanged.  Against a proxy that keeps a set and reports exactly the no-ops that way,
the two methods are the set operations.
-/

namespace XrayBackend.Client

open XrayBackend.Proto

/-! ## What a call does to the table -/

/-- The outcome of `add_user` or `remove_user` depends on how its wait ended and how it was
answered, not on the state it runs in. -/
theorem fst_changeUserStep (w : World) (stub : XrayClient → Option String)
    (request : XrayClient → String → Option Bytes) (benign : RpcError → Bool)
    (uuid : String) (wait : ReadyOutcome) (reply : RpcOutcome) :
    (changeUserStep w stub request benign uuid wait reply).1 =
      match wait.raises with
      | some e => .error e
      | none => match reply with
        | .ack => .ok (some true)
        | .fail e => if benign e then .ok (some false) else .error ⟨e.message⟩ := by
  unfold changeUserStep
  cases wait.raises <;> cases reply <;> rfl

/-- `add_user` or `remove_user` sends one request when its wait succeeds, through the method's
stub on the client `start` leaves, and none otherwise. -/
theorem sentRequests_changeUserStep (w : World) (stub : XrayClient → Option String)
    (request : XrayClient → String → Option Bytes) (benign : RpcError → Bool) (uuid : String)
    (wait : ReadyOutcome) (reply : RpcOutcome) :
    sentRequests (changeUserStep w stub request benign uuid wait reply).2.events =
      (if wait = .ready then [(stub w.client.started, request w.client.started uuid)] else []) ++
        sentRequests w.events := by
  unfold changeUserStep
  cases wait <;> cases reply <;>
    simp [ReadyOutcome.raises, Event.sentRequest, afterWait_client]

/-- A call that is not answered after a successful wait leaves the table as it was. -/
theorem users_changeUserStep_of_not_ack (w : World) (stub : XrayClient → Option String)
    (request : XrayClient → String → Option Bytes) (benign : RpcError → Bool) (uuid : String)
    {wait : ReadyOutcome} {reply : RpcOutcome} (h : ¬(wait = .ready ∧ reply = .ack)) :
    (changeUserStep w stub request benign uuid wait reply).2.users = w.users := by
  unfold changeUserStep
  cases wait <;> cases reply <;> simp_all [ReadyOutcome.raises]

/-- An answered call after a successful wait is applied as the proxy reads the request that
went out through the stub of the client `start` leaves. -/
theorem users_changeUserStep_ack (w : World) (stub : XrayClient → Option String)
    (request : XrayClient → String → Option Bytes) (benign : RpcError → Bool) (uuid : String) :
    (changeUserStep w stub request benign uuid .ready .ack).2.users =
      applyChange w.client.inboundTag w.users
        (proxyChange (stub w.client.started) (request w.client.started uuid)) := by
  simp [changeUserStep, ReadyOutcome.raises, World.received, afterWait_client]

section Reaches

variable {w : World} (hw : w.client.ReachesHandler) (uuid : String) (wait : ReadyOutcome)
  (reply : RpcOutcome)
include hw

/-- On a client whose calls reach the handler, `add_user(uuid)` puts `uuid` in the inbound when
its wait succeeds and the call is answered, and otherwise leaves the table as it was. -/
theorem users_step_addUser :
    (step w (.addUser uuid wait reply)).2.users =
      if wait = .ready ∧ reply = .ack then Function.update w.users uuid true else w.users := by
  rw [step_addUser]
  split_ifs with hr
  · obtain ⟨rfl, rfl⟩ := hr
    rw [users_changeUserStep_ack, hw.started_stubs.1, proxyChange_addUser]
    simp [applyChange]
  · exact users_changeUserStep_of_not_ack _ _ _ _ _ hr

/-- On a client whose calls reach the handler, `remove_user(uuid)` takes `uuid` out of the
inbound when its wait succeeds and the call is answered, and otherwise leaves the table. -/
theorem users_step_removeUser :
    (step w (.removeUser uuid wait reply)).2.users =
      if wait = .ready ∧ reply = .ack then Function.update w.users uuid false else w.users := by
  rw [step_removeUser]
  split_ifs with hr
  · obtain ⟨rfl, rfl⟩ := hr
    rw [users_changeUserStep_ack, hw.started_stubs.2, proxyChange_removeUser]
    simp [applyChange]
  · exact users_changeUserStep_of_not_ack _ _ _ _ _ hr

end Reaches

/-! ## A failure whose text matches is answered `False` -/

/-- The proxy may answer a call on an absent user with a failure unrelated to the user whose
detail says the inbound's handler "does not exist": `add_user` then returns `False` with the
user still absent.  Likewise a `remove_user` on a present user that fails with a detail saying
the handler was "not found" returns `False` with the user still present. -/
theorem changeUser_benign_text_hides_failure :
    (RpcOutcome.fail ⟨.unavailable, some "inbound handler does not exist", ""⟩).Allowed false ∧
      (step (World.init startupClient fun _ => false)
        (.addUser "u" .ready (.fail ⟨.unavailable, some "inbound handler does not exist", ""⟩))).1 =
        .ok (some false) ∧
      (step (World.init startupClient fun _ => false)
        (.addUser "u" .ready
          (.fail ⟨.unavailable, some "inbound handler does not exist", ""⟩))).2.users "u" = false ∧
    (RpcOutcome.fail ⟨.unknown, some "inbound handler not found", ""⟩).Allowed true ∧
      (step (World.init startupClient fun _ => true)
        (.removeUser "u" .ready (.fail ⟨.unknown, some "inbound handler not found", ""⟩))).1 =
        .ok (some false) ∧
      (step (World.init startupClient fun _ => true)
        (.removeUser "u" .ready (.fail ⟨.unknown, some "inbound handler not found", ""⟩))).2.users
        "u" = true :=
  ⟨by decide, rfl, rfl, by decide, rfl, rfl⟩

/-! ## Against a proxy that keeps a set

The service means `add_user` and `remove_user` as operations on a set of users that answer
whether they changed it.  Against a proxy that acknowledges exactly the calls that change its
table and reports every other one as "already exists" or "not found", by status code or by
detail, a sequence of these calls whose readiness waits succeed is that set model: the same
answers, the same final table. -/

/-- An operation on the set of users, as the service means `add_user` and `remove_user`. -/
inductive SetOp
  | add (uuid : String)
  | remove (uuid : String)
  deriving DecidableEq, Repr

namespace SetOp

/-- The user an operation is about. -/
def uuid : SetOp → String
  | .add u | .remove u => u

/-- Whether the operation leaves its user in the set. -/
def adding : SetOp → Bool
  | .add _ => true
  | .remove _ => false

/-- The set model: an operation puts its user in or out, and answers whether that changed the
set. -/
def apply (s : String → Bool) (op : SetOp) : Bool × (String → Bool) :=
  (s op.uuid != op.adding, Function.update s op.uuid op.adding)

/-- Operations one after another: their answers and the final set. -/
def applyAll (s : String → Bool) : List SetOp → List Bool × (String → Bool)
  | [] => ([], s)
  | op :: ops =>
    ((op.apply s).1 :: (applyAll (op.apply s).2 ops).1, (applyAll (op.apply s).2 ops).2)

/-- The client's call for an operation, its readiness wait succeeding and the proxy answering
`reply`. -/
def call : SetOp → RpcOutcome → Call
  | .add u, reply => .addUser u .ready reply
  | .remove u, reply => .removeUser u .ready reply

/-- The failures the operation's method answers `False` for. -/
def benign : SetOp → RpcError → Bool
  | .add _ => addUserBenign
  | .remove _ => removeUserBenign

end SetOp

/-- How a proxy reports that a call would not change its table: "already exists" for an
addition, "not found" or a failed precondition for a removal, by status code or by detail. -/
def RpcError.SignalsNoOp : Bool → RpcError → Prop
  | true, e => e.code = .alreadyExists ∨ PyStr.lowerContains "exist" e.detailText = true
  | false, e => e.code = .notFound ∨ e.code = .failedPrecondition ∨
      PyStr.lowerContains "not found" e.detailText = true

instance : (adding : Bool) → DecidablePred (RpcError.SignalsNoOp adding)
  | true, _ => inferInstanceAs (Decidable (_ ∨ _))
  | false, _ => inferInstanceAs (Decidable (_ ∨ _ ∨ _))

/-- A reply from a proxy that keeps the inbound's users as a set, to a call that sets a user's
membership to `adding` while it is `cur`: acknowledged exactly when the call changes the table,
otherwise reported as a no-op. -/
def RpcOutcome.SetLike (adding cur : Bool) : RpcOutcome → Prop
  | .ack => cur ≠ adding
  | .fail e => cur = adding ∧ e.SignalsNoOp adding

instance (adding cur : Bool) : DecidablePred (RpcOutcome.SetLike adding cur)
  | .ack => inferInstanceAs (Decidable (cur ≠ adding))
  | .fail e => inferInstanceAs (Decidable (cur = adding ∧ e.SignalsNoOp adding))

namespace SetOp

/-- Replies a set-keeping proxy may give to the operations in turn, its table following the
model. -/
def Replies : (String → Bool) → List SetOp → List RpcOutcome → Prop
  | _, [], [] => True
  | s, op :: ops, r :: rs => r.SetLike op.adding (s op.uuid) ∧ Replies (op.apply s).2 ops rs
  | _, _, _ => False

instance decReplies : (s : String → Bool) → (ops : List SetOp) → (rs : List RpcOutcome) →
    Decidable (Replies s ops rs)
  | _, [], [] => isTrue trivial
  | s, op :: ops, _ :: rs =>
    haveI := decReplies (op.apply s).2 ops rs
    inferInstanceAs (Decidable (_ ∧ _))
  | _, [], _ :: _ => isFalse id
  | _, _ :: _, [] => isFalse id

/-- The benign test of the method an operation calls accepts exactly what the proxy reports a
no-op with. -/
theorem benign_iff_signalsNoOp (e : RpcError) :
    (addUserBenign e = true ↔ e.SignalsNoOp true) ∧
      (removeUserBenign e = true ↔ e.SignalsNoOp false) := by
  simp [addUserBenign, removeUserBenign, RpcError.SignalsNoOp, or_assoc]

/-- The table after an operation's call whose wait succeeds: the user put in or taken out when
the call is answered, the table kept when it fails. -/
theorem users_step_call {w : World} (hw : w.client.ReachesHandler) (op : SetOp)
    (r : RpcOutcome) :
    (step w (op.call r)).2.users =
      if r = .ack then Function.update w.users op.uuid op.adding else w.users := by
  cases op <;> simp [call, users_step_addUser hw, users_step_removeUser hw, uuid, adding]

/-- Against a set-keeping proxy, one call whose wait succeeds, on a client whose calls reach the
handler, is the model's operation. -/
theorem step_call {w : World} (hw : w.client.ReachesHandler) {op : SetOp} {r : RpcOutcome}
    (h : r.SetLike op.adding (w.users op.uuid)) :
    (step w (op.call r)).1 = .ok (some (op.apply w.users).1) ∧
      (step w (op.call r)).2.users = (op.apply w.users).2 := by
  have hres : ∀ r, (step w (op.call r)).1 = match r with
      | .ack => .ok (some true)
      | .fail e => if op.benign e then .ok (some false) else .error ⟨e.message⟩ := by
    intro r
    cases op <;> simp only [call, step_addUser, step_removeUser, fst_changeUserStep] <;> rfl
  rw [hres, users_step_call hw]
  cases r with
  | ack =>
    -- the call changes the table, and is answered `True`
    simpa [apply, RpcOutcome.SetLike] using h
  | fail e =>
    -- the proxy reports a no-op, which the method answers `False`, the table kept
    obtain ⟨hcur, hsig⟩ := h
    have hb : op.benign e = true := by
      cases op <;> simpa [benign, adding, benign_iff_signalsNoOp e] using hsig
    simp [hb, apply, hcur, Function.update_eq_self]

/-- A sequence of `add_user` and `remove_user` calls whose readiness waits succeed, on a client
whose calls reach the handler, against a proxy that keeps the inbound's users as a set, is the
set model: each call answers whether it changed the set, none raises, and the table ends as the
model's set; with or without a channel to begin with. -/
theorem run_refines_setModel (w : World) (hw : w.client.ReachesHandler) (ops : List SetOp)
    (replies : List RpcOutcome) (h : Replies w.users ops replies) :
    (run w (List.zipWith call ops replies)).1 = (applyAll w.users ops).1.map (.ok ∘ some) ∧
      (run w (List.zipWith call ops replies)).2.users = (applyAll w.users ops).2 := by
  induction ops generalizing w replies with
  | nil => cases replies <;> simp_all [Replies, run, applyAll]
  | cons op ops ih =>
    cases replies with
    | nil => exact h.elim
    | cons r rs =>
      obtain ⟨hr, hrest⟩ := h
      obtain ⟨h1, h2⟩ := step_call hw hr
      obtain ⟨ih1, ih2⟩ := ih (step w (op.call r)).2 (reachesHandler_step hw _) rs
        (by rwa [h2])
      rw [h2] at ih1 ih2
      simp only [List.zipWith_cons_cons, run, applyAll, List.map_cons, h1, ih1, ih2, and_true]
      rfl

theorem run_refines_setModel_add_twice :
    let w := World.init startupClient fun _ => false
    let ops := [SetOp.add "u", .add "u"]
    let replies := [RpcOutcome.ack, .fail ⟨.unknown, some "User u already exists.", ""⟩]
    w.client.ReachesHandler ∧ Replies w.users ops replies ∧
    (run w (List.zipWith call ops replies)).1 = (applyAll w.users ops).1.map (.ok ∘ some) ∧
      (run w (List.zipWith call ops replies)).2.users = (applyAll w.users ops).2 :=
  ⟨.of_fresh rfl rfl, by decide, run_refines_setModel _ (.of_fresh rfl rfl) _ _ (by decide)⟩

/-- In the model, adding a user twice answers `True` then `False`, and removing a user never
added answers `False`. -/
example :
    (applyAll (fun _ => false) [.add "u", .add "u", .remove "v"]).1 = [true, false, false] := by
  decide

end SetOp

end XrayBackend.Client
