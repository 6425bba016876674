import XrayBackend.Proto.Registry

/-!
# Message objects, their serialization, and the §6 layout

The client fills message objects field by field and hands them to the runtime's
`SerializeToString`, which writes every field that has been set (the schemas are proto2, so
a field set to `0` or `""` is written too) in the order of the message's descriptor, each
under the number and with the wire form its descriptor gives.  A message object is modelled
as a structure of optional fields, `none` where the code never assigns the field.

The other side is the layout the proxy expects (§6 of the specification): field numbers
and types fixed by the external contract.  `parseAccount` and its siblings read bytes with
that layout, with the runtime's rules: unknown fields are skipped, the last occurrence of a
scalar wins, occurrences of an embedded message merge, and absent fields read as defaults.
-/

namespace XrayBackend.Proto

/-- A value assigned to a field of a message object; an embedded message is held already
serialized. -/
inductive FieldValue
  | string (s : String)
  | uint32 (n : Nat)
  | bytes (b : Bytes)
  | message (b : Bytes)
  deriving DecidableEq, Repr

/-- One set field on the wire, by its descriptor; `none` when the value does not fit the
field's type (a `uint32` must lie below `2^32 = 4294967296`). -/
def encodeValue (fd : FieldDescriptorProto) : FieldValue → Option (Nat × WireValue)
  | .string s => if fd.type = .string then some (fd.number, .len (utf8Encode s)) else none
  | .uint32 n => if fd.type = .uint32 ∧ n < 4294967296 then some (fd.number, .varint n) else none
  | .bytes b => if fd.type = .bytes then some (fd.number, .len b) else none
  | .message b => if fd.type = .message then some (fd.number, .len b) else none

/-- Every value of the list, or `none` when one is missing. -/
def allSome {α : Type} : List (Option α) → Option (List α)
  | [] => some []
  | none :: _ => none
  | some a :: as => (allSome as).map (a :: ·)

/-- `SerializeToString` of a message of descriptor `d` whose set fields are read by `get`:
the set fields, in the order `d` declares them. -/
def serializeWith (d : DescriptorProto) (get : String → Option FieldValue) : Option Bytes :=
  (allSome (d.field.filterMap fun fd => (get fd.name).map (encodeValue fd))).map encodeFields

/-- `xray.proxy.vless.Account`. -/
structure Account where
  id : Option String
  flow : Option String
  encryption : Option String
  deriving DecidableEq, Repr

/-- `google.protobuf.Any`. -/
structure AnyMessage where
  typeUrl : Option String
  value : Option Bytes
  deriving DecidableEq, Repr

/-- `xray.common.protocol.User`. -/
structure User where
  email : Option String
  level : Option Nat
  alterId : Option Nat
  account : Option AnyMessage
  deriving DecidableEq, Repr

/-- `xray.app.proxyman.command.AddUserRequest`. -/
structure AddUserRequest where
  tag : Option String
  user : Option User
  deriving DecidableEq, Repr

/-- `xray.app.proxyman.command.RemoveUserRequest`. -/
structure RemoveUserRequest where
  tag : Option String
  email : Option String
  deriving DecidableEq, Repr

section Serialize

variable (pool : DescriptorPool)

/-- `Account.SerializeToString()` under the pool's descriptor. -/
def serializeAccount (a : Account) : Option Bytes := do
  let d ← pool.findMessageTypeByName "xray.proxy.vless.Account"
  serializeWith d fun
    | "id" => a.id.map .string
    | "flow" => a.flow.map .string
    | "encryption" => a.encryption.map .string
    | _ => none

/-- `Any.SerializeToString()` under the pool's descriptor. -/
def serializeAny (m : AnyMessage) : Option Bytes := do
  let d ← pool.findMessageTypeByName "google.protobuf.Any"
  serializeWith d fun
    | "type_url" => m.typeUrl.map .string
    | "value" => m.value.map .bytes
    | _ => none

/-- `User.SerializeToString()` under the pool's descriptors. -/
def serializeUser (u : User) : Option Bytes := do
  let d ← pool.findMessageTypeByName "xray.common.protocol.User"
  let account ← u.account.mapM (serializeAny pool)
  serializeWith d fun
    | "email" => u.email.map .string
    | "level" => u.level.map .uint32
    | "alter_id" => u.alterId.map .uint32
    | "account" => account.map .message
    | _ => none

/-- `AddUserRequest.SerializeToString`, the stub's `request_serializer`. -/
def serializeAddUserRequest (r : AddUserRequest) : Option Bytes := do
  let d ← pool.findMessageTypeByName "xray.app.proxyman.command.AddUserRequest"
  let user ← r.user.mapM (serializeUser pool)
  serializeWith d fun
    | "tag" => r.tag.map .string
    | "user" => user.map .message
    | _ => none

/-- `RemoveUserRequest.SerializeToString`, the stub's `request_serializer`. -/
def serializeRemoveUserRequest (r : RemoveUserRequest) : Option Bytes := do
  let d ← pool.findMessageTypeByName "xray.app.proxyman.command.RemoveUserRequest"
  serializeWith d fun
    | "tag" => r.tag.map .string
    | "email" => r.email.map .string
    | _ => none

end Serialize

/-! ## The §6 layout -/

/-- The payload of the last length-delimited occurrence of field `n`. -/
def lastLen (fs : List (Nat × WireValue)) (n : Nat) : Option Bytes :=
  fs.foldl (fun acc f => match f with
    | (m, .len b) => if m = n then some b else acc
    | _ => acc) none

/-- The last varint occurrence of field `n`. -/
def lastVarint (fs : List (Nat × WireValue)) (n : Nat) : Option Nat :=
  fs.foldl (fun acc f => match f with
    | (m, .varint v) => if m = n then some v else acc
    | _ => acc) none

/-- A string field: `""` when absent, `none` when its bytes are not UTF-8. -/
def stringField (fs : List (Nat × WireValue)) (n : Nat) : Option String :=
  match lastLen fs n with
  | none => some ""
  | some b => (utf8Decode b).map String.mk

/-- A `uint32` field: `0` when absent, truncated to 32 bits (modulo `2^32 = 4294967296`). -/
def uint32Field (fs : List (Nat × WireValue)) (n : Nat) : Nat :=
  (lastVarint fs n).getD 0 % 4294967296

/-- An embedded message field: the concatenated payloads of its occurrences, which parse as
their merge; `none` when absent. -/
def messageField (fs : List (Nat × WireValue)) (n : Nat) : Option Bytes :=
  match fs.filterMap (fun f => match f with
      | (m, .len b) => if m = n then some b else none
      | _ => none) with
  | [] => none
  | bs => some bs.flatten

/-- `Account` as §6 lays it out: 1 `id`, 2 `flow`, 3 `encryption`. -/
structure AccountLayout where
  id : String
  flow : String
  encryption : String
  deriving DecidableEq, Repr

/-- The type-tagged payload: 1 `type_url`, 2 `value`. -/
structure AnyLayout where
  typeUrl : String
  value : Bytes
  deriving DecidableEq, Repr

/-- `UserRecord`: 1 `email`, 2 `level`, 3 `alterId`, 4 `account`. -/
structure UserLayout where
  email : String
  level : Nat
  alterId : Nat
  account : Option AnyLayout
  deriving DecidableEq, Repr

/-- `AddUserRequest`: 1 `tag`, 2 `user`. -/
structure AddUserRequestLayout where
  tag : String
  user : Option UserLayout
  deriving DecidableEq, Repr

/-- `RemoveUserRequest`: 1 `tag`, 2 `email`. -/
structure RemoveUserRequestLayout where
  tag : String
  email : String
  deriving DecidableEq, Repr

def parseAccount (bs : Bytes) : Option AccountLayout := do
  let fs ← decodeFields bs
  pure ⟨← stringField fs 1, ← stringField fs 2, ← stringField fs 3⟩

def parseAny (bs : Bytes) : Option AnyLayout := do
  let fs ← decodeFields bs
  pure ⟨← stringField fs 1, (lastLen fs 2).getD []⟩

def parseUser (bs : Bytes) : Option UserLayout := do
  let fs ← decodeFields bs
  pure ⟨← stringField fs 1, uint32Field fs 2, uint32Field fs 3, ← (messageField fs 4).mapM parseAny⟩

def parseAddUserRequest (bs : Bytes) : Option AddUserRequestLayout := do
  let fs ← decodeFields bs
  pure ⟨← stringField fs 1, ← (messageField fs 2).mapM parseUser⟩

def parseRemoveUserRequest (bs : Bytes) : Option RemoveUserRequestLayout := do
  let fs ← decodeFields bs
  pure ⟨← stringField fs 1, ← stringField fs 2⟩

/-! ## What the serializers read of the pool -/

/-- Two pools that resolve the five names the serializers look up to the same descriptors. -/
structure SameMessages (p q : DescriptorPool) : Prop where
  account : p.findMessageTypeByName "xray.proxy.vless.Account" =
    q.findMessageTypeByName "xray.proxy.vless.Account"
  any : p.findMessageTypeByName "google.protobuf.Any" =
    q.findMessageTypeByName "google.protobuf.Any"
  user : p.findMessageTypeByName "xray.common.protocol.User" =
    q.findMessageTypeByName "xray.common.protocol.User"
  addUserRequest : p.findMessageTypeByName "xray.app.proxyman.command.AddUserRequest" =
    q.findMessageTypeByName "xray.app.proxyman.command.AddUserRequest"
  removeUserRequest : p.findMessageTypeByName "xray.app.proxyman.command.RemoveUserRequest" =
    q.findMessageTypeByName "xray.app.proxyman.command.RemoveUserRequest"

section SameMessages

variable {p q : DescriptorPool} (h : SameMessages p q)
include h

theorem serializeAccount_congr : serializeAccount p = serializeAccount q := by
  funext a
  simp only [serializeAccount, h.account]

theorem serializeAny_congr : serializeAny p = serializeAny q := by
  funext m
  simp only [serializeAny, h.any]

theorem serializeUser_congr : serializeUser p = serializeUser q := by
  funext u
  simp only [serializeUser, h.user, serializeAny_congr h]

theorem serializeAddUserRequest_congr : serializeAddUserRequest p = serializeAddUserRequest q := by
  funext r
  simp only [serializeAddUserRequest, h.addUserRequest, serializeUser_congr h]

theorem serializeRemoveUserRequest_congr :
    serializeRemoveUserRequest p = serializeRemoveUserRequest q := by
  funext r
  simp only [serializeRemoveUserRequest, h.removeUserRequest]

end SameMessages

/-- Registration on a fresh pool leaves the serializers reading what they read in the
registered default pool. -/
theorem sameMessages_fresh {pool : DescriptorPool} (h : Fresh pool) :
    SameMessages ⟨pool.files ++ handBuiltFiles⟩ registeredPool where
  account :=
    (findMessageTypeByName_registered_fresh h (by decide : accountFile ∈ handBuiltFiles)
      (by decide)).1
  any := findMessageTypeByName_registered_fresh_any h
  user :=
    (findMessageTypeByName_registered_fresh h (by decide : userFile ∈ handBuiltFiles)
      (by decide)).1
  addUserRequest :=
    (findMessageTypeByName_registered_fresh h (by decide : handlerFile ∈ handBuiltFiles)
      (by decide)).1
  removeUserRequest :=
    (findMessageTypeByName_registered_fresh h (by decide : handlerFile ∈ handBuiltFiles)
      (by decide)).1


end XrayBackend.Proto
