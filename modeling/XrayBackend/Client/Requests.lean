import XrayBackend.Client.Target
import XrayBackend.Proto.Messages

/-!
# The requests the client sends (`app/xray_client.py`)

`add_user` fills a `User` with `email = uuid`, `level = 0`, `alter_id = 0` and the account
`_build_account_any` packs into an `Any`, wraps it in an `AddUserRequest` under the
client's inbound tag, and hands it to the stub, whose serializer is
`AddUserRequest.SerializeToString`; `remove_user` sends `RemoveUserRequest{tag, email}`.
Messages are built and serialized with the descriptors registered at import time.

The main result reads those bytes back with the layout the proxy expects and finds exactly
the values the code put in, for every identifier, tag, flow, encryption and type URL.
-/

namespace XrayBackend.Client

open XrayBackend.Proto

/-- `_build_account_any(uuid)`: the account, packed under the type URL prefix, with the type
URL then overridden by the client's when it has one. -/
def XrayClient.buildAccountAny (c : XrayClient) (pool : DescriptorPool) (uuid : String) :
    Option AnyMessage := do
  let account : Account :=
    ⟨some uuid, if c.flow ≠ "" then some c.flow else none,
      if c.encryption ≠ "" then some c.encryption else none⟩
  let value ← serializeAccount pool account
  let packed : AnyMessage :=
    ⟨some ("type.googleapis.com" ++ "/" ++ "xray.proxy.vless.Account"), some value⟩
  pure (if c.accountTypeUrl ≠ "" then { packed with typeUrl := some c.accountTypeUrl } else packed)

/-- The request `add_user(uuid)` builds. -/
def XrayClient.addUserRequest (c : XrayClient) (pool : DescriptorPool) (uuid : String) :
    Option AddUserRequest := do
  let account ← c.buildAccountAny pool uuid
  pure ⟨some c.inboundTag, some ⟨some uuid, some 0, some 0, some account⟩⟩

/-- The request `remove_user(uuid)` builds. -/
def XrayClient.removeUserRequest (c : XrayClient) (uuid : String) : RemoveUserRequest :=
  ⟨some c.inboundTag, some uuid⟩

/-- The bytes `add_user(uuid)` sends, under the descriptors registered at import. -/
def XrayClient.addUserBytes (c : XrayClient) (uuid : String) : Option Bytes :=
  (c.addUserRequest registeredPool uuid).bind (serializeAddUserRequest registeredPool)

/-- The bytes `remove_user(uuid)` sends, under the descriptors registered at import. -/
def XrayClient.removeUserBytes (c : XrayClient) (uuid : String) : Option Bytes :=
  serializeRemoveUserRequest registeredPool (c.removeUserRequest uuid)

/-! ## Serialization under the registered descriptors -/

/-- A string field on the wire. -/
def strField (n : Nat) (s : String) : Nat × WireValue := (n, .len (utf8Encode s))

theorem serializeAccount_registered (id : String) (flow encryption : Option String) :
    serializeAccount registeredPool ⟨some id, flow, encryption⟩ =
      some (encodeFields ([strField 1 id] ++ (flow.map (strField 2)).toList ++
        (encryption.map (strField 3)).toList)) := by
  have hd : registeredPool.findMessageTypeByName "xray.proxy.vless.Account" =
      some ⟨"Account", [scalarField "id" 1 .string, scalarField "flow" 2 .string,
        scalarField "encryption" 3 .string]⟩ := rfl
  cases flow <;> cases encryption <;>
    simp [serializeAccount, hd, serializeWith, encodeValue, scalarField, strField, allSome]

theorem serializeAny_registered (typeUrl : String) (value : Bytes) :
    serializeAny registeredPool ⟨some typeUrl, some value⟩ =
      some (encodeFields [strField 1 typeUrl, (2, .len value)]) := by
  have hd : registeredPool.findMessageTypeByName "google.protobuf.Any" =
      some ⟨"Any", [scalarField "type_url" 1 .string, scalarField "value" 2 .bytes]⟩ := rfl
  simp [serializeAny, hd, serializeWith, encodeValue, scalarField, strField, allSome]

@[simp] theorem optionMapM_some {α β : Type} (f : α → Option β) (a : α) :
    Option.mapM f (some a) = (f a).map some := by
  cases h : f a <;> simp [Option.mapM, h]

theorem serializeUser_registered (email : String) {a : AnyMessage} {ab : Bytes}
    (ha : serializeAny registeredPool a = some ab) :
    serializeUser registeredPool ⟨some email, some 0, some 0, some a⟩ =
      some (encodeFields [strField 1 email, (2, .varint 0), (3, .varint 0), (4, .len ab)]) := by
  have hd : registeredPool.findMessageTypeByName "xray.common.protocol.User" =
      some ⟨"User", [scalarField "email" 1 .string, scalarField "level" 2 .uint32,
        scalarField "alter_id" 3 .uint32, ⟨"account", 4, .message, ".google.protobuf.Any"⟩]⟩ := rfl
  simp [serializeUser, hd, optionMapM_some, ha, serializeWith, encodeValue, scalarField, strField,
    allSome]

theorem serializeAddUserRequest_registered (tag : String) {u : User} {ub : Bytes}
    (hu : serializeUser registeredPool u = some ub) :
    serializeAddUserRequest registeredPool ⟨some tag, some u⟩ =
      some (encodeFields [strField 1 tag, (2, .len ub)]) := by
  have hd : registeredPool.findMessageTypeByName "xray.app.proxyman.command.AddUserRequest" =
      some ⟨"AddUserRequest", [scalarField "tag" 1 .string,
        ⟨"user", 2, .message, ".xray.common.protocol.User"⟩]⟩ := rfl
  simp [serializeAddUserRequest, hd, optionMapM_some, hu, serializeWith, encodeValue, scalarField,
    strField, allSome]

theorem serializeRemoveUserRequest_registered (tag email : String) :
    serializeRemoveUserRequest registeredPool ⟨some tag, some email⟩ =
      some (encodeFields [strField 1 tag, strField 2 email]) := by
  have hd : registeredPool.findMessageTypeByName "xray.app.proxyman.command.RemoveUserRequest" =
      some ⟨"RemoveUserRequest", [scalarField "tag" 1 .string, scalarField "email" 2 .string]⟩ :=
    rfl
  simp [serializeRemoveUserRequest, hd, serializeWith, encodeValue, scalarField, strField, allSome]

/-! ## Reading the bytes back with the §6 layout -/

theorem decodeFields_encodeFields_of_len_varint {fs : List (Nat × WireValue)}
    (hfs : ∀ f ∈ fs, 0 < f.1 ∧ (∃ b, f.2 = .len b) ∨ 0 < f.1 ∧ ∃ n, f.2 = .varint n) :
    decodeFields (encodeFields fs) = some fs := by
  apply decodeFields_encodeFields
  intro f hf
  rcases hfs f hf with ⟨h, b, hb⟩ | ⟨h, n, hb⟩ <;> exact ⟨h, by rw [hb]; trivial⟩

theorem parseAccount_encode (id : String) (flow encryption : Option String) :
    parseAccount (encodeFields ([strField 1 id] ++ (flow.map (strField 2)).toList ++
      (encryption.map (strField 3)).toList)) = some ⟨id, flow.getD "", encryption.getD ""⟩ := by
  have hd : decodeFields (encodeFields ([strField 1 id] ++ (flow.map (strField 2)).toList ++
      (encryption.map (strField 3)).toList)) = some ([strField 1 id] ++
        (flow.map (strField 2)).toList ++ (encryption.map (strField 3)).toList) := by
    refine decodeFields_encodeFields_of_len_varint fun f hf => .inl ?_
    simp only [List.mem_append, List.mem_singleton, Option.mem_toList, Option.mem_def,
      Option.map_eq_some'] at hf
    rcases hf with (rfl | ⟨_, -, rfl⟩) | ⟨_, -, rfl⟩ <;> exact ⟨Nat.succ_pos _, _, rfl⟩
  simp only [parseAccount, hd, Option.bind_eq_bind, Option.some_bind]
  cases flow <;> cases encryption <;> simp [strField, stringField, lastLen, utf8Decode_utf8Encode]

theorem parseAny_encode (typeUrl : String) (value : Bytes) :
    parseAny (encodeFields [strField 1 typeUrl, (2, .len value)]) = some ⟨typeUrl, value⟩ := by
  have hd : decodeFields (encodeFields [strField 1 typeUrl, (2, .len value)]) =
      some [strField 1 typeUrl, (2, .len value)] :=
    decodeFields_encodeFields_of_len_varint (by simp [strField])
  simp only [parseAny, hd, Option.bind_eq_bind, Option.some_bind]
  simp [strField, stringField, lastLen, utf8Decode_utf8Encode]

theorem parseUser_encode (email : String) {ab : Bytes} {a : AnyLayout} (ha : parseAny ab = some a) :
    parseUser (encodeFields [strField 1 email, (2, .varint 0), (3, .varint 0), (4, .len ab)]) =
      some ⟨email, 0, 0, some a⟩ := by
  have hd : decodeFields (encodeFields [strField 1 email, (2, .varint 0), (3, .varint 0),
      (4, .len ab)]) = some [strField 1 email, (2, .varint 0), (3, .varint 0), (4, .len ab)] :=
    decodeFields_encodeFields_of_len_varint (by simp [strField])
  simp only [parseUser, hd, Option.bind_eq_bind, Option.some_bind]
  simp [strField, stringField, lastLen, utf8Decode_utf8Encode, uint32Field, lastVarint,
    messageField, ha]

theorem parseAddUserRequest_encode (tag : String) {ub : Bytes} {u : UserLayout}
    (hu : parseUser ub = some u) :
    parseAddUserRequest (encodeFields [strField 1 tag, (2, .len ub)]) = some ⟨tag, some u⟩ := by
  have hd : decodeFields (encodeFields [strField 1 tag, (2, .len ub)]) =
      some [strField 1 tag, (2, .len ub)] :=
    decodeFields_encodeFields_of_len_varint (by simp [strField])
  simp only [parseAddUserRequest, hd, Option.bind_eq_bind, Option.some_bind]
  simp [strField, stringField, lastLen, utf8Decode_utf8Encode, messageField, hu]

theorem parseRemoveUserRequest_encode (tag email : String) :
    parseRemoveUserRequest (encodeFields [strField 1 tag, strField 2 email]) =
      some ⟨tag, email⟩ := by
  have hd : decodeFields (encodeFields [strField 1 tag, strField 2 email]) =
      some [strField 1 tag, strField 2 email] :=
    decodeFields_encodeFields_of_len_varint (by simp [strField])
  simp only [parseRemoveUserRequest, hd, Option.bind_eq_bind, Option.some_bind]
  simp [strField, stringField, lastLen, utf8Decode_utf8Encode]

/-- For every client, the bytes `add_user(uuid)` sends read back (§6) as an `AddUserRequest`
under its inbound tag for the user `uuid`, level 0, alter id 0, with an account payload under
its type URL (the VLESS one when it has none) that reads back with its flow and encryption. -/
theorem addUserBytes_parse (c : XrayClient) (uuid : String) :
    ∃ bytes value, c.addUserBytes uuid = some bytes ∧
      parseAddUserRequest bytes = some ⟨c.inboundTag, some ⟨uuid, 0, 0,
        some ⟨if c.accountTypeUrl = "" then accountTypeUrl else c.accountTypeUrl, value⟩⟩⟩ ∧
      parseAccount value = some ⟨uuid, c.flow, c.encryption⟩ := by
  let flowField := if c.flow ≠ "" then some c.flow else none
  let encField := if c.encryption ≠ "" then some c.encryption else none
  let value := encodeFields ([strField 1 uuid] ++ (flowField.map (strField 2)).toList ++
    (encField.map (strField 3)).toList)
  let url := if c.accountTypeUrl = "" then accountTypeUrl else c.accountTypeUrl
  have hbuild : c.buildAccountAny registeredPool uuid = some ⟨some url, some value⟩ := by
    simp only [XrayClient.buildAccountAny, serializeAccount_registered]
    by_cases hu : c.accountTypeUrl = "" <;>
      simp [url, hu, accountTypeUrl, value, flowField, encField]
  refine ⟨_, value, ?_, parseAddUserRequest_encode _ (parseUser_encode uuid
    (parseAny_encode url value)), ?_⟩
  · simp only [XrayClient.addUserBytes, XrayClient.addUserRequest, hbuild, Option.bind_eq_bind,
      Option.some_bind, Option.pure_def]
    rw [serializeAddUserRequest_registered _
      (serializeUser_registered uuid (serializeAny_registered url value))]
  · rw [parseAccount_encode]
    by_cases hf : c.flow = "" <;> by_cases he : c.encryption = "" <;>
      simp [flowField, encField, hf, he]

/-- For every client, the bytes `remove_user(uuid)` sends read back as `RemoveUserRequest`
under its inbound tag for the email `uuid`. -/
theorem removeUserBytes_parse (c : XrayClient) (uuid : String) :
    ∃ bytes, c.removeUserBytes uuid = some bytes ∧
      parseRemoveUserRequest bytes = some ⟨c.inboundTag, uuid⟩ :=
  ⟨_, serializeRemoveUserRequest_registered c.inboundTag uuid,
    parseRemoveUserRequest_encode c.inboundTag uuid⟩

/-- For every client configuration and identifier, the bytes `add_user` sends read back (§6) as
an `AddUserRequest` under the configured tag for the user with that email, level 0, alter id 0
and the configured type URL (the VLESS one by default), whose account reads back with the flow
and the encryption (`"none"` by default); those of `remove_user`, as `RemoveUserRequest`. -/
theorem addUser_request_wire_roundtrip {host : String} {port : Int}
    {tag typeUrl service flow encryption : String} {c : XrayClient}
    (hc : XrayClient.new host port tag typeUrl service flow encryption = .ok c)
    (uuid : String) :
    (∃ bytes value, c.addUserBytes uuid = some bytes ∧
      parseAddUserRequest bytes = some ⟨tag, some ⟨uuid, 0, 0,
        some ⟨if typeUrl = "" then accountTypeUrl else typeUrl, value⟩⟩⟩ ∧
      parseAccount value = some ⟨uuid, flow, if encryption = "" then "none" else encryption⟩) ∧
    (∃ bytes, c.removeUserBytes uuid = some bytes ∧
      parseRemoveUserRequest bytes = some ⟨tag, uuid⟩) := by
  obtain ⟨-, rfl⟩ := XrayClient.new_eq_ok hc
  exact ⟨addUserBytes_parse _ uuid, removeUserBytes_parse _ uuid⟩

theorem addUser_request_wire_roundtrip_loopback :
    ∃ c, XrayClient.new "127.0.0.1" 10085 "vless-reality" "" handlerService "" "" = .ok c ∧
      (∃ bytes value, c.addUserBytes "u" = some bytes ∧
        parseAddUserRequest bytes = some ⟨"vless-reality", some ⟨"u", 0, 0,
          some ⟨if "" = "" then accountTypeUrl else "", value⟩⟩⟩ ∧
        parseAccount value = some ⟨"u", "", if "" = "" then "none" else ""⟩) ∧
      (∃ bytes, c.removeUserBytes "u" = some bytes ∧
        parseRemoveUserRequest bytes = some ⟨"vless-reality", "u"⟩) :=
  have hc : XrayClient.new "127.0.0.1" 10085 "vless-reality" "" handlerService "" "" = .ok
      { target := "127.0.0.1" ++ ":" ++ intStr 10085, inboundTag := "vless-reality",
        accountTypeUrl := "", handlerService := handlerService, flow := "", encryption := "none",
        channel := none, addUserStub := none, removeUserStub := none } := rfl
  ⟨_, hc, addUser_request_wire_roundtrip hc "u"⟩

/-! ## On every runtime that has not loaded Xray's schemas -/

/-- On every pool that has loaded `Any` and nothing of Xray's, registration appends the three
hand-built files, the six messages the constructor looks up resolve to the registered default
pool's descriptors, and `add_user` and `remove_user` send the model's bytes for every client and
identifier. -/
theorem registration_on_fresh_pool {pool : DescriptorPool} (h : Fresh pool) :
    registerProtoDefinitions pool = .ok ⟨pool.files ++ handBuiltFiles⟩ ∧
      (∀ f ∈ handBuiltFiles, ∀ s ∈ DescriptorPool.symbols f, ∃ d,
        DescriptorPool.findMessageTypeByName ⟨pool.files ++ handBuiltFiles⟩ s = some d ∧
          registeredPool.findMessageTypeByName s = some d) ∧
      ∀ (c : XrayClient) (uuid : String),
        (c.addUserRequest ⟨pool.files ++ handBuiltFiles⟩ uuid).bind
            (serializeAddUserRequest ⟨pool.files ++ handBuiltFiles⟩) = c.addUserBytes uuid ∧
          serializeRemoveUserRequest ⟨pool.files ++ handBuiltFiles⟩ (c.removeUserRequest uuid) =
            c.removeUserBytes uuid := by
  have hsame := sameMessages_fresh h
  refine ⟨registerProtoDefinitions_fresh h, fun f hf s hs => ?_, fun c uuid => ⟨?_, ?_⟩⟩
  · obtain ⟨heq, hsome⟩ := findMessageTypeByName_registered_fresh h hf hs
    obtain ⟨d, hd⟩ := Option.isSome_iff_exists.mp hsome
    exact ⟨d, heq.trans hd, hd⟩
  · simp only [XrayClient.addUserBytes, XrayClient.addUserRequest, XrayClient.buildAccountAny,
      serializeAccount_congr hsame, serializeAddUserRequest_congr hsame]
  · rw [XrayClient.removeUserBytes, serializeRemoveUserRequest_congr hsame]

theorem registration_on_fresh_pool_default :
    Fresh defaultPool ∧
      registerProtoDefinitions defaultPool = .ok ⟨defaultPool.files ++ handBuiltFiles⟩ ∧
      (∀ f ∈ handBuiltFiles, ∀ s ∈ DescriptorPool.symbols f, ∃ d,
        DescriptorPool.findMessageTypeByName ⟨defaultPool.files ++ handBuiltFiles⟩ s = some d ∧
          registeredPool.findMessageTypeByName s = some d) ∧
      ∀ (c : XrayClient) (uuid : String),
        (c.addUserRequest ⟨defaultPool.files ++ handBuiltFiles⟩ uuid).bind
            (serializeAddUserRequest ⟨defaultPool.files ++ handBuiltFiles⟩) = c.addUserBytes uuid ∧
          serializeRemoveUserRequest ⟨defaultPool.files ++ handBuiltFiles⟩
            (c.removeUserRequest uuid) = c.removeUserBytes uuid :=
  ⟨fresh_defaultPool, registration_on_fresh_pool fresh_defaultPool⟩


end XrayBackend.Client
