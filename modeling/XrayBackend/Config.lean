import XrayBackend.Python.Builtins

/-!
# Application settings (`app/config.py`)

`Settings` is a pydantic model read from the environment; its validators check the API key,
confine the management host to the loopback names of `localhostValues`, strip the inbound
tag and clamp the per-user connection cap at zero.  A failing validator makes construction
raise with the validator's message; pydantic reports every failing field.
-/

namespace XrayBackend

/-- `localhostValues`. -/
def localhostValues : List String := ["127.0.0.1", "localhost", "::1"]

/-- The values pydantic reads for the fields the service uses, before validation. -/
structure RawSettings where
  apiKey : String
  xrayApiHost : String
  xrayApiPort : Int
  xrayInboundTag : String
  maxConnectionsPerUser : Int

/-- The settings after validation. -/
structure Settings where
  apiKey : String
  xrayApiHost : String
  xrayApiPort : Int
  xrayInboundTag : String
  maxConnectionsPerUser : Int

namespace Settings

/-- `validate_api_key`. -/
def validateApiKey (value : String) : Except String String :=
  if value = "" ∨ PyStr.strip value = "" then .error "API_KEY must be provided" else .ok value

/-- `validate_xray_api_host`. -/
def validateXrayApiHost (value : String) : Except String String :=
  let host := PyStr.strip value
  if host ∉ localhostValues then .error "XRAY_API_HOST must remain on localhost for security"
  else .ok host

/-- `validate_inbound_tag`. -/
def validateInboundTag (value : String) : Except String String :=
  if PyStr.strip value = "" then .error "XRAY_INBOUND_TAG cannot be empty"
  else .ok (PyStr.strip value)

/-- `normalize_max_connections`. -/
def normalizeMaxConnections (value : Int) : Int := max 0 value

/-- The message of a failed check, if any. -/
def errors : Except String String → List String
  | .error e => [e]
  | .ok _ => []

/-- `Settings(...)`: every validator runs, and construction fails with all their messages. -/
def validate (raw : RawSettings) : Except (List String) Settings :=
  match validateApiKey raw.apiKey, validateXrayApiHost raw.xrayApiHost,
      validateInboundTag raw.xrayInboundTag with
  | .ok apiKey, .ok host, .ok tag =>
    .ok ⟨apiKey, host, raw.xrayApiPort, tag, normalizeMaxConnections raw.maxConnectionsPerUser⟩
  | k, h, t => .error (errors k ++ errors h ++ errors t)

/-- The field defaults, around an API key (which has none). -/
def defaults (apiKey : String) : RawSettings :=
  ⟨apiKey, "127.0.0.1", 10085, "vless-reality", 0⟩

/-- Every field default passes its own validator, so a valid key is all a deployment needs. -/
theorem validate_defaults {apiKey : String} (h : validateApiKey apiKey = .ok apiKey) :
    validate (defaults apiKey) = .ok ⟨apiKey, "127.0.0.1", 10085, "vless-reality", 0⟩ := by
  simp only [validate, defaults, h]
  rfl

/-- A validated host is one of `localhostValues`. -/
theorem mem_of_validateXrayApiHost {value host : String}
    (h : validateXrayApiHost value = .ok host) : host ∈ localhostValues := by
  unfold validateXrayApiHost at h
  dsimp only at h
  split_ifs at h with hmem
  cases h
  exact hmem

/-- Validated settings hold a host of `localhostValues`, a key accepted by
`validate_api_key`, and a non-negative connection cap. -/
theorem validate_ok {raw : RawSettings} {s : Settings} (h : validate raw = .ok s) :
    s.xrayApiHost ∈ localhostValues ∧ validateApiKey s.apiKey = .ok s.apiKey ∧
      0 ≤ s.maxConnectionsPerUser := by
  unfold validate at h
  split at h
  · rename_i apiKey host tag hk hh ht
    cases h
    refine ⟨mem_of_validateXrayApiHost hh, ?_, le_max_left _ _⟩
    unfold validateApiKey at hk ⊢
    split_ifs at hk with hc
    cases hk
    exact if_neg hc
  · cases h

end Settings

end XrayBackend
