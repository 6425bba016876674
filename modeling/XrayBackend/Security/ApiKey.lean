import XrayBackend.Config

/-!
# The API-key gate (`app/security.py`, `main.py`)

`verify_api_key` rejects a request with `HTTPException(403)` unless its `X-API-KEY` header
equals the configured key, comparing the two with `hmac.compare_digest` to take constant
time.  On two `str` arguments `compare_digest` accepts ASCII text only and raises
`TypeError` otherwise, so a header holding a character above `0x7f` (any such byte, decoded
as latin-1) leaves the gate as an unhandled `TypeError`, not as a 403; with a non-ASCII key
every request carrying the header does.  The older entry point `main.py` compares with `!=`
and is a total gate.
-/

namespace XrayBackend.Security

/-- The exceptions the gate can raise. -/
inductive GateError
  | httpException (statusCode : Nat) (detail : String)
  | typeError (message : String)
  deriving DecidableEq, Repr

/-- `hmac.compare_digest(a, b)` on two `str`. -/
def compareDigest (a b : String) : Except GateError Bool :=
  if PyStr.isAscii a ∧ PyStr.isAscii b then .ok (a == b)
  else .error (.typeError "comparing strings with non-ASCII characters is not supported")

/-- `verify_api_key(settings, x_api_key)`. -/
def verifyApiKey (settings : Settings) (xApiKey : Option String) : Except GateError Unit :=
  match xApiKey with
  | none => .error (.httpException 403 "Forbidden")
  | some key => do
    if !(← compareDigest key settings.apiKey) then .error (.httpException 403 "Forbidden")
    else .ok ()

/-- `require_api_key` of `main.py`, against the `api_key` of its own settings. -/
def requireApiKey (apiKey : String) (xApiKey : Option String) : Except GateError Unit :=
  match xApiKey with
  | none => .error (.httpException 403 "Forbidden")
  | some key => if key ≠ apiKey then .error (.httpException 403 "Forbidden") else .ok ()

/-- What `verify_api_key` does with every header: a missing header or an ASCII mismatch is
refused with 403, an ASCII match passes, and any non-ASCII text on either side raises
`TypeError`. -/
theorem verifyApiKey_eq (settings : Settings) (xApiKey : Option String) :
    verifyApiKey settings xApiKey =
      match xApiKey with
      | none => .error (.httpException 403 "Forbidden")
      | some key =>
        if PyStr.isAscii key ∧ PyStr.isAscii settings.apiKey then
          if key = settings.apiKey then .ok () else .error (.httpException 403 "Forbidden")
        else
          .error (.typeError "comparing strings with non-ASCII characters is not supported") := by
  cases xApiKey with
  | none => rfl
  | some key =>
    simp only [verifyApiKey, compareDigest]
    split_ifs with hascii heq <;> simp_all [bind, Except.bind]

/-- `main.py`'s gate is total: it passes exactly the configured key and answers 403 to
every other header. -/
theorem requireApiKey_gate (apiKey : String) (xApiKey : Option String) :
    requireApiKey apiKey xApiKey =
      if xApiKey = some apiKey then .ok () else .error (.httpException 403 "Forbidden") := by
  cases xApiKey with
  | none => rfl
  | some key => by_cases h : key = apiKey <;> simp [requireApiKey, h]

/-- The gate lets a request through only when its header is the configured key. -/
theorem eq_of_verifyApiKey_ok {settings : Settings} {xApiKey : Option String}
    (h : verifyApiKey settings xApiKey = .ok ()) : xApiKey = some settings.apiKey := by
  cases xApiKey with
  | none => cases h
  | some key =>
    simp only [verifyApiKey, compareDigest] at h
    split_ifs at h with hascii
    · by_cases heq : key = settings.apiKey
      · rw [heq]
      · simp [bind, Except.bind, heq] at h
    · cases h

/-- An ASCII key passes its own gate. -/
theorem verifyApiKey_self {settings : Settings} (h : PyStr.isAscii settings.apiKey = true) :
    verifyApiKey settings (some settings.apiKey) = .ok () := by
  simp [verifyApiKey, compareDigest, h, bind, Except.bind]

/-- The only `HTTPException` the gate raises is the 403. -/
theorem verifyApiKey_httpException {settings : Settings} {xApiKey : Option String}
    {statusCode : Nat} {detail : String}
    (h : verifyApiKey settings xApiKey = .error (.httpException statusCode detail)) :
    statusCode = 403 ∧ detail = "Forbidden" := by
  cases xApiKey with
  | none => cases h; exact ⟨rfl, rfl⟩
  | some key =>
    simp only [verifyApiKey, compareDigest] at h
    split_ifs at h
    · by_cases heq : key = settings.apiKey
      · simp [bind, Except.bind, heq] at h
      · simp [bind, Except.bind, heq] at h
        exact ⟨h.1.symm, h.2.symm⟩
    · cases h

/-- With the key `secret`, which `validate_api_key` accepts, the header value `é` (the byte
`0xe9` as Starlette decodes it) makes `verify_api_key` raise `TypeError`, not the 403 it
raises for every other wrong key. -/
theorem verifyApiKey_nonAscii_header_raises :
    Settings.validateApiKey "secret" = .ok "secret" ∧
      verifyApiKey ⟨"secret", "127.0.0.1", 10085, "vless-reality", 0⟩ (some "é") =
        .error (.typeError "comparing strings with non-ASCII characters is not supported") :=
  ⟨rfl, rfl⟩

end XrayBackend.Security
