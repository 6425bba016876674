import XrayBackend.Config
import Mathlib.Data.Nat.Digits

/-!
# Constructing the management client (`app/xray_client.py`)

`XrayClient.__init__` refuses any host outside `localhostValues` and addresses the
management endpoint by the text `f"{host}:{port}"`.  gRPC splits such a target into host and
port at its colon only when there is exactly one; text with more colons is a bare host, and
an IPv6 literal must be bracketed to carry a port.  The loopback names `127.0.0.1` and
`localhost` round-trip through that split for every port, but `::1`, which both the settings
validator and the constructor admit, yields the unbracketed target `::1:10085`, whose host
is the whole text and whose port is absent.
-/

namespace XrayBackend.Client

/-- `XrayClientError`, with the text it is raised with. -/
structure XrayClientError where
  message : String
  deriving DecidableEq, Repr

/-- `handlerService`. -/
def handlerService : String := "xray.app.proxyman.command.HandlerService"

/-- `accountTypeUrl`. -/
def accountTypeUrl : String := "type.googleapis.com/xray.proxy.vless.Account"

/-! ## Decimal text of a port -/

/-- The character of a decimal digit. -/
def digitChar (d : Nat) : Char := Char.ofNat (48 + d)

/-- The decimal digits of a natural number, most significant first. -/
def natStr (n : Nat) : List Char :=
  if n = 0 then ['0'] else (Nat.digits 10 n).reverse.map digitChar

/-- `f"{n}"` for a Python `int`. -/
def intStr (n : Int) : String := ⟨if n < 0 then '-' :: natStr n.natAbs else natStr n.natAbs⟩

/-- The value of a non-empty run of decimal digits. -/
def parseNat (cs : List Char) : Option Nat :=
  if cs ≠ [] ∧ cs.all Char.isDigit then some (cs.foldl (fun acc c => 10 * acc + (c.toNat - 48)) 0)
  else none

/-- A port's text read back as an integer, with an optional minus sign. -/
def parsePort (s : String) : Option Int :=
  match s.data with
  | '-' :: ds => (parseNat ds).map (fun n => -Int.ofNat n)
  | ds => (parseNat ds).map Int.ofNat

theorem toNat_digitChar {d : Nat} (hd : d < 10) : (digitChar d).toNat = 48 + d := by
  unfold digitChar Char.ofNat
  rw [dif_pos (Or.inl (by omega))]
  rfl

theorem isDigit_digitChar {d : Nat} (hd : d < 10) : (digitChar d).isDigit = true := by
  simp only [Char.isDigit, Char.le_def, Char.toNat, toNat_digitChar hd] at *
  change (decide (48 ≤ (digitChar d).toNat) && decide ((digitChar d).toNat ≤ 57)) = true
  rw [toNat_digitChar hd]
  simp
  omega

/-- Reading digits most significant first is `Nat.ofDigits` of the reversed list. -/
theorem foldl_digits (L : List Nat) (hL : ∀ d ∈ L, d < 10) :
    (L.reverse.map digitChar).foldl (fun acc c => 10 * acc + (c.toNat - 48)) 0 =
      Nat.ofDigits 10 L := by
  induction L with
  | nil => rfl
  | cons d L ih =>
    have hd : d < 10 := hL d (List.mem_cons_self d L)
    rw [List.reverse_cons, List.map_append, List.foldl_append,
      ih (fun x hx => hL x (List.mem_cons_of_mem d hx)), Nat.ofDigits_cons]
    simp [toNat_digitChar hd]
    ring

theorem parseNat_natStr (n : Nat) : parseNat (natStr n) = some n := by
  unfold natStr
  split_ifs with h
  · subst h; rfl
  · have hlt : ∀ d ∈ Nat.digits 10 n, d < 10 := fun d hd => Nat.digits_lt_base (by norm_num) hd
    have hne : (Nat.digits 10 n).reverse.map digitChar ≠ [] := by
      simp [Nat.digits_ne_nil_iff_ne_zero.mpr h]
    have hdig : ((Nat.digits 10 n).reverse.map digitChar).all Char.isDigit = true := by
      simp only [List.all_eq_true, List.mem_map, List.mem_reverse]
      rintro c ⟨d, hd, rfl⟩
      exact isDigit_digitChar (hlt d hd)
    rw [parseNat, if_pos ⟨hne, hdig⟩, foldl_digits _ hlt, Nat.ofDigits_digits]

theorem natStr_ne_nil (n : Nat) : natStr n ≠ [] := by
  unfold natStr
  split_ifs with h
  · simp
  · simp [Nat.digits_ne_nil_iff_ne_zero.mpr h]

/-- The decimal text of a natural number holds digits only. -/
theorem isDigit_of_mem_natStr {n : Nat} {c : Char} (hc : c ∈ natStr n) : c.isDigit = true := by
  unfold natStr at hc
  split_ifs at hc
  · simp at hc; subst hc; rfl
  · obtain ⟨d, hd, rfl⟩ := List.mem_map.mp hc
    exact isDigit_digitChar (Nat.digits_lt_base (by norm_num) (List.mem_reverse.mp hd))

/-- The text of a port reads back as the port. -/
theorem parsePort_intStr (p : Int) : parsePort (intStr p) = some p := by
  unfold intStr parsePort
  split_ifs with hp
  · simp only [parseNat_natStr, Option.map_some', Int.ofNat_eq_coe]
    rw [Int.ofNat_natAbs_of_nonpos hp.le, neg_neg]
  · obtain ⟨c, cs, hcs⟩ := List.exists_cons_of_ne_nil (natStr_ne_nil p.natAbs)
    have hc : c.isDigit = true := isDigit_of_mem_natStr (hcs ▸ List.mem_cons_self c cs)
    have hminus : c ≠ '-' := by rintro rfl; exact absurd hc (by decide)
    simp only [hcs]
    split
    · rename_i ds h
      simp only [List.cons.injEq] at h
      exact absurd h.1 hminus
    · rw [← hcs, parseNat_natStr, Option.map_some', Int.ofNat_eq_coe,
        Int.natAbs_of_nonneg (not_lt.mp hp)]

/-! ## The client and its target -/

/-- A gRPC channel, opened on the client's target. -/
structure Channel where
  target : String
  deriving DecidableEq, Repr

/-- An `XrayClient`: its settings from `__init__`, and the channel and the two method stubs
that `start` installs. -/
structure XrayClient where
  target : String
  inboundTag : String
  accountTypeUrl : String
  handlerService : String
  flow : String
  encryption : String
  channel : Option Channel
  addUserStub : Option String
  removeUserStub : Option String
  deriving DecidableEq, Repr

/-- `XrayClient(host, port, inbound_tag, account_type_url, handler_service, flow, encryption)`;
`flow or ""` is `flow` itself for a `str`. -/
def XrayClient.new (host : String) (port : Int)
    (inboundTag accountTypeUrl handlerService flow encryption : String) :
    Except XrayClientError XrayClient :=
  if host ∉ localhostValues then .error ⟨"Xray gRPC must be accessed via localhost"⟩
  else .ok
    { target := host ++ ":" ++ intStr port
      inboundTag := inboundTag
      accountTypeUrl := accountTypeUrl
      handlerService := handlerService
      flow := flow
      encryption := if encryption = "" then "none" else encryption
      channel := none
      addUserStub := none
      removeUserStub := none }

/-- What a successful `__init__` stores: a loopback host, and no channel yet. -/
theorem XrayClient.new_eq_ok {host : String} {port : Int}
    {inboundTag accountTypeUrl handlerService flow encryption : String} {c : XrayClient}
    (hc : XrayClient.new host port inboundTag accountTypeUrl handlerService flow encryption =
      .ok c) :
    host ∈ localhostValues ∧
      c = { target := host ++ ":" ++ intStr port, inboundTag := inboundTag,
            accountTypeUrl := accountTypeUrl, handlerService := handlerService, flow := flow,
            encryption := (if encryption = "" then "none" else encryption), channel := none,
            addUserStub := none, removeUserStub := none } := by
  unfold XrayClient.new at hc
  by_cases hmem : host ∈ localhostValues
  · rw [if_neg (not_not.mpr hmem)] at hc
    cases hc
    exact ⟨hmem, rfl⟩
  · rw [if_pos hmem] at hc
    cases hc

/-- The client `startup_event` builds from validated settings, with the other parameters at
their defaults. -/
def XrayClient.ofSettings (settings : Settings) : Except XrayClientError XrayClient :=
  XrayClient.new settings.xrayApiHost settings.xrayApiPort settings.xrayInboundTag
    Client.accountTypeUrl Client.handlerService "" "none"

/-- gRPC's split of a target into host and port: a bracketed IPv6 literal, `[h]` or `[h]:p`;
otherwise the text splits at its colon when it has exactly one, and is a bare host when it has
none or several.  `none` when a bracket is left open or followed by anything but a port. -/
def splitHostPort (name : String) : Option (String × Option String) :=
  match name.data with
  | '[' :: rest =>
    match rest.span (· ≠ ']') with
    | (host, [']']) => some (⟨host⟩, none)
    | (host, ']' :: ':' :: port) => some (⟨host⟩, some ⟨port⟩)
    | _ => none
  | cs =>
    if cs.count ':' = 1 then
      some (⟨cs.takeWhile (· ≠ ':')⟩, some ⟨(cs.dropWhile (· ≠ ':')).drop 1⟩)
    else some (name, none)

/-- Splitting `h:text` where `h` has no colon and does not open a bracket, and `text` has no
colon, gives back `h` and `text`. -/
theorem splitHostPort_of_single_colon {h port : List Char} (hh : ':' ∉ h) (hp : ':' ∉ port)
    (hb : h.head? ≠ some '[') :
    splitHostPort ⟨h ++ ':' :: port⟩ = some (⟨h⟩, some ⟨port⟩) := by
  have hcount : (h ++ ':' :: port).count ':' = 1 := by
    simp [List.count_append, List.count_eq_zero_of_not_mem hh, List.count_eq_zero_of_not_mem hp]
  have htake : (h ++ ':' :: port).takeWhile (· ≠ ':') = h := by
    rw [List.takeWhile_append_of_pos (fun c hc => by simpa using ne_of_mem_of_not_mem hc hh)]
    simp
  have hdrop : (h ++ ':' :: port).dropWhile (· ≠ ':') = ':' :: port := by
    rw [List.dropWhile_append_of_pos (fun c hc => by simpa using ne_of_mem_of_not_mem hc hh)]
    simp
  unfold splitHostPort
  split
  · rename_i rest heq
    cases h with
    | nil => simp at heq
    | cons c cs => simp_all
  · rw [if_pos hcount, htake, hdrop]
    rfl

theorem colon_not_mem_intStr (p : Int) : ':' ∉ (intStr p).data := by
  intro hmem
  have hdig : ∀ c ∈ natStr p.natAbs, c ≠ ':' := fun c hc h =>
    absurd (isDigit_of_mem_natStr hc) (h ▸ by decide)
  unfold intStr at hmem
  split_ifs at hmem
  · rcases List.mem_cons.mp hmem with h | h
    · exact absurd h (by decide)
    · exact hdig ':' h rfl
  · exact hdig ':' hmem rfl

/-- For the loopback names `127.0.0.1` and `localhost`, and every port, the client's target
splits back into the host and a port text that reads back as the port. -/
theorem target_splits_to_endpoint (host : String) (hhost : host = "127.0.0.1" ∨ host = "localhost")
    (port : Int) (inboundTag accountTypeUrl handlerService flow encryption : String) :
    ((XrayClient.new host port inboundTag accountTypeUrl handlerService flow encryption).map
      (fun c => (splitHostPort c.target).map (fun hp => (hp.1, hp.2.bind parsePort)))) =
      .ok (some (host, some port)) := by
  have hmem : host ∈ localhostValues := by
    rcases hhost with rfl | rfl <;> simp [localhostValues]
  have hcolon : ':' ∉ host.data := by rcases hhost with rfl | rfl <;> decide
  have hbracket : host.data.head? ≠ some '[' := by rcases hhost with rfl | rfl <;> decide
  have htarget : host ++ ":" ++ intStr port = ⟨host.data ++ ':' :: (intStr port).data⟩ := by
    simp [String.ext_iff]
  simp only [XrayClient.new, if_neg (not_not.mpr hmem), Except.map, htarget,
    splitHostPort_of_single_colon hcolon (colon_not_mem_intStr port) hbracket, Option.map_some',
    Option.some_bind]
  exact congrArg (fun x => (Except.ok (some (host, x)) : Except XrayClientError _))
    (parsePort_intStr port)

theorem target_splits_to_endpoint_localhost :
    ("localhost" = "127.0.0.1" ∨ "localhost" = "localhost") ∧
      ((XrayClient.new "localhost" 10085 "vless-reality" accountTypeUrl handlerService ""
          "none").map
        (fun c => (splitHostPort c.target).map (fun hp => (hp.1, hp.2.bind parsePort)))) =
        .ok (some ("localhost", some 10085)) :=
  ⟨.inr rfl, target_splits_to_endpoint "localhost" (.inr rfl) 10085 _ _ _ _ _⟩

/-- The IPv6 loopback `::1` passes the settings validator and the constructor, but the target
`::1:10085` has three colons: gRPC reads it as a bare host with no port. -/
theorem target_ipv6_loopback_loses_port :
    Settings.validateXrayApiHost "::1" = .ok "::1" ∧
      ((XrayClient.new "::1" 10085 "vless-reality" accountTypeUrl handlerService "" "none").map
        (fun c => splitHostPort c.target)) = .ok (some ("::1:10085", none)) := by
  refine ⟨rfl, ?_⟩
  have hstr : intStr 10085 = "10085" := by
    norm_num [intStr, natStr, digitChar]
  simp only [XrayClient.new, localhostValues, Except.map, hstr]
  rfl

end XrayBackend.Client
