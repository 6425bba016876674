import Mathlib.Data.List.Basic

/-!
# The protobuf wire format

The messages `add_user` and `remove_user` send are serialized by the protobuf runtime in
its binary wire format: a message is a sequence of fields, each a varint tag
`field_number * 8 + wire_type` followed by a payload; strings and embedded messages are
length-delimited, their length itself a varint, and strings are UTF-8.

This module gives the encoder and a decoder for each layer (varints, UTF-8 text, fields,
field sequences) and proves that each decoder reads back what the encoder wrote, with any
bytes after it left untouched.
-/

namespace XrayBackend.Proto

/-- Serialized bytes. -/
abbrev Bytes := List UInt8

theorem toNat_ofNat_byte {n : Nat} (h : n < 256) : (UInt8.ofNat n).toNat = n :=
  UInt8.toNat_ofNat_of_lt h

/-! ## Varints -/

/-- A natural number as a base-128 varint, least significant group first. -/
def encodeVarint (n : Nat) : Bytes :=
  if n < 128 then [UInt8.ofNat n] else UInt8.ofNat (n % 128 + 128) :: encodeVarint (n / 128)
termination_by n
decreasing_by omega

/-- The varint at the start of the bytes, and what follows it. -/
def decodeVarint : Bytes → Option (Nat × Bytes)
  | [] => none
  | b :: rest =>
    if b.toNat < 128 then some (b.toNat, rest)
    else (decodeVarint rest).map (fun mr => (b.toNat - 128 + 128 * mr.1, mr.2))

theorem decodeVarint_encodeVarint (n : Nat) (rest : Bytes) :
    decodeVarint (encodeVarint n ++ rest) = some (n, rest) := by
  induction n using Nat.strongRecOn with
  | ind n ih =>
    rw [encodeVarint]
    split_ifs with h
    · simp [decodeVarint, toNat_ofNat_byte (by omega : n < 256), h]
    · have hb := toNat_ofNat_byte (by omega : n % 128 + 128 < 256)
      rw [List.cons_append, decodeVarint, hb, if_neg (by omega), ih (n / 128) (by omega),
        Option.map_some']
      congr 2
      omega

theorem encodeVarint_ne_nil (n : Nat) : encodeVarint n ≠ [] := by
  rw [encodeVarint]
  split_ifs <;> simp

theorem decodeVarint_shortens {bs rest : Bytes} {n : Nat} (h : decodeVarint bs = some (n, rest)) :
    rest.length < bs.length := by
  induction bs generalizing n with
  | nil => simp [decodeVarint] at h
  | cons b bs ih =>
    simp only [decodeVarint] at h
    split_ifs at h
    · cases h
      simp
    · obtain ⟨⟨m, r⟩, hr, he⟩ := Option.map_eq_some'.mp h
      simp only [Prod.mk.injEq] at he
      obtain ⟨-, rfl⟩ := he
      have := ih hr
      simp only [List.length_cons]
      omega

/-! ## UTF-8 -/

/-- A character's UTF-8 bytes (RFC 3629): one to four bytes by the size of its code point. -/
def utf8EncodeChar (c : Char) : Bytes :=
  let v := c.toNat
  if v < 0x80 then [UInt8.ofNat v]
  else if v < 0x800 then [UInt8.ofNat (0xC0 + v / 64), UInt8.ofNat (0x80 + v % 64)]
  else if v < 0x10000 then
    [UInt8.ofNat (0xE0 + v / 4096), UInt8.ofNat (0x80 + v / 64 % 64), UInt8.ofNat (0x80 + v % 64)]
  else
    [UInt8.ofNat (0xF0 + v / 262144), UInt8.ofNat (0x80 + v / 4096 % 64),
      UInt8.ofNat (0x80 + v / 64 % 64), UInt8.ofNat (0x80 + v % 64)]

/-- A string's UTF-8 bytes. -/
def utf8Encode (s : String) : Bytes := s.data.flatMap utf8EncodeChar

/-- Whether a byte continues a multi-byte sequence, `0x80..0xBF`. -/
def isContinuation (b : UInt8) : Bool := 0x80 ≤ b.toNat && b.toNat < 0xC0

/-- The character of a decoded code point: `none` for a surrogate or a value past `0x10FFFF`,
or for an overlong form (`v < least`). -/
def codePoint (least v : Nat) : Option Char :=
  if least ≤ v ∧ (v < 0xD800 ∨ (0xDFFF < v ∧ v < 0x110000)) then some (Char.ofNat v) else none

/-- The character at the start of UTF-8 bytes, and what follows it. -/
def utf8DecodeChar : Bytes → Option (Char × Bytes)
  | b0 :: rest =>
    let x := b0.toNat
    if x < 0x80 then some (Char.ofNat x, rest)
    else if 0xC0 ≤ x ∧ x < 0xE0 then
      match rest with
      | b1 :: rest =>
        if isContinuation b1 then
          (codePoint 0x80 ((x - 0xC0) * 64 + (b1.toNat - 0x80))).map (·, rest)
        else none
      | _ => none
    else if 0xE0 ≤ x ∧ x < 0xF0 then
      match rest with
      | b1 :: b2 :: rest =>
        if isContinuation b1 && isContinuation b2 then
          (codePoint 0x800 ((x - 0xE0) * 4096 + (b1.toNat - 0x80) * 64 + (b2.toNat - 0x80))).map
            (·, rest)
        else none
      | _ => none
    else if 0xF0 ≤ x ∧ x < 0xF8 then
      match rest with
      | b1 :: b2 :: b3 :: rest =>
        if isContinuation b1 && isContinuation b2 && isContinuation b3 then
          (codePoint 0x10000 ((x - 0xF0) * 262144 + (b1.toNat - 0x80) * 4096 +
            (b2.toNat - 0x80) * 64 + (b3.toNat - 0x80))).map (·, rest)
        else none
      | _ => none
    else none
  | [] => none

theorem codePoint_toNat {least : Nat} {c : Char} (h : least ≤ c.toNat) :
    codePoint least c.toNat = some c := by
  have hv := c.valid
  simp only [Nat.isValidChar, Char.toNat] at hv h ⊢
  rw [codePoint, if_pos ⟨h, hv⟩, ← Char.toNat, Char.ofNat_toNat]

theorem isContinuation_ofNat {k : Nat} (hk : k < 64) :
    isContinuation (UInt8.ofNat (0x80 + k)) = true := by
  simp [isContinuation, toNat_ofNat_byte (by omega : 0x80 + k < 256)]
  omega

/-! ## The four forms of a character -/

/-- A two-byte form: lead byte `0xC0 + a`, one continuation byte. -/
theorem utf8DecodeChar_two {a b : Nat} (ha : a < 32) (hb : b < 64) (rest : Bytes) :
    utf8DecodeChar (UInt8.ofNat (0xC0 + a) :: UInt8.ofNat (0x80 + b) :: rest) =
      (codePoint 0x80 (a * 64 + b)).map (·, rest) := by
  simp only [utf8DecodeChar, toNat_ofNat_byte (by omega : 0xC0 + a < 256), isContinuation_ofNat hb,
    if_true, toNat_ofNat_byte (by omega : 0x80 + b < 256), Nat.add_sub_cancel_left]
  rw [if_neg (by omega), if_pos (by omega)]

/-- A three-byte form: lead byte `0xE0 + a`, two continuation bytes. -/
theorem utf8DecodeChar_three {a b d : Nat} (ha : a < 16) (hb : b < 64) (hd : d < 64)
    (rest : Bytes) :
    utf8DecodeChar (UInt8.ofNat (0xE0 + a) :: UInt8.ofNat (0x80 + b) :: UInt8.ofNat (0x80 + d) ::
        rest) =
      (codePoint 0x800 (a * 4096 + b * 64 + d)).map (·, rest) := by
  simp only [utf8DecodeChar, toNat_ofNat_byte (by omega : 0xE0 + a < 256), isContinuation_ofNat hb,
    isContinuation_ofNat hd, Bool.and_self, if_true, toNat_ofNat_byte (by omega : 0x80 + b < 256),
    toNat_ofNat_byte (by omega : 0x80 + d < 256), Nat.add_sub_cancel_left]
  rw [if_neg (by omega), if_neg (by omega), if_pos (by omega)]

/-- A four-byte form: lead byte `0xF0 + a`, three continuation bytes. -/
theorem utf8DecodeChar_four {a b d e : Nat} (ha : a < 8) (hb : b < 64) (hd : d < 64) (he : e < 64)
    (rest : Bytes) :
    utf8DecodeChar (UInt8.ofNat (0xF0 + a) :: UInt8.ofNat (0x80 + b) :: UInt8.ofNat (0x80 + d) ::
        UInt8.ofNat (0x80 + e) :: rest) =
      (codePoint 0x10000 (a * 262144 + b * 4096 + d * 64 + e)).map (·, rest) := by
  simp only [utf8DecodeChar, toNat_ofNat_byte (by omega : 0xF0 + a < 256), isContinuation_ofNat hb,
    isContinuation_ofNat hd, isContinuation_ofNat he, Bool.and_self, if_true,
    toNat_ofNat_byte (by omega : 0x80 + b < 256), toNat_ofNat_byte (by omega : 0x80 + d < 256),
    toNat_ofNat_byte (by omega : 0x80 + e < 256), Nat.add_sub_cancel_left]
  rw [if_neg (by omega), if_neg (by omega), if_neg (by omega), if_pos (by omega)]

/-- Decoding reads back each character's UTF-8 bytes. -/
theorem utf8DecodeChar_encode (c : Char) (rest : Bytes) :
    utf8DecodeChar (utf8EncodeChar c ++ rest) = some (c, rest) := by
  have hv : c.toNat < 0x110000 := by
    have := c.valid
    simp only [Nat.isValidChar, Char.toNat] at this ⊢
    omega
  have h64 : ∀ n, n % 64 < 64 := fun n => Nat.mod_lt _ (by decide)
  unfold utf8EncodeChar
  dsimp only
  split_ifs with h1 h2 h3
  · simp [utf8DecodeChar, toNat_ofNat_byte (by omega : c.toNat < 256), h1]
  · rw [List.cons_append, List.cons_append, List.nil_append, utf8DecodeChar_two (by omega) (h64 _),
      show c.toNat / 64 * 64 + c.toNat % 64 = c.toNat by omega, codePoint_toNat (by omega)]
    rfl
  · rw [List.cons_append, List.cons_append, List.cons_append, List.nil_append,
      utf8DecodeChar_three (by omega) (h64 _) (h64 _),
      show c.toNat / 4096 * 4096 + c.toNat / 64 % 64 * 64 + c.toNat % 64 = c.toNat by omega,
      codePoint_toNat (by omega)]
    rfl
  · rw [List.cons_append, List.cons_append, List.cons_append, List.cons_append, List.nil_append,
      utf8DecodeChar_four (by omega) (h64 _) (h64 _) (h64 _),
      show c.toNat / 262144 * 262144 + c.toNat / 4096 % 64 * 4096 + c.toNat / 64 % 64 * 64 +
        c.toNat % 64 = c.toNat by omega,
      codePoint_toNat (by omega)]
    rfl

theorem utf8EncodeChar_ne_nil (c : Char) : utf8EncodeChar c ≠ [] := by
  unfold utf8EncodeChar
  dsimp only
  split_ifs <;> simp

theorem utf8DecodeChar_shortens {bs rest : Bytes} {c : Char}
    (h : utf8DecodeChar bs = some (c, rest)) : rest.length < bs.length := by
  match bs with
  | [] => simp [utf8DecodeChar] at h
  | b0 :: bs =>
    simp only [utf8DecodeChar] at h
    split_ifs at h
    · cases h; simp
    -- the two-, three- and four-byte forms
    all_goals
      split at h
      · split_ifs at h
        obtain ⟨_, -, h⟩ := Option.map_eq_some'.mp h
        cases h
        simp only [List.length_cons]; omega
      · cases h

/-- The characters of UTF-8 bytes; `none` when they are not UTF-8. -/
def utf8Decode (bs : Bytes) : Option (List Char) :=
  match bs with
  | [] => some []
  | b :: bs' =>
    match h : utf8DecodeChar (b :: bs') with
    | some (c, rest) =>
      have : rest.length < (b :: bs').length := utf8DecodeChar_shortens h
      (utf8Decode rest).map (c :: ·)
    | none => none
termination_by bs.length

/-- Decoding the UTF-8 bytes of a string gives back its characters. -/
theorem utf8Decode_utf8Encode (s : String) : utf8Decode (utf8Encode s) = some s.data := by
  obtain ⟨cs⟩ := s
  induction cs with
  | nil => simp [utf8Encode, utf8Decode]
  | cons c cs ih =>
    simp only [utf8Encode, List.flatMap_cons] at ih ⊢
    obtain ⟨b, bs, hb⟩ := List.exists_cons_of_ne_nil (utf8EncodeChar_ne_nil c)
    have hc := utf8DecodeChar_encode c (cs.flatMap utf8EncodeChar)
    rw [hb, List.cons_append] at hc ⊢
    rw [utf8Decode]
    split
    · rename_i c' rest hd
      rw [hc] at hd
      simp only [Option.some.injEq, Prod.mk.injEq] at hd
      obtain ⟨rfl, rfl⟩ := hd
      simp [ih]
    · rename_i hd
      rw [hc] at hd
      simp at hd

/-! ## Fields -/

/-- A field's value as the wire carries it, one constructor per wire type the runtime can
meet: varint (0), 64-bit (1), length-delimited (2) and 32-bit (5). -/
inductive WireValue
  | varint (n : Nat)
  | i64 (b : Bytes)
  | len (b : Bytes)
  | i32 (b : Bytes)
  deriving DecidableEq, Repr

namespace WireValue

/-- The wire type in the field's tag. -/
def wireType : WireValue → Nat
  | .varint _ => 0
  | .i64 _ => 1
  | .len _ => 2
  | .i32 _ => 5

/-- The bytes after the tag. -/
def payload : WireValue → Bytes
  | .varint n => encodeVarint n
  | .i64 b | .i32 b => b
  | .len b => encodeVarint b.length ++ b

/-- A value the encoder can write: fixed-width payloads have their width. -/
def WellFormed : WireValue → Prop
  | .i64 b => b.length = 8
  | .i32 b => b.length = 4
  | _ => True

end WireValue

/-- A field: its tag `number * 8 + wire type`, then its payload. -/
def encodeField (f : Nat × WireValue) : Bytes :=
  encodeVarint (f.1 * 8 + f.2.wireType) ++ f.2.payload

/-- A message: its fields in order. -/
def encodeFields (fs : List (Nat × WireValue)) : Bytes := fs.flatMap encodeField

/-- `n` bytes off the front, if there are that many. -/
def takeExactly (n : Nat) (bs : Bytes) : Option (Bytes × Bytes) :=
  if n ≤ bs.length then some (bs.take n, bs.drop n) else none

/-- The payload of a field of the given wire type, and what follows it; the group wire types
`3` and `4` are refused. -/
def decodePayload : Nat → Bytes → Option (WireValue × Bytes)
  | 0, bs => (decodeVarint bs).map fun p => (.varint p.1, p.2)
  | 1, bs => (takeExactly 8 bs).map fun p => (.i64 p.1, p.2)
  | 2, bs => (decodeVarint bs).bind fun p => (takeExactly p.1 p.2).map fun q => (.len q.1, q.2)
  | 5, bs => (takeExactly 4 bs).map fun p => (.i32 p.1, p.2)
  | _, _ => none

/-- The field at the start of the bytes, and what follows it; field number `0` is refused. -/
def decodeField (bs : Bytes) : Option ((Nat × WireValue) × Bytes) :=
  match decodeVarint bs with
  | some (tag, rest) =>
    if tag / 8 = 0 then none else (decodePayload (tag % 8) rest).map fun p => ((tag / 8, p.1), p.2)
  | none => none

theorem takeExactly_append {n : Nat} {b : Bytes} (h : b.length = n) (rest : Bytes) :
    takeExactly n (b ++ rest) = some (b, rest) := by
  subst h
  simp [takeExactly]

theorem takeExactly_shortens {n : Nat} {bs b rest : Bytes} (h : takeExactly n bs = some (b, rest)) :
    rest.length ≤ bs.length := by
  unfold takeExactly at h
  split_ifs at h
  cases h
  simp

theorem decodePayload_payload {v : WireValue} (hv : v.WellFormed) (rest : Bytes) :
    decodePayload v.wireType (v.payload ++ rest) = some (v, rest) := by
  cases v with
  | varint n =>
    simp [decodePayload, WireValue.wireType, WireValue.payload, decodeVarint_encodeVarint]
  | i64 b => simp [decodePayload, WireValue.wireType, WireValue.payload, takeExactly_append hv]
  | len b =>
    simp [decodePayload, WireValue.wireType, WireValue.payload, decodeVarint_encodeVarint,
      List.append_assoc, takeExactly_append rfl]
  | i32 b => simp [decodePayload, WireValue.wireType, WireValue.payload, takeExactly_append hv]

theorem decodePayload_shortens {w : Nat} {bs rest : Bytes} {v : WireValue}
    (h : decodePayload w bs = some (v, rest)) : rest.length ≤ bs.length := by
  match w, h with
  | 0, h =>
    obtain ⟨⟨n, r⟩, hr, he⟩ := Option.map_eq_some'.mp h
    cases he
    exact (decodeVarint_shortens hr).le
  | 1, h =>
    obtain ⟨⟨b, r⟩, hr, he⟩ := Option.map_eq_some'.mp h
    cases he
    exact takeExactly_shortens hr
  | 2, h =>
    obtain ⟨⟨n, r⟩, hr, h⟩ := Option.bind_eq_some.mp h
    obtain ⟨⟨b, r'⟩, hr', he⟩ := Option.map_eq_some'.mp h
    cases he
    exact le_trans (takeExactly_shortens hr') (decodeVarint_shortens hr).le
  | 5, h =>
    obtain ⟨⟨b, r⟩, hr, he⟩ := Option.map_eq_some'.mp h
    cases he
    exact takeExactly_shortens hr
  | w + 6, h => simp [decodePayload] at h
  | 3, h => simp [decodePayload] at h
  | 4, h => simp [decodePayload] at h

theorem decodeField_encodeField {n : Nat} (hn : 0 < n) {v : WireValue} (hv : v.WellFormed)
    (rest : Bytes) : decodeField (encodeField (n, v) ++ rest) = some ((n, v), rest) := by
  have hw : v.wireType < 8 := by cases v <;> simp [WireValue.wireType]
  have hdiv : (n * 8 + v.wireType) / 8 = n := by omega
  have hmod : (n * 8 + v.wireType) % 8 = v.wireType := by omega
  simp [decodeField, encodeField, List.append_assoc, decodeVarint_encodeVarint, hdiv, hmod,
    hn.ne', decodePayload_payload hv]

theorem decodeField_shortens {bs rest : Bytes} {f : Nat × WireValue}
    (h : decodeField bs = some (f, rest)) : rest.length < bs.length := by
  unfold decodeField at h
  split at h
  · rename_i tag r htag
    split_ifs at h
    obtain ⟨⟨v, r'⟩, hr, he⟩ := Option.map_eq_some'.mp h
    cases he
    exact lt_of_le_of_lt (decodePayload_shortens hr) (decodeVarint_shortens htag)
  · cases h

/-- The fields of a message, in order; `none` when the bytes are not a field sequence. -/
def decodeFields (bs : Bytes) : Option (List (Nat × WireValue)) :=
  match bs with
  | [] => some []
  | b :: bs' =>
    match h : decodeField (b :: bs') with
    | some (f, rest) =>
      have : rest.length < (b :: bs').length := decodeField_shortens h
      (decodeFields rest).map (f :: ·)
    | none => none
termination_by bs.length

theorem encodeField_ne_nil (f : Nat × WireValue) : encodeField f ≠ [] := by
  simp [encodeField, encodeVarint_ne_nil]

/-- Decoding a message's bytes gives back its fields, when every field number is positive and
every fixed-width payload has its width. -/
theorem decodeFields_encodeFields (fs : List (Nat × WireValue))
    (hfs : ∀ f ∈ fs, 0 < f.1 ∧ f.2.WellFormed) : decodeFields (encodeFields fs) = some fs := by
  induction fs with
  | nil => simp [encodeFields, decodeFields]
  | cons f fs ih =>
    have hf := hfs f (List.mem_cons_self f fs)
    have ih' := ih (fun g hg => hfs g (List.mem_cons_of_mem f hg))
    simp only [encodeFields, List.flatMap_cons] at ih' ⊢
    obtain ⟨b, bs, hb⟩ := List.exists_cons_of_ne_nil (encodeField_ne_nil f)
    have hd := decodeField_encodeField hf.1 hf.2 (fs.flatMap encodeField)
    rw [hb, List.cons_append] at hd ⊢
    rw [decodeFields]
    split
    · rename_i f' rest hd'
      rw [hd] at hd'
      simp only [Option.some.injEq, Prod.mk.injEq] at hd'
      obtain ⟨rfl, rfl⟩ := hd'
      simp [ih']
    · rename_i hd'
      rw [hd] at hd'
      simp at hd'

end XrayBackend.Proto
