import Mathlib.Data.List.Infix
import Mathlib.Logic.Function.Basic
import Mathlib.Data.Int.Order.Basic

/-!
# The Python built-ins the service relies on

The modules of `app/` touch only a handful of built-in operations: `dict.get`,
item assignment and `dict.pop` on the two limiters' maps, and `str.strip`,
`str.lower`, `in` and `str.split` on header values, error details and settings.
They are modelled here once, on `List Char` for strings, so that every later module
reads like the Python it translates.

A `dict` is a partial map; `none` marks an absent key.  Only the key-wise behaviour
of a dictionary is ever observed by the service, so no insertion order is kept.
-/

namespace XrayBackend

/-- A Python `dict`, key by key. -/
abbrev PyDict (κ ν : Type) := κ → Option ν

namespace PyDict

variable {κ ν : Type}

/-- `{}`. -/
def empty : PyDict κ ν := fun _ => none

/-- `d.get(k, default)`. -/
def get (d : PyDict κ ν) (k : κ) (default : ν) : ν := (d k).getD default

@[simp] theorem empty_apply (k : κ) : (empty : PyDict κ ν) k = none := rfl

theorem get_eq (d : PyDict κ ν) (k : κ) (default : ν) : d.get k default = (d k).getD default := rfl

variable [DecidableEq κ]

/-- `d[k] = v`. -/
def set (d : PyDict κ ν) (k : κ) (v : ν) : PyDict κ ν := Function.update d k (some v)

/-- `d.pop(k, None)`, keeping only the new dictionary. -/
def pop (d : PyDict κ ν) (k : κ) : PyDict κ ν := Function.update d k none

@[simp] theorem set_apply (d : PyDict κ ν) (k k' : κ) (v : ν) :
    d.set k v k' = if k' = k then some v else d k' := Function.update_apply ..

@[simp] theorem pop_apply (d : PyDict κ ν) (k k' : κ) :
    d.pop k k' = if k' = k then none else d k' := Function.update_apply ..

end PyDict

namespace PyStr

/-- `str.isspace` for one character: the Unicode whitespace Python strips. -/
def isSpace (c : Char) : Bool :=
  c = ' ' || ('\t' ≤ c && c ≤ '\r') || ('\x1c' ≤ c && c ≤ '\x1f') || c = '\x85' ||
    c = '\xa0' || c = '\u1680' || ('\u2000' ≤ c && c ≤ '\u200a') || c = '\u2028' ||
    c = '\u2029' || c = '\u202f' || c = '\u205f' || c = '\u3000'

/-- `s.strip()`: leading and trailing whitespace removed. -/
def strip (s : String) : String :=
  ⟨((s.data.dropWhile isSpace).reverse.dropWhile isSpace).reverse⟩

/-- `needle in s.lower()` for the ASCII needles the client looks for.  Of the non-ASCII
characters only U+0130 (to `i` and U+0307) and U+212A (to `k`) lower to an ASCII letter, and
neither can complete `exist` or `not found`, so lowering the ASCII letters decides the same
membership. -/
def lowerContains (needle s : String) : Bool :=
  decide (needle.data <:+: s.data.map Char.toLower)

/-- `s.split(sep)[0]`: the text before the first separator. -/
def splitFirst (sep : Char) (s : String) : String :=
  ⟨s.data.takeWhile (· ≠ sep)⟩

/-- `str.isascii()`. -/
def isAscii (s : String) : Bool := s.data.all (fun c => c.toNat < 128)

end PyStr

end XrayBackend
