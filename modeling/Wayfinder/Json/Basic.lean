import Wayfinder.Keyed
import Wayfinder.Json.Binary64

/-!
# JSON values

An object keeps its members in the order in which their keys first appeared.  An integer lies in
the range that 64 bits hold with or without a sign; every other number is binary floating point.
-/

namespace Wayfinder

/-- An integer that fits into 64 bits, with a sign or without: from -2^63 on up to below 2^64. -/
structure Integer where
  value : Int
  fits : -0x8000000000000000 ≤ value ∧ value < 0x10000000000000000
deriving DecidableEq

def Integer.ofNat (n : Nat) (h : n < 0x10000000000000000) : Integer :=
  ⟨n, by omega⟩

inductive Number where
  | int (i : Integer)
  | float (x : Binary64)
deriving DecidableEq

inductive Json where
  | null
  | bool (b : Bool)
  | number (n : Number)
  | string (s : String)
  | array (items : List Json)
  | object (members : List (String × Json))

namespace Json

instance : Inhabited Json := ⟨null⟩

/-- A natural number, if it fits. -/
def ofNat (n : Nat) : Json :=
  if h : n < 0x10000000000000000 then number (.int (.ofNat n h)) else null

/-- The member of an object under a key. -/
def member? (key : String) : Json → Option Json
  | object ms => Keyed.find? ms key
  | _ => none

/-- How many entries a collection has; anything else has none. -/
def size : Json → Nat
  | array items => items.length
  | object members => members.length
  | _ => 0

end Json

end Wayfinder
