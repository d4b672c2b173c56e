import Mathlib.Data.List.Infix
import Quik.Library.Assoc

/-!
# Header Maps

The header types of the `http` crate as the client uses them.

A `HeaderValue` is a list of bytes that passed the crate's check, so a value
with a control character in it cannot be built; the check is the field
`legal`. `fromBytes` and `fromStr` run the check on their input, `toStr` gives
the text back when every byte is visible ASCII or a tab.

A `HeaderMap` holds one or more values per name, and its names in the order
they first arrived. `insert` replaces every value of a name, `append` adds one,
`get` reads the first and `getAll` reads them in order. Names are held in lower
case.

## Main definitions

* `HeaderValue`, `HeaderValue.fromStr`, `HeaderValue.toStr`: Checked values.
* `HeaderMap`, `HeaderMap.insert`, `HeaderMap.append`: The multi-map.
* `HeaderMap.markSensitive`: Setting the sensitive flag on some names.
* `parseHeaderName`: The check and normalization of a name off the wire.

## Theorems

* `HeaderValue.fromStr_bytes`: A converted string keeps its bytes.
* `HeaderMap.get_insert_self`, `HeaderMap.get_insert_of_ne`: Reading after an
  overwrite.
* `HeaderMap.getAll_append`: Reading after an addition.
* `HeaderMap.get_markSensitive`: The flag pass keeps every value's bytes.
-/

namespace Quik

abbrev Bytes := List UInt8

/-- The UTF-8 bytes of a string. -/
def utf8 (s : String) : Bytes :=
  s.toUTF8.data.toList

theorem utf8_injective {s t : String} (h : utf8 s = utf8 t) : s = t := by
  rw [← String.toByteArray_inj]
  exact ByteArray.ext (Array.toList_inj.mp h)

/-- Substring test, `str::contains`. -/
def containsStr (text pattern : String) : Bool :=
  decide (pattern.toList <:+: text.toList)

/-- A byte that may stand in a header value. -/
def isHeaderByte (b : UInt8) : Bool :=
  (32 ≤ b && b ≠ 127) || b = 9

/-- A byte `to_str` accepts: visible ASCII, a space or a tab. -/
def isVisibleAscii (b : UInt8) : Bool :=
  (32 ≤ b && b < 127) || b = 9

/-- A header value: bytes that passed the check, and the flag that keeps the
    value out of the compression tables. -/
structure HeaderValue where
  bytes : Bytes
  sensitive : Bool := false
  legal : bytes.all isHeaderByte = true
deriving DecidableEq

namespace HeaderValue

/-- `HeaderValue::from_bytes`. -/
def fromBytes (bs : Bytes) : Option HeaderValue :=
  if h : bs.all isHeaderByte = true then some { bytes := bs, legal := h } else none

/-- `HeaderValue::from_str`. -/
def fromStr (s : String) : Option HeaderValue :=
  fromBytes (utf8 s)

/-- `HeaderValue::from_static`, for a text known to be legal. -/
def fromStatic (s : String) (h : (utf8 s).all isHeaderByte = true := by decide +kernel) :
    HeaderValue :=
  { bytes := utf8 s, legal := h }

/-- `to_str`: the text, if every byte is visible ASCII or a tab. -/
def toStr (v : HeaderValue) : Option String :=
  if v.bytes.all isVisibleAscii then
    some (String.ofList (v.bytes.map (fun b => Char.ofNat b.toNat)))
  else none

theorem fromStr_bytes {s : String} {v : HeaderValue} (h : fromStr s = some v) :
    v.bytes = utf8 s := by
  unfold fromStr fromBytes at h
  split at h
  · rw [← Option.some.inj h]
  · exact absurd h (by simp only [reduceCtorEq, not_false_eq_true])

end HeaderValue

/-- `HeaderName::from_bytes`: every byte a token character, letters put in
    lower case; `none` for an empty, overlong or illegal name. -/
def parseHeaderName (bs : Bytes) : Option String :=
  let chars := bs.map (fun b => Char.ofNat b.toNat)
  if !bs.isEmpty && bs.length < 65536 &&
      chars.all (fun c => c.isAlphanum || "!#$%&'*+-.^_`|~".toList.contains c) then
    some (String.ofList (chars.map Char.toLower))
  else none

/-- A multi-map from header names to values. Names are distinct and each one
    present has a value. -/
structure HeaderMap where
  entries : List (String × List HeaderValue)
  nodup : (entries.map Prod.fst).Nodup
  nonempty : ∀ e ∈ entries, e.2 ≠ []
deriving DecidableEq

namespace HeaderMap

/-- `HeaderMap::new`. -/
def new : HeaderMap :=
  { entries := [], nodup := List.nodup_nil, nonempty := fun _ he => absurd he List.not_mem_nil }

/-- `insert`: the value replaces every value of the name. -/
def insert (m : HeaderMap) (name : String) (v : HeaderValue) : HeaderMap where
  entries := Assoc.alter name (fun _ => [v]) m.entries
  nodup := Assoc.nodup_keys_alter m.nodup
  nonempty := Assoc.forall_values_alter (P := fun vs => vs ≠ []) (fun _ => List.cons_ne_nil v [])
    m.nonempty

/-- `append`: the value is added after the values of the name. -/
def append (m : HeaderMap) (name : String) (v : HeaderValue) : HeaderMap where
  entries := Assoc.alter name (fun vs => vs.getD [] ++ [v]) m.entries
  nodup := Assoc.nodup_keys_alter m.nodup
  nonempty := Assoc.forall_values_alter (P := fun vs => vs ≠ [])
    (fun vs => List.append_ne_nil_of_right_ne_nil (vs.getD []) (List.cons_ne_nil v [])) m.nonempty

/-- `insert` of a value that may have failed its check, which leaves the map
    as it is then. -/
def insertOk (m : HeaderMap) (name : String) (v : Option HeaderValue) : HeaderMap :=
  match v with
  | some v => m.insert name v
  | none => m

/-- `get_all`: every value of the name, in order. -/
def getAll (m : HeaderMap) (name : String) : List HeaderValue :=
  (m.entries.lookup name).getD []

/-- `get`: the first value of the name. -/
def get (m : HeaderMap) (name : String) : Option HeaderValue :=
  (m.getAll name).head?

/-- The pass over all values that sets the sensitive flag of the names `p`
    picks out. -/
def markSensitive (p : String → Bool) (m : HeaderMap) : HeaderMap where
  entries := m.entries.map
    (fun e => (e.1, if p e.1 then e.2.map (fun v => { v with sensitive := true }) else e.2))
  nodup := by
    rw [List.map_map]
    exact m.nodup
  nonempty := by
    intro e he
    rcases List.mem_map.mp he with ⟨e', he', rfl⟩
    have hne := m.nonempty e' he'
    by_cases hp : p e'.1 = true
    · simpa only [hp, if_true, ne_eq, List.map_eq_nil_iff] using hne
    · simpa only [hp, Bool.false_eq_true, if_false] using hne

@[simp] theorem get_new (name : String) : new.get name = none := rfl

@[simp] theorem getAll_insert_self (m : HeaderMap) (name : String) (v : HeaderValue) :
    (m.insert name v).getAll name = [v] := by
  rw [getAll, insert, Assoc.lookup_alter_self, Option.getD_some]

@[simp] theorem get_insert_self (m : HeaderMap) (name : String) (v : HeaderValue) :
    (m.insert name v).get name = some v := by
  rw [get, getAll_insert_self, List.head?_cons]

theorem getAll_insert_of_ne (m : HeaderMap) {name other : String} (v : HeaderValue)
    (h : other ≠ name) : (m.insert name v).getAll other = m.getAll other := by
  rw [getAll, insert, Assoc.lookup_alter_of_ne h, getAll]

theorem get_insert_of_ne (m : HeaderMap) {name other : String} (v : HeaderValue)
    (h : other ≠ name) : (m.insert name v).get other = m.get other := by
  rw [get, getAll_insert_of_ne m v h, get]

@[simp] theorem getAll_new (name : String) : new.getAll name = [] := rfl

/-- Reading after an addition: the value comes last under its name. -/
theorem getAll_append (m : HeaderMap) (name other : String) (v : HeaderValue) :
    (m.append name v).getAll other = m.getAll other ++ if name = other then [v] else [] := by
  rw [getAll, append]
  by_cases h : name = other
  · rw [if_pos h, h, Assoc.lookup_alter_self, Option.getD_some, getAll]
  · rw [if_neg h, Assoc.lookup_alter_of_ne (fun hc => h hc.symm), List.append_nil, getAll]

theorem get_insertOk_self (m : HeaderMap) (name : String) (v : Option HeaderValue) :
    (m.insertOk name v).get name = v.or (m.get name) := by
  cases v with
  | none => rfl
  | some v => exact get_insert_self m name v

theorem get_insertOk_of_ne (m : HeaderMap) {name other : String} (v : Option HeaderValue)
    (h : other ≠ name) : (m.insertOk name v).get other = m.get other := by
  cases v with
  | none => rfl
  | some v => exact get_insert_of_ne m v h

theorem lookup_map_values (f : String → List HeaderValue → List HeaderValue) (name : String)
    (l : List (String × List HeaderValue)) :
    (l.map (fun e => (e.1, f e.1 e.2))).lookup name = (l.lookup name).map (f name) := by
  induction l with
  | nil => rfl
  | cons e l ih =>
      rw [List.map_cons, Assoc.lookup_cons_ite, Assoc.lookup_cons_ite, ih]
      by_cases h : e.1 = name
      · rw [if_pos h, if_pos h, h, Option.map_some]
      · rw [if_neg h, if_neg h]

/-- The flag pass touches no bytes. -/
theorem get_markSensitive (p : String → Bool) (m : HeaderMap) (name : String) :
    (m.markSensitive p).get name =
      if p name then (m.get name).map (fun v => { v with sensitive := true }) else m.get name := by
  rw [get, getAll, markSensitive,
    lookup_map_values (fun n vs => if p n then vs.map (fun v => { v with sensitive := true })
      else vs), get, getAll]
  cases m.entries.lookup name with
  | none => simp only [Option.map_none, Option.getD_none, List.head?_nil, ite_self]
  | some vs =>
      by_cases hp : p name = true
      · simp only [hp, if_true, Option.map_some, Option.getD_some, List.head?_map]
      · simp only [hp, Bool.false_eq_true, if_false, Option.map_some, Option.getD_some]

end HeaderMap

end Quik
