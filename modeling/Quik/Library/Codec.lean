import Mathlib.Tactic.Common

/-!
# Codecs

Values written as sequences of symbols that can be read back with more
following: the law of a `Codec` says that reading what was written gives the
value, and leaves what follows. Codecs compose, by pairs and by lists, and the
law is proved once for each way of composing them.

The codecs here are the fixed-width unsigned numbers, most significant byte
first, and byte strings behind a length byte. A longer string cannot be written
behind one byte, and is excluded by the type.

## Main definitions

* `Codec`: Writing and reading back.
* `Codec.pair`, `Codec.decodeAll`: Two values, and any number of them.
* `be16`, `be32`, `counted`: Numbers, and strings with their length.

## Theorems

* `Codec.decodeAll_encode`: A list that is written comes back.
* `Codec.flatMap_encode_injective`: So that two lists are never written alike.
-/

namespace Quik

/-- A way to write values down that can be read back. -/
structure Codec (σ α : Type*) where
  encode : α → List σ
  decode : List σ → Option (α × List σ)
  decode_encode : ∀ a rest, decode (encode a ++ rest) = some (a, rest)

namespace Codec

variable {σ α β : Type*}

/-- One value after another. -/
def pair (c : Codec σ α) (d : Codec σ β) : Codec σ (α × β) where
  encode := fun p => c.encode p.1 ++ d.encode p.2
  decode := fun bs =>
    match c.decode bs with
    | none => none
    | some (a, rest) =>
      match d.decode rest with
      | none => none
      | some (b, rest) => some ((a, b), rest)
  decode_encode := by
    rintro ⟨a, b⟩ rest
    simp only [List.append_assoc, c.decode_encode, d.decode_encode]

/-- Values until nothing is left, at most `fuel` of them. -/
def decodeMany (c : Codec σ α) : Nat → List σ → Option (List α)
  | _, [] => some []
  | 0, _ :: _ => none
  | fuel + 1, s :: bs =>
    match c.decode (s :: bs) with
    | none => none
    | some (a, rest) => (c.decodeMany fuel rest).map (a :: ·)

/-- Values until nothing is left. -/
def decodeAll (c : Codec σ α) (bs : List σ) : Option (List α) :=
  c.decodeMany bs.length bs

theorem decodeMany_encode (c : Codec σ α) (hne : ∀ a, c.encode a ≠ []) (l : List α) {fuel : Nat}
    (hfuel : (l.flatMap c.encode).length ≤ fuel) :
    c.decodeMany fuel (l.flatMap c.encode) = some l := by
  induction l generalizing fuel with
  | nil =>
      rw [List.flatMap_nil]
      cases fuel <;> rfl
  | cons a l ih =>
      rw [List.flatMap_cons, List.length_append] at hfuel
      -- Every value takes a symbol, so that the fuel lasts to the end.
      have hpos := List.length_pos_iff.mpr (hne a)
      cases fuel with
      | zero => omega
      | succ fuel =>
          have hdec := c.decode_encode a (l.flatMap c.encode)
          rw [List.flatMap_cons]
          cases hs : c.encode a ++ l.flatMap c.encode with
          | nil => exact absurd (List.append_eq_nil_iff.mp hs).1 (hne a)
          | cons s bs =>
              rw [hs] at hdec
              simp only [decodeMany, hdec, ih (by omega : _ ≤ fuel), Option.map_some]

/-- A list of values, one after another, comes back with nothing left over. -/
theorem decodeAll_encode (c : Codec σ α) (hne : ∀ a, c.encode a ≠ []) (l : List α) :
    c.decodeAll (l.flatMap c.encode) = some l :=
  c.decodeMany_encode hne l (Nat.le_refl _)

theorem flatMap_encode_injective (c : Codec σ α) (hne : ∀ a, c.encode a ≠ []) :
    Function.Injective (fun l : List α => l.flatMap c.encode) := by
  intro l l' h
  have hdec := congrArg c.decodeAll h
  rw [c.decodeAll_encode hne, c.decodeAll_encode hne] at hdec
  exact Option.some.inj hdec

end Codec

/-- A 16-bit number, most significant byte first. -/
def be16 : Codec UInt8 UInt16 where
  encode := fun n => [UInt8.ofNat (n.toNat / 256), UInt8.ofNat n.toNat]
  decode := fun bs => match bs with
    | hi :: lo :: rest => some (UInt16.ofNat (256 * hi.toNat + lo.toNat), rest)
    | _ => none
  decode_encode := by
    intro n rest
    have hlt : n.toNat < 65536 := n.toNat_lt
    simp only [List.cons_append, List.nil_append, UInt8.toNat_ofNat', Option.some.injEq,
      Prod.mk.injEq, and_true]
    rw [show 256 * (n.toNat / 256 % 2 ^ 8) + n.toNat % 2 ^ 8 = n.toNat by omega]
    exact UInt16.ofNat_toNat

/-- Reading one takes two bytes. -/
theorem be16_decode_length {bs : List UInt8} {r : UInt16 × List UInt8}
    (h : be16.decode bs = some r) : bs.length = r.2.length + 2 := by
  cases bs with
  | nil => exact absurd h (by simp only [be16, reduceCtorEq, not_false_eq_true])
  | cons hi bs =>
      cases bs with
      | nil => exact absurd h (by simp only [be16, reduceCtorEq, not_false_eq_true])
      | cons lo bs => rw [← Option.some.inj h, List.length_cons, List.length_cons]

/-- A 32-bit number, most significant byte first. -/
def be32 : Codec UInt8 UInt32 where
  encode := fun n => [UInt8.ofNat (n.toNat / 16777216), UInt8.ofNat (n.toNat / 65536),
    UInt8.ofNat (n.toNat / 256), UInt8.ofNat n.toNat]
  decode := fun bs => match bs with
    | a :: b :: c :: d :: rest =>
      some (UInt32.ofNat (16777216 * a.toNat + 65536 * b.toNat + 256 * c.toNat + d.toNat), rest)
    | _ => none
  decode_encode := by
    intro n rest
    have hlt : n.toNat < 4294967296 := n.toNat_lt
    simp only [List.cons_append, List.nil_append, UInt8.toNat_ofNat', Option.some.injEq,
      Prod.mk.injEq, and_true]
    rw [show 16777216 * (n.toNat / 16777216 % 2 ^ 8) + 65536 * (n.toNat / 65536 % 2 ^ 8) +
      256 * (n.toNat / 256 % 2 ^ 8) + n.toNat % 2 ^ 8 = n.toNat by omega]
    exact UInt32.ofNat_toNat

/-- A string of at most 255 bytes, behind its length. -/
def counted : Codec UInt8 { l : List UInt8 // l.length ≤ 255 } where
  encode := fun l => UInt8.ofNat l.1.length :: l.1
  decode := fun bs => match bs with
    | [] => none
    | len :: rest =>
      if len.toNat ≤ rest.length then
        some (⟨rest.take len.toNat, by
          have hlt := len.toNat_lt
          have hle := List.length_take_le len.toNat rest
          omega⟩, rest.drop len.toNat)
      else none
  decode_encode := by
    rintro ⟨l, hl⟩ rest
    have hlen : (UInt8.ofNat l.length).toNat = l.length := by
      rw [UInt8.toNat_ofNat']
      omega
    simp only [List.cons_append, hlen, List.length_append, Nat.le_add_right, if_true,
      List.take_left, List.drop_left]

end Quik
