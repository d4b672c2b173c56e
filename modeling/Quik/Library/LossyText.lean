import Mathlib.Data.List.Infix
import Mathlib.Tactic.Common

/-!
# Text from Bytes that May Not Be Text

The lossy decoding of UTF-8: every well-formed sequence becomes its character,
and every maximal part that could have begun one, but did not go on, becomes a
single replacement character. So the text is not the bytes, nor even as long as
they are, and it changes behind a cut in the middle of a character.

What the text says about ASCII is still what the bytes say. Decoding replaces
pieces without an ASCII byte by single characters outside ASCII and keeps every
ASCII byte as it stands; `Blur` is that relation, and an ASCII pattern begins
or occurs in the text exactly if it does in the bytes.

## Main definitions

* `charWidth`, `continuation`: How far the sequence after a lead byte goes.
* `lossyChars`: The lossy decoding.
* `Blur`: Bytes and a text that agree on ASCII.

## Theorems

* `blur_lossyChars`: The decoding agrees with the bytes on ASCII.
* `Blur.prefix_iff`, `Blur.infix_iff`: What a text so related begins with, and
    what occurs in it.
-/

namespace Quik

/-- The length of a sequence with this lead byte, 0 if there is none. -/
def charWidth (b : UInt8) : Nat :=
  if b < 0x80 then 1
  else if b < 0xC2 then 0
  else if b < 0xE0 then 2
  else if b < 0xF0 then 3
  else if b < 0xF5 then 4
  else 0

def isContinuation (c : UInt8) : Bool :=
  decide (0x80 ≤ c ∧ c ≤ 0xBF)

/-- What may stand second: no overlong form, no surrogate, nothing beyond the
    last code point. -/
def isSecond (b c : UInt8) : Bool :=
  if b = 0xE0 then decide (0xA0 ≤ c ∧ c ≤ 0xBF)
  else if b = 0xED then decide (0x80 ≤ c ∧ c ≤ 0x9F)
  else if b = 0xF0 then decide (0x90 ≤ c ∧ c ≤ 0xBF)
  else if b = 0xF4 then decide (0x80 ≤ c ∧ c ≤ 0x8F)
  else isContinuation c

/-- The continuation bytes that can be read, at most `n`, with a test of its
    own for the first of them. -/
def continuation : Nat → (UInt8 → Bool) → List UInt8 → List UInt8
  | n + 1, ok, c :: rest => if ok c then c :: continuation n isContinuation rest else []
  | _, _, _ => []

/-- The bits of the lead byte that belong to the code point. -/
def leadBits (b : UInt8) : Nat :=
  match charWidth b with
  | 2 => b.toNat % 32
  | 3 => b.toNat % 16
  | 4 => b.toNat % 8
  | _ => b.toNat

/-- The character of a lead byte and what was read after it. -/
def sequenceChar (b : UInt8) (tail : List UInt8) : Char :=
  if tail.length + 1 = charWidth b then
    Char.ofNat (tail.foldl (fun n c => 64 * n + c.toNat % 64) (leadBits b))
  else Char.ofNat 0xFFFD

/-- The decoding of at most `fuel` characters. -/
def lossyChars : Nat → List UInt8 → List Char
  | fuel + 1, b :: rest =>
    let tail := continuation (charWidth b - 1) (isSecond b) rest
    sequenceChar b tail :: lossyChars fuel (rest.drop tail.length)
  | _, _ => []

/-- A byte below 128 as a character. -/
def asciiChar (b : UInt8) : Char :=
  Char.ofNat b.toNat

/-- A text that keeps every ASCII byte and has one character outside ASCII in
    the place of each piece without any. -/
inductive Blur : List UInt8 → List Char → Prop where
  | nil : Blur [] []
  | ascii {b bs cs} (hb : b < 0x80) (h : Blur bs cs) : Blur (b :: bs) (asciiChar b :: cs)
  | wide {b tail bs c cs} (hb : ∀ x ∈ b :: tail, ¬ x < 0x80) (hc : 128 ≤ c.toNat)
      (h : Blur bs cs) : Blur (b :: tail ++ bs) (c :: cs)

/-- The lead bytes outside ASCII, by the width of their sequences. -/
theorem charWidth_cases {b : UInt8} (hb : ¬ b < 0x80) :
    charWidth b = 0 ∨ (charWidth b = 2 ∧ 0xC2 ≤ b.toNat ∧ b.toNat < 0xE0) ∨
      (charWidth b = 3 ∧ 0xE0 ≤ b.toNat ∧ b.toNat < 0xF0) ∨
      (charWidth b = 4 ∧ 0xF0 ≤ b.toNat ∧ b.toNat < 0xF5) := by
  unfold charWidth
  simp only [UInt8.lt_iff_toNat_lt, UInt8.reduceToNat] at hb ⊢
  rw [if_neg hb]
  -- One goal for each row of the table, with the bounds of that row.
  repeat' split
  all_goals omega

/-- What the second byte of a sequence is bounded by. -/
theorem isSecond_bounds {b c : UInt8} (h : isSecond b c = true) :
    0x80 ≤ c.toNat ∧ c.toNat ≤ 0xBF ∧ (b.toNat = 0xE0 → 0xA0 ≤ c.toNat) ∧
      (b.toNat = 0xED → c.toNat ≤ 0x9F) ∧ (b.toNat = 0xF0 → 0x90 ≤ c.toNat) ∧
      (b.toNat = 0xF4 → c.toNat ≤ 0x8F) := by
  unfold isSecond isContinuation at h
  simp only [← UInt8.toNat_inj, UInt8.le_iff_toNat_le, UInt8.reduceToNat] at h
  repeat' split at h
  all_goals
    rw [decide_eq_true_eq] at h
    omega

theorem isContinuation_bounds {c : UInt8} (h : isContinuation c = true) :
    0x80 ≤ c.toNat ∧ c.toNat ≤ 0xBF := by
  simpa only [isContinuation, decide_eq_true_eq, UInt8.le_iff_toNat_le, UInt8.reduceToNat] using h

theorem not_ascii_iff {c : UInt8} : ¬ c < 0x80 ↔ 0x80 ≤ c.toNat := by
  rw [UInt8.lt_iff_toNat_lt]
  exact Nat.not_lt

/-- What is read after a lead byte is a piece of the bytes, none of them ASCII
    if the test for the first one sees to it. -/
theorem continuation_spec (n : Nat) {ok : UInt8 → Bool} (hok : ∀ c, ok c = true → ¬ c < 0x80)
    (bs : List UInt8) :
    bs = continuation n ok bs ++ bs.drop (continuation n ok bs).length ∧
      ∀ x ∈ continuation n ok bs, ¬ x < 0x80 := by
  induction n generalizing ok bs with
  | zero =>
      rw [continuation]
      · exact ⟨rfl, fun x hx => absurd hx List.not_mem_nil⟩
      · exact fun _ _ _ h => absurd h (by simp only [Nat.zero_ne_add_one, not_false_eq_true])
  | succ n ih =>
      cases bs with
      | nil => exact ⟨rfl, fun x hx => absurd hx List.not_mem_nil⟩
      | cons c rest =>
          rw [continuation]
          by_cases hc : ok c = true
          -- Behind the first byte the test is the same for all.
          · have hcont : ∀ d, isContinuation d = true → ¬ d < 0x80 :=
              fun d hd => not_ascii_iff.mpr (isContinuation_bounds hd).1
            rcases ih hcont rest with ⟨heq, hall⟩
            rw [if_pos hc, List.cons_append, List.length_cons, List.drop_succ_cons, ← heq]
            refine ⟨rfl, fun x hx => ?_⟩
            rcases List.mem_cons.mp hx with rfl | hx
            · exact hok x hc
            · exact hall x hx
          · rw [if_neg hc]
            exact ⟨rfl, fun x hx => absurd hx List.not_mem_nil⟩

/-- The bytes a full sequence consists of. -/
theorem continuation_full {n : Nat} {ok : UInt8 → Bool} {bs : List UInt8}
    (h : (continuation (n + 1) ok bs).length = n + 1) : ∃ c rest, continuation (n + 1) ok bs =
      c :: continuation n isContinuation rest ∧ ok c = true ∧
      (continuation n isContinuation rest).length = n := by
  cases bs with
  | nil => exact absurd h (Nat.succ_ne_zero n).symm
  | cons c rest =>
      rw [continuation] at h ⊢
      by_cases hc : ok c = true
      · rw [if_pos hc, List.length_cons] at h
        exact ⟨c, rest, by rw [if_pos hc], hc, Nat.succ.inj h⟩
      · rw [if_neg hc] at h
        exact absurd h (Nat.succ_ne_zero n).symm

theorem toNat_ofNat_of_valid {n : Nat} (h : n < 0xD800 ∨ (0xDFFF < n ∧ n < 0x110000)) :
    (Char.ofNat n).toNat = n := by
  have hvalid : n.isValidChar := h
  rw [Char.ofNat, dif_pos hvalid]
  rfl

/-- Every character of more than one byte is outside ASCII, and so is the
    replacement character. -/
theorem sequenceChar_wide {b : UInt8} (hb : ¬ b < 0x80) (bs : List UInt8) :
    128 ≤ (sequenceChar b (continuation (charWidth b - 1) (isSecond b) bs)).toNat := by
  unfold sequenceChar
  by_cases hlen : (continuation (charWidth b - 1) (isSecond b) bs).length + 1 = charWidth b
  · rw [if_pos hlen, leadBits]
    rcases charWidth_cases hb with h0 | ⟨h2, hlo, hhi⟩ | ⟨h3, hlo, hhi⟩ | ⟨h4, hlo, hhi⟩
    -- A byte that leads nothing has no full sequence.
    · rw [h0] at hlen
      exact absurd hlen (Nat.succ_ne_zero _)
    · rw [h2] at hlen ⊢
      rcases continuation_full (Nat.succ.inj hlen) with ⟨c, rest, heq, hc, _⟩
      have hc := isSecond_bounds hc
      rw [heq, show continuation 0 isContinuation rest = [] from rfl]
      simp only [List.foldl_cons, List.foldl_nil]
      rw [toNat_ofNat_of_valid] <;> omega
    · rw [h3] at hlen ⊢
      rcases continuation_full (Nat.succ.inj hlen) with ⟨c, rest, heq, hc, hlen'⟩
      rcases continuation_full hlen' with ⟨d, rest', heq', hd, _⟩
      have hc := isSecond_bounds hc
      rw [heq, heq', show continuation 0 isContinuation rest' = [] from rfl]
      simp only [List.foldl_cons, List.foldl_nil]
      -- The tests on the second byte keep the code point off the surrogates.
      rw [toNat_ofNat_of_valid] <;> omega
    · rw [h4] at hlen ⊢
      rcases continuation_full (Nat.succ.inj hlen) with ⟨c, rest, heq, hc, hlen'⟩
      rcases continuation_full hlen' with ⟨d, rest', heq', hd, hlen''⟩
      rcases continuation_full hlen'' with ⟨e, rest'', heq'', he, _⟩
      have hc := isSecond_bounds hc
      rw [heq, heq', heq'', show continuation 0 isContinuation rest'' = [] from rfl]
      simp only [List.foldl_cons, List.foldl_nil]
      rw [toNat_ofNat_of_valid] <;> omega
  -- A sequence that breaks off becomes the replacement character.
  · rw [if_neg hlen]
    decide

/-- The decoding of all the bytes agrees with them on ASCII. -/
theorem blur_lossyChars {fuel : Nat} {bs : List UInt8} (h : bs.length ≤ fuel) :
    Blur bs (lossyChars fuel bs) := by
  induction fuel generalizing bs with
  | zero =>
      rw [List.eq_nil_of_length_eq_zero (Nat.le_zero.mp h)]
      exact Blur.nil
  | succ fuel ih =>
      cases bs with
      | nil => exact Blur.nil
      | cons b rest =>
          rw [List.length_cons] at h
          rw [lossyChars]
          by_cases hb : b < 0x80
          · -- One byte, one character: there is nothing to read after it.
            have hwidth : charWidth b = 1 := if_pos hb
            have htail : continuation (charWidth b - 1) (isSecond b) rest = [] := by
              rw [hwidth]
              rfl
            have hchar : sequenceChar b [] = asciiChar b := by
              rw [sequenceChar, hwidth, leadBits, hwidth]
              exact if_pos rfl
            simp only [htail, List.length_nil, List.drop_zero, hchar]
            exact Blur.ascii hb (ih (Nat.le_of_succ_le_succ h))
          · have hok : ∀ c, isSecond b c = true → ¬ c < 0x80 :=
              fun c hc => not_ascii_iff.mpr (isSecond_bounds hc).1
            rcases continuation_spec (charWidth b - 1) hok rest with ⟨heq, hall⟩
            -- What was read after the lead byte is skipped, and the rest is decoded.
            have hrest : Blur (rest.drop (continuation (charWidth b - 1) (isSecond b) rest).length)
                (lossyChars fuel
                  (rest.drop (continuation (charWidth b - 1) (isSecond b) rest).length)) := by
              refine ih ?_
              rw [List.length_drop]
              omega
            have hwide := Blur.wide (b := b)
              (fun x hx => (List.mem_cons.mp hx).elim (fun hxb => hxb ▸ hb) (hall x))
              (sequenceChar_wide hb rest) hrest
            rw [List.cons_append, ← heq] at hwide
            exact hwide

theorem asciiChar_toNat (b : UInt8) : (asciiChar b).toNat = b.toNat := by
  have hlt := b.toNat_lt
  exact toNat_ofNat_of_valid (by omega)

theorem asciiChar_injective : Function.Injective asciiChar := by
  intro a b h
  have hn := congrArg Char.toNat h
  rw [asciiChar_toNat, asciiChar_toNat] at hn
  exact UInt8.toNat_inj.mp hn

/-- Nothing that begins with an ASCII byte begins at one that is not. -/
theorem ascii_ne {a b : UInt8} {c : Char} (ha : a < 0x80) (hb : ¬ b < 0x80)
    (hc : 128 ≤ c.toNat) : a ≠ b ∧ asciiChar a ≠ c := by
  refine ⟨fun h => hb (h ▸ ha), fun h => not_ascii_iff.mpr ?_ ha⟩
  rw [← asciiChar_toNat, h]
  exact hc

/-- The text begins with what the bytes begin with. -/
theorem Blur.prefix_iff {bs : List UInt8} {cs : List Char} (h : Blur bs cs) {p : List UInt8}
    (hp : ∀ x ∈ p, x < 0x80) : p.map asciiChar <+: cs ↔ p <+: bs := by
  induction h generalizing p with
  | nil => rw [List.prefix_nil, List.prefix_nil, List.map_eq_nil_iff]
  | ascii hb h ih =>
      cases p with
      | nil => simp only [List.map_nil, List.nil_prefix]
      | cons a p =>
          rw [List.map_cons, List.cons_prefix_cons, List.cons_prefix_cons,
            ih (fun x hx => hp x (List.mem_cons_of_mem a hx)), asciiChar_injective.eq_iff]
  | wide hb hc h ih =>
      cases p with
      | nil => simp only [List.map_nil, List.nil_prefix]
      | cons a p =>
          have hne := ascii_ne (hp a List.mem_cons_self) (hb _ List.mem_cons_self) hc
          rw [List.map_cons, List.cons_append, List.cons_prefix_cons, List.cons_prefix_cons]
          exact ⟨fun h => absurd h.1 hne.2, fun h => absurd h.1 hne.1⟩

/-- A pattern that begins in ASCII does not begin inside a piece without any. -/
theorem infix_append_wide {a : UInt8} {p l bs : List UInt8} (ha : a < 0x80)
    (hl : ∀ x ∈ l, ¬ x < 0x80) : a :: p <:+: l ++ bs ↔ a :: p <:+: bs := by
  induction l with
  | nil => rw [List.nil_append]
  | cons x l ih =>
      have hx : ¬ x < 0x80 := hl x List.mem_cons_self
      rw [List.cons_append, List.infix_cons_iff, List.cons_prefix_cons,
        ih (fun y hy => hl y (List.mem_cons_of_mem x hy))]
      exact or_iff_right (fun h => hx (h.1 ▸ ha))

/-- In the text occurs what occurs in the bytes. -/
theorem Blur.infix_iff {bs : List UInt8} {cs : List Char} (h : Blur bs cs) {p : List UInt8}
    (hp : ∀ x ∈ p, x < 0x80) (hne : p ≠ []) : p.map asciiChar <:+: cs ↔ p <:+: bs := by
  induction h with
  | nil => rw [List.infix_nil, List.infix_nil, List.map_eq_nil_iff]
  | ascii hb h ih =>
      rw [List.infix_cons_iff, List.infix_cons_iff, ih, (Blur.ascii hb h).prefix_iff hp]
  | wide hb hc h ih =>
      cases p with
      | nil => exact absurd rfl hne
      | cons a p =>
          have ha := hp a List.mem_cons_self
          rw [infix_append_wide ha hb, List.infix_cons_iff, ih, List.map_cons,
            List.cons_prefix_cons]
          exact or_iff_right
            (fun h => (ascii_ne ha (hb _ List.mem_cons_self) hc).2 h.1)

end Quik
