import Quik.Header

/-!
# Text as Header Values

When a text is a legal header value, and that a value which is text is its own
UTF-8. Legality is checked byte by byte, so a text put together from parts is
legal exactly if its parts are; a text of printable ASCII always is.

## Main definitions

* `isLegalText`: `HeaderValue::from_str` accepts the text.
* `HeaderValue.chars`, `lowerLine`: A value as a list of characters, and in
  lower case.

## Theorems

* `fromStr_isSome`: What the check is.
* `isLegalText_append`, `isLegalText_intercalate`: The parts decide.
* `isLegalText_of_printable`: Printable ASCII is legal.
* `utf8_of_toStr`: A value read as text has the bytes of the text.
-/

namespace Quik

theorem utf8_append (s t : String) : utf8 (s ++ t) = utf8 s ++ utf8 t := by
  simp only [utf8, String.toUTF8, String.toByteArray_append, ByteArray.data_append,
    Array.toList_append]

theorem utf8_ofList (chars : List Char) :
    utf8 (String.ofList chars) = chars.flatMap String.utf8EncodeChar := by
  simp only [utf8, String.toUTF8, String.toByteArray_ofList, List.utf8Encode,
    List.data_toByteArray]

theorem utf8_eq (s : String) : utf8 s = s.toList.flatMap String.utf8EncodeChar := by
  rw [← utf8_ofList, String.ofList_toList]

/-- The text passes the check of a header value. -/
def isLegalText (s : String) : Bool :=
  (utf8 s).all isHeaderByte

theorem fromStr_isSome (s : String) : (HeaderValue.fromStr s).isSome = isLegalText s := by
  unfold HeaderValue.fromStr HeaderValue.fromBytes isLegalText
  by_cases h : (utf8 s).all isHeaderByte = true
  · rw [dif_pos h, h, Option.isSome_some]
  · rw [dif_neg h, Bool.eq_false_iff.mpr h, Option.isSome_none]

/-- The bytes of a value as characters. -/
def HeaderValue.chars (v : HeaderValue) : List Char :=
  v.bytes.map (fun b => Char.ofNat b.toNat)

/-- A header line as characters, in lower case. -/
def lowerLine (v : HeaderValue) : List Char :=
  v.chars.map Char.toLower

theorem HeaderValue.toStr_eq (v : HeaderValue) :
    v.toStr = if v.bytes.all isVisibleAscii then some (String.ofList v.chars) else none := rfl

theorem isLegalText_append (s t : String) :
    isLegalText (s ++ t) = (isLegalText s && isLegalText t) := by
  rw [isLegalText, utf8_append, List.all_append]
  rfl

/-- A joined text is legal exactly if every part is. -/
theorem isLegalText_intercalate {sep : String} (hsep : isLegalText sep = true)
    (parts : List String) :
    isLegalText (String.intercalate sep parts) = parts.all isLegalText := by
  induction parts with
  | nil => rfl
  | cons p rest ih =>
      cases rest with
      | nil => rw [String.intercalate_singleton, List.all_cons, List.all_nil, Bool.and_true]
      | cons q rest =>
          rw [String.intercalate_cons_cons, isLegalText_append, isLegalText_append, hsep,
            Bool.and_true, ih]
          rfl

/-- A character of printable ASCII. -/
def isPrintable (ch : Char) : Bool :=
  ' ' ≤ ch && ch ≤ '~'

theorem utf8EncodeChar_ascii {ch : Char} (h : ch.val.toNat ≤ 127) :
    String.utf8EncodeChar ch = [UInt8.ofNat ch.val.toNat] := by
  unfold String.utf8EncodeChar
  exact if_pos h

theorem isPrintable_iff {ch : Char} :
    isPrintable ch = true ↔ 32 ≤ ch.val.toNat ∧ ch.val.toNat ≤ 126 := by
  rw [isPrintable, Bool.and_eq_true, decide_eq_true_eq, decide_eq_true_eq]
  exact Iff.rfl

theorem isHeaderByte_ofNat : ∀ n : Nat, n ≤ 126 → 32 ≤ n → isHeaderByte (UInt8.ofNat n) = true := by
  decide

/-- Printable ASCII is legal. -/
theorem isLegalText_of_printable {s : String} (h : s.toList.all isPrintable = true) :
    isLegalText s = true := by
  rw [isLegalText, utf8_eq, List.all_flatMap, List.all_eq_true]
  intro ch hch
  rcases isPrintable_iff.mp (List.all_eq_true.mp h ch hch) with ⟨hlow, hhigh⟩
  rw [utf8EncodeChar_ascii (Nat.le_succ_of_le hhigh), List.all_cons, List.all_nil, Bool.and_true]
  exact isHeaderByte_ofNat _ hhigh hlow

/-- A byte that `to_str` accepts is the UTF-8 of its character. -/
theorem utf8EncodeChar_ofNat {b : UInt8} (h : isVisibleAscii b = true) :
    String.utf8EncodeChar (Char.ofNat b.toNat) = [b] := by
  have hascii : ∀ n < 128, (Char.ofNat n).val.toNat = n := by decide +kernel
  have hlt : b.toNat < 128 := by
    simp only [isVisibleAscii, Bool.or_eq_true, Bool.and_eq_true, decide_eq_true_eq] at h
    rcases h with ⟨_, hlt⟩ | heq
    · exact Nat.lt_trans (UInt8.lt_iff_toNat_lt.mp hlt) (by decide)
    · rw [heq]
      decide
  rw [utf8EncodeChar_ascii (by rw [hascii _ hlt]; omega), hascii _ hlt, UInt8.ofNat_toNat]

/-- A value that is read as text has the bytes of the text. -/
theorem utf8_of_toStr {v : HeaderValue} {s : String} (h : v.toStr = some s) :
    utf8 s = v.bytes := by
  unfold HeaderValue.toStr at h
  split at h
  · rename_i hall
    rw [← Option.some.inj h, utf8_ofList, List.flatMap_map]
    have hbytes : ∀ bs : Bytes, bs.all isVisibleAscii = true →
        bs.flatMap (fun b => String.utf8EncodeChar (Char.ofNat b.toNat)) = bs := by
      intro bs
      induction bs with
      | nil => exact fun _ => rfl
      | cons b bs ih =>
          intro hbs
          rw [List.all_cons, Bool.and_eq_true] at hbs
          rw [List.flatMap_cons, utf8EncodeChar_ofNat hbs.1, ih hbs.2]
          rfl
    exact hbytes v.bytes hall
  · exact absurd h (by simp only [reduceCtorEq, not_false_eq_true])

end Quik
