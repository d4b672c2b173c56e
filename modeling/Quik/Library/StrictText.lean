import Quik.Library.LossyText

/-!
# Text from Bytes that Must Be Text

The strict decoding of UTF-8. It reads the sequences the lossy decoding reads,
and where that one would write a replacement character this one stops and says
where: how many bytes before it are text, and how long the piece is that cannot
be, unless the bytes just break off.

Decoding and encoding are inverse to each other, and what an error says of the
bytes before it is true: they are the encoding of a text, and of the longest one
that the bytes begin with.

## Main definitions

* `Utf8Error`: Where the bytes stop being text.
* `strictChars`: The strict decoding.
* `encode`: The encoding of characters.

## Theorems

* `encode_sequence`, `decode_encodeChar`: One sequence, one character.
* `strictChars_encode`, `encode_of_strictChars`: The two are inverse.
* `strictChars_error`: What an error says is true.
-/

namespace Quik

/-- Where bytes stop being text: how many are text, and the length of the piece
    after them, or `none` if the bytes break off in it. -/
structure Utf8Error where
  validUpTo : Nat
  errorLen : Option Nat
deriving DecidableEq

/-- The decoding of at most `fuel` characters, behind bytes that were seen. -/
def strictChars : Nat → Nat → List UInt8 → Except Utf8Error (List Char)
  | fuel + 1, seen, b :: rest =>
    let tail := continuation (charWidth b - 1) (isSecond b) rest
    if tail.length + 1 = charWidth b then
      (strictChars fuel (seen + charWidth b) (rest.drop tail.length)).map (sequenceChar b tail :: ·)
    else .error
      { validUpTo := seen
        errorLen := if tail.length + 1 < charWidth b ∧ tail.length = rest.length then none
          else some (tail.length + 1) }
  | _, _, _ => .ok []

/-- The encoding of characters. -/
def encode (chars : List Char) : List UInt8 :=
  chars.flatMap String.utf8EncodeChar

theorem isContinuation_of_bounds {c : UInt8} (h : 0x80 ≤ c.toNat ∧ c.toNat ≤ 0xBF) :
    isContinuation c = true := by
  simpa only [isContinuation, decide_eq_true_eq, UInt8.le_iff_toNat_le, UInt8.reduceToNat] using h

theorem isSecond_of_bounds {b c : UInt8} (hlo : 0x80 ≤ c.toNat) (hhi : c.toNat ≤ 0xBF)
    (h : (b.toNat = 0xE0 → 0xA0 ≤ c.toNat) ∧ (b.toNat = 0xED → c.toNat ≤ 0x9F) ∧
      (b.toNat = 0xF0 → 0x90 ≤ c.toNat) ∧ (b.toNat = 0xF4 → c.toNat ≤ 0x8F)) :
    isSecond b c = true := by
  unfold isSecond isContinuation
  simp only [← UInt8.toNat_inj, UInt8.le_iff_toNat_le, UInt8.reduceToNat]
  repeat' split
  all_goals
    rw [decide_eq_true_eq]
    omega

/-- The code points of characters. -/
theorem toNat_bounds (c : Char) : c.toNat < 0xD800 ∨ 0xDFFF < c.toNat ∧ c.toNat < 0x110000 :=
  c.valid

/-- The bytes of a character as numbers. -/
theorem encodeChar_eq (c : Char) : (String.utf8EncodeChar c).map UInt8.toNat =
    if c.toNat < 0x80 then [c.toNat]
    else if c.toNat < 0x800 then [c.toNat / 64 + 0xC0, c.toNat % 64 + 0x80]
    else if c.toNat < 0x10000 then
      [c.toNat / 4096 + 0xE0, c.toNat / 64 % 64 + 0x80, c.toNat % 64 + 0x80]
    else [c.toNat / 262144 + 0xF0, c.toNat / 4096 % 64 + 0x80, c.toNat / 64 % 64 + 0x80,
      c.toNat % 64 + 0x80] := by
  have hvalid := toNat_bounds c
  have hval : c.val.toNat = c.toNat := rfl
  unfold String.utf8EncodeChar
  simp only [hval]
  repeat' split
  all_goals
    first
    | omega
    | (simp only [List.map_cons, List.map_nil, UInt8.toNat_ofNat', List.cons.injEq, and_true]
       omega)

theorem map_toNat_injective {as bs : List UInt8} (h : as.map UInt8.toNat = bs.map UInt8.toNat) :
    as = bs :=
  List.map_injective_iff.mpr (fun _ _ => UInt8.toNat_inj.mp) h

/-- The bytes of a full sequence are the encoding of its character. -/
theorem encode_sequence {b : UInt8} {rest : List UInt8}
    (h : (continuation (charWidth b - 1) (isSecond b) rest).length + 1 = charWidth b) :
    String.utf8EncodeChar (sequenceChar b (continuation (charWidth b - 1) (isSecond b) rest)) =
      b :: continuation (charWidth b - 1) (isSecond b) rest := by
  refine map_toNat_injective ?_
  rw [encodeChar_eq, sequenceChar, if_pos h, leadBits]
  by_cases hb : b < 0x80
  · have hwidth : charWidth b = 1 := if_pos hb
    have hlt : b.toNat < 0x80 := by
      simpa only [UInt8.lt_iff_toNat_lt, UInt8.reduceToNat] using hb
    rw [hwidth, show continuation (1 - 1) (isSecond b) rest = [] from rfl]
    simp only [List.foldl_nil]
    rw [toNat_ofNat_of_valid (by omega), if_pos hlt]
    rfl
  -- With the bounds on each byte, the bits put together split as they were.
  · rcases charWidth_cases hb with h0 | ⟨h2, hlo, hhi⟩ | ⟨h3, hlo, hhi⟩ | ⟨h4, hlo, hhi⟩
    · rw [h0] at h
      exact absurd h (Nat.succ_ne_zero _)
    · rw [h2] at h ⊢
      rcases continuation_full (Nat.succ.inj h) with ⟨c, rest, heq, hc, _⟩
      have hc := isSecond_bounds hc
      rw [heq, show continuation 0 isContinuation rest = [] from rfl]
      simp only [List.foldl_cons, List.foldl_nil, List.map_cons, List.map_nil]
      rw [toNat_ofNat_of_valid (by omega), if_neg (by omega), if_pos (by omega)]
      simp only [List.cons.injEq, and_true]
      omega
    · rw [h3] at h ⊢
      rcases continuation_full (Nat.succ.inj h) with ⟨c, rest, heq, hc, h'⟩
      rcases continuation_full h' with ⟨d, rest', heq', hd, _⟩
      have hc := isSecond_bounds hc
      have hd := isContinuation_bounds hd
      rw [heq, heq', show continuation 0 isContinuation rest' = [] from rfl]
      simp only [List.foldl_cons, List.foldl_nil, List.map_cons, List.map_nil]
      rw [toNat_ofNat_of_valid (by omega), if_neg (by omega), if_neg (by omega),
        if_pos (by omega)]
      simp only [List.cons.injEq, and_true]
      omega
    · rw [h4] at h ⊢
      rcases continuation_full (Nat.succ.inj h) with ⟨c, rest, heq, hc, h'⟩
      rcases continuation_full h' with ⟨d, rest', heq', hd, h''⟩
      rcases continuation_full h'' with ⟨e, rest'', heq'', he, _⟩
      have hc := isSecond_bounds hc
      have hd := isContinuation_bounds hd
      have he := isContinuation_bounds he
      rw [heq, heq', heq'', show continuation 0 isContinuation rest'' = [] from rfl]
      simp only [List.foldl_cons, List.foldl_nil, List.map_cons, List.map_nil]
      rw [toNat_ofNat_of_valid (by omega), if_neg (by omega), if_neg (by omega),
        if_neg (by omega)]
      simp only [List.cons.injEq, and_true]
      omega

/-- Bytes that may stand behind a lead byte are read, as many as are asked for. -/
theorem continuation_append {x : UInt8} {tail : List UInt8} {ok : UInt8 → Bool} (hx : ok x = true)
    (h : ∀ y ∈ tail, isContinuation y = true) (rest : List UInt8) :
    continuation (tail.length + 1) ok (x :: tail ++ rest) = x :: tail := by
  induction tail generalizing x ok with
  | nil =>
      rw [List.cons_append, continuation, if_pos hx]
      rfl
  | cons y tail ih =>
      rw [List.cons_append, List.length_cons, continuation, if_pos hx,
        ih (h y List.mem_cons_self) (fun z hz => h z (List.mem_cons_of_mem y hz))]

/-- The sequence of a character of more than one byte. -/
theorem decode_of_bytes {c : Char} {b x : UInt8} {tail : List UInt8}
    (hwidth : charWidth b = tail.length + 2) (hsecond : isSecond b x = true)
    (htail : ∀ y ∈ tail, isContinuation y = true)
    (hbits : (x :: tail).foldl (fun n c => 64 * n + c.toNat % 64) (leadBits b) = c.toNat) :
    (x :: tail).length + 1 = charWidth b ∧ sequenceChar b (x :: tail) = c ∧
    ∀ rest, continuation (charWidth b - 1) (isSecond b) (x :: tail ++ rest) = x :: tail := by
  have hlen : (x :: tail).length + 1 = charWidth b := hwidth.symm
  refine ⟨hlen, ?_, fun rest => ?_⟩
  · rw [sequenceChar, if_pos hlen, hbits, Char.ofNat_toNat]
  · rw [hwidth]
    exact continuation_append hsecond htail rest

/-- The sequence of a character is read in full, whatever follows, and is that
    character. -/
theorem decode_encodeChar (c : Char) : ∃ b tail, String.utf8EncodeChar c = b :: tail ∧
    tail.length + 1 = charWidth b ∧ sequenceChar b tail = c ∧
    ∀ rest, continuation (charWidth b - 1) (isSecond b) (tail ++ rest) = tail := by
  have hvalid := toNat_bounds c
  have hbytes := encodeChar_eq c
  generalize String.utf8EncodeChar c = bytes at hbytes
  -- One case for each width.
  by_cases h1 : c.toNat < 0x80
  · rw [if_pos h1] at hbytes
    rcases List.map_eq_cons_iff.mp hbytes with ⟨b, tail, rfl, hb, htail⟩
    cases List.map_eq_nil_iff.mp htail
    have hwidth : charWidth b = 1 := by
      unfold charWidth
      simp only [UInt8.lt_iff_toNat_lt, UInt8.reduceToNat]
      exact if_pos (hb ▸ h1)
    refine ⟨b, [], rfl, hwidth.symm, ?_, fun rest => by rw [hwidth]; rfl⟩
    rw [sequenceChar, hwidth, leadBits, hwidth]
    simp only [List.length_nil, Nat.zero_add, if_true, List.foldl_nil]
    rw [hb, Char.ofNat_toNat]
  rw [if_neg h1] at hbytes
  by_cases h2 : c.toNat < 0x800
  · rw [if_pos h2] at hbytes
    rcases List.map_eq_cons_iff.mp hbytes with ⟨b, tail, rfl, hb, htail⟩
    rcases List.map_eq_cons_iff.mp htail with ⟨x, tail, rfl, hx, hnil⟩
    cases List.map_eq_nil_iff.mp hnil
    have hwidth : charWidth b = 2 := by
      unfold charWidth
      simp only [UInt8.lt_iff_toNat_lt, UInt8.reduceToNat, hb]
      rw [if_neg (by omega), if_neg (by omega), if_pos (by omega)]
    refine ⟨b, [x], rfl, decode_of_bytes hwidth (isSecond_of_bounds ?_ ?_ ?_) ?_ ?_⟩
    any_goals omega
    · exact fun _ h => absurd h List.not_mem_nil
    · rw [leadBits, hwidth]
      simp only [List.foldl_cons, List.foldl_nil, hb, hx]
      omega
  rw [if_neg h2] at hbytes
  by_cases h3 : c.toNat < 0x10000
  · rw [if_pos h3] at hbytes
    rcases List.map_eq_cons_iff.mp hbytes with ⟨b, tail, rfl, hb, htail⟩
    rcases List.map_eq_cons_iff.mp htail with ⟨x, tail, rfl, hx, htail⟩
    rcases List.map_eq_cons_iff.mp htail with ⟨y, tail, rfl, hy, hnil⟩
    cases List.map_eq_nil_iff.mp hnil
    have hwidth : charWidth b = 3 := by
      unfold charWidth
      simp only [UInt8.lt_iff_toNat_lt, UInt8.reduceToNat, hb]
      rw [if_neg (by omega), if_neg (by omega), if_neg (by omega), if_pos (by omega)]
    refine ⟨b, [x, y], rfl, decode_of_bytes hwidth (isSecond_of_bounds ?_ ?_ ?_) ?_ ?_⟩
    any_goals omega
    · exact List.forall_mem_singleton.mpr (isContinuation_of_bounds (by omega))
    · rw [leadBits, hwidth]
      simp only [List.foldl_cons, List.foldl_nil, hb, hx, hy]
      omega
  · rw [if_neg h3] at hbytes
    rcases List.map_eq_cons_iff.mp hbytes with ⟨b, tail, rfl, hb, htail⟩
    rcases List.map_eq_cons_iff.mp htail with ⟨x, tail, rfl, hx, htail⟩
    rcases List.map_eq_cons_iff.mp htail with ⟨y, tail, rfl, hy, htail⟩
    rcases List.map_eq_cons_iff.mp htail with ⟨z, tail, rfl, hz, hnil⟩
    cases List.map_eq_nil_iff.mp hnil
    have hwidth : charWidth b = 4 := by
      unfold charWidth
      simp only [UInt8.lt_iff_toNat_lt, UInt8.reduceToNat, hb]
      rw [if_neg (by omega), if_neg (by omega), if_neg (by omega), if_neg (by omega),
        if_pos (by omega)]
    refine ⟨b, [x, y, z], rfl, decode_of_bytes hwidth (isSecond_of_bounds ?_ ?_ ?_) ?_ ?_⟩
    any_goals omega
    · exact List.forall_mem_cons.mpr ⟨isContinuation_of_bounds (by omega),
        List.forall_mem_singleton.mpr (isContinuation_of_bounds (by omega))⟩
    · rw [leadBits, hwidth]
      simp only [List.foldl_cons, List.foldl_nil, hb, hx, hy, hz]
      omega

theorem encode_cons (c : Char) (cs : List Char) :
    encode (c :: cs) = String.utf8EncodeChar c ++ encode cs := List.flatMap_cons

theorem strictChars_nil (fuel seen : Nat) : strictChars fuel seen [] = .ok [] := by
  cases fuel <;> rfl

/-- A character in front of bytes is read, and then the bytes are. -/
theorem strictChars_encodeChar (fuel seen : Nat) (c : Char) (bs : List UInt8) :
    strictChars (fuel + 1) seen (String.utf8EncodeChar c ++ bs) =
      (strictChars fuel (seen + (String.utf8EncodeChar c).length) bs).map (c :: ·) := by
  rcases decode_encodeChar c with ⟨b, tail, heq, hlen, hchar, hread⟩
  rw [heq, List.cons_append, strictChars]
  simp only [hread, hlen, if_true, hchar, List.drop_left', List.length_cons]

/-- What the decoding does with bytes: it reads a character that stands in front,
    or there is none and it stops. -/
theorem strictChars_cases (fuel seen : Nat) (b : UInt8) (rest : List UInt8) :
    (∃ c bs, b :: rest = String.utf8EncodeChar c ++ bs) ∨
      (∀ c bs, b :: rest ≠ String.utf8EncodeChar c ++ bs) ∧ ∃ e,
        strictChars (fuel + 1) seen (b :: rest) = .error e ∧ e.validUpTo = seen := by
  generalize htail : continuation (charWidth b - 1) (isSecond b) rest = tail
  by_cases hfull : tail.length + 1 = charWidth b
  · have hok : ∀ c, isSecond b c = true → ¬ c < 0x80 :=
      fun c hc => not_ascii_iff.mpr (isSecond_bounds hc).1
    have hsplit := (continuation_spec (charWidth b - 1) hok rest).1
    refine Or.inl ⟨sequenceChar b tail, rest.drop tail.length, ?_⟩
    rw [← htail] at hfull ⊢
    rw [encode_sequence hfull, List.cons_append, ← hsplit]
  · refine Or.inr ⟨fun c bs heq => hfull ?_, ?_⟩
    · rcases decode_encodeChar c with ⟨b', tail', hbytes, hlen, _, hread⟩
      rw [hbytes, List.cons_append, List.cons.injEq] at heq
      rw [← htail, heq.1, heq.2, hread]
      exact hlen
    · rw [strictChars, htail]
      exact ⟨_, if_neg hfull, rfl⟩

theorem utf8EncodeChar_pos (c : Char) : 0 < (String.utf8EncodeChar c).length := by
  rw [String.length_utf8EncodeChar]
  exact c.utf8Size_pos

/-- A text is decoded from its encoding. -/
theorem strictChars_encode (cs : List Char) {fuel : Nat} (seen : Nat)
    (h : (encode cs).length ≤ fuel) : strictChars fuel seen (encode cs) = .ok cs := by
  induction cs generalizing fuel seen with
  | nil => exact strictChars_nil fuel seen
  | cons c cs ih =>
      have hpos := utf8EncodeChar_pos c
      rw [encode_cons, List.length_append] at h
      cases fuel with
      | zero => omega
      | succ fuel =>
          rw [encode_cons, strictChars_encodeChar, ih _ (by omega)]
          rfl

/-- What is decoded is what was encoded. -/
theorem encode_of_strictChars {fuel seen : Nat} {bs : List UInt8} {cs : List Char}
    (hfuel : bs.length ≤ fuel) (h : strictChars fuel seen bs = .ok cs) : encode cs = bs := by
  induction fuel generalizing seen bs cs with
  | zero =>
      have hnil := List.eq_nil_of_length_eq_zero (Nat.le_zero.mp hfuel)
      rw [hnil, strictChars_nil, Except.ok.injEq] at h
      rw [hnil, ← h]
      rfl
  | succ fuel ih =>
      cases bs with
      | nil =>
          rw [strictChars_nil, Except.ok.injEq] at h
          rw [← h]
          rfl
      | cons b rest =>
          rcases strictChars_cases fuel seen b rest with ⟨c, bs, heq⟩ | ⟨_, e, herr, _⟩
          · have hpos := utf8EncodeChar_pos c
            rw [heq, List.length_append] at hfuel
            rw [heq, strictChars_encodeChar] at h
            cases hrest : strictChars fuel (seen + (String.utf8EncodeChar c).length) bs with
            | error e =>
                rw [hrest] at h
                cases h
            | ok cs' =>
                rw [hrest] at h
                cases h
                rw [heq, encode_cons, ih (by omega) hrest]
          · rw [herr] at h
            cases h

/-- No encoding of a character begins with that of another. -/
theorem utf8EncodeChar_append_inj {c d : Char} {bs bs' : List UInt8}
    (h : String.utf8EncodeChar c ++ bs = String.utf8EncodeChar d ++ bs') : c = d ∧ bs = bs' := by
  -- Both are read from the same bytes by one function.
  rcases decode_encodeChar c with ⟨b, tail, hc, _, rfl, hread⟩
  rcases decode_encodeChar d with ⟨b', tail', hd, _, rfl, hread'⟩
  rw [hc, hd, List.cons_append, List.cons_append, List.cons.injEq] at h
  rcases h with ⟨rfl, hrest⟩
  have htail : tail = tail' := by rw [← hread bs, hrest, hread']
  rw [htail] at hrest
  exact ⟨by rw [htail], List.append_cancel_left hrest⟩

/-- Bytes that are refused begin with a text, as long as the error says, and with
    no longer one. -/
theorem strictChars_error {fuel seen : Nat} {bs : List UInt8} {e : Utf8Error}
    (h : strictChars fuel seen bs = .error e) :
    ∃ cs, encode cs <+: bs ∧ e.validUpTo = seen + (encode cs).length ∧
      ∀ cs', encode cs' <+: bs → encode cs' <+: encode cs := by
  induction fuel generalizing seen bs with
  | zero => cases bs <;> cases h
  | succ fuel ih =>
      cases bs with
      | nil => cases h
      | cons b rest =>
          rcases strictChars_cases fuel seen b rest with ⟨c, bs, heq⟩ | ⟨hno, e', herr, hseen⟩
          · rw [heq, strictChars_encodeChar] at h
            cases hrest : strictChars fuel (seen + (String.utf8EncodeChar c).length) bs with
            | ok cs =>
                rw [hrest] at h
                cases h
            | error e' =>
                rw [hrest] at h
                cases h
                rcases ih hrest with ⟨cs, hprefix, hup, hlongest⟩
                rw [heq]
                refine ⟨c :: cs, ?_, ?_, fun cs' hcs' => ?_⟩
                · rwa [encode_cons, List.prefix_append_right_inj]
                · rw [hup, encode_cons, List.length_append, Nat.add_assoc]
                · cases cs' with
                  | nil => exact List.nil_prefix
                  -- A longer text begins with the same character and goes on behind it.
                  | cons d ds =>
                      rcases hcs' with ⟨t, ht⟩
                      rw [encode_cons, List.append_assoc] at ht
                      rcases utf8EncodeChar_append_inj ht with ⟨rfl, htail⟩
                      rw [encode_cons, encode_cons, List.prefix_append_right_inj]
                      exact hlongest ds ⟨t, htail⟩
          · rw [herr] at h
            cases h
            refine ⟨[], List.nil_prefix, hseen, fun cs' hcs' => ?_⟩
            cases cs' with
            | nil => exact List.nil_prefix
            | cons d ds =>
                rcases hcs' with ⟨t, ht⟩
                rw [encode_cons, List.append_assoc] at ht
                exact absurd ht.symm (hno d _)

end Quik
