import Quik.Library.FieldSyntax

/-!
# Lists of Strings with a Parameter

A field that is a list of strings, each with one parameter that is a string
too: `"name";key="value"`, with commas between the members. The reader is
strict. Between quotes a backslash stands in front of a quote or a backslash and
nowhere else, and only visible characters and spaces are let through.

The writer is the careless one, which puts quotes around whatever it is given.
What it writes is read back exactly if there is no backslash in it
(`read_bareList_iff`): a backslash takes the character after it away, and what
is read is then shorter than what was written, or goes on beyond the closing
quote.

## Main definitions

* `readContent`, `readString`: The characters up to the closing quote.
* `readMember`, `read`: A string with its parameter, and a list of these.
* `bare`, `bareList`: The same, put between quotes as they are.

## Theorems

* `length_le_of_readContent`: Nothing is read that was not written.
* `readContent_self`: When a text is read back from between its quotes.
* `read_bareList_iff`: When a list is.
-/

namespace Quik

namespace StringList

open FieldSyntax

/-- A character that may stand in a string. -/
def isStringChar (c : Char) : Bool :=
  ' ' ≤ c && c ≤ '~'

/-- A text that can be put between quotes without ending them. -/
def Quotable (s : List Char) : Prop :=
  ∀ c ∈ s, isStringChar c = true ∧ c ≠ '"'

-- By the list, and not over all characters.
instance (s : List Char) : Decidable (Quotable s) :=
  List.decidableBAll (fun c => isStringChar c = true ∧ c ≠ '"') s

/-- The content of a string up to the closing quote, and what follows it; the
    flag tells that a backslash came before. -/
def readContent : Bool → List Char → Option (List Char × List Char)
  | _, [] => none
  | true, c :: l =>
    if c = '"' ∨ c = '\\' then (readContent false l).map (fun r => (c :: r.1, r.2)) else none
  | false, c :: l =>
    if c = '"' then some ([], l)
    else if c = '\\' then readContent true l
    else if isStringChar c then (readContent false l).map (fun r => (c :: r.1, r.2))
    else none

/-- A string, from its opening quote. -/
def readString : List Char → Option (List Char × List Char)
  | [] => none
  | c :: l => if c = '"' then readContent false l else none

/-- A string and its parameter. -/
abbrev Member := List Char × List Char

/-- What stands between a string and the string of its parameter. -/
def separator (key : List Char) : List Char :=
  ';' :: (key ++ ['='])

/-- A member, and what follows it. -/
def readMember (key l : List Char) : Option (Member × List Char) :=
  (readString l).bind (fun name =>
    (name.2.dropPrefix? (separator key)).bind (fun rest =>
      (readString rest).map (fun value => ((name.1, value.1), value.2))))

/-- The members of a list, at most so many. -/
def readMembers (key : List Char) : Nat → List Char → Option (List Member)
  | 0, _ => none
  | n + 1, l => (readMember key l).bind (fun m =>
    match m.2.dropWhile isOws with
    | [] => some [m.1]
    | c :: rest =>
      if c = ',' then (readMembers key n (rest.dropWhile isOws)).map (m.1 :: ·) else none)

/-- The members of a list. -/
def read (key l : List Char) : Option (List Member) :=
  readMembers key l.length l

/-- A member, with its two strings as they are. -/
def bare (key : List Char) (m : Member) : List Char :=
  '"' :: (m.1 ++ '"' :: (separator key ++ '"' :: (m.2 ++ ['"'])))

/-- The members with a comma and a space between them. -/
def bareList (key : List Char) (ms : List Member) : List Char :=
  [',', ' '].intercalate (ms.map (bare key))

/-- A text without quotes and backslashes is read up to the quote. -/
theorem readContent_plain {s : List Char} (hs : Quotable s) (hplain : '\\' ∉ s)
    (rest : List Char) : readContent false (s ++ '"' :: rest) = some (s, rest) := by
  induction s with
  | nil => rfl
  | cons c s ih =>
      rcases List.forall_mem_cons.mp hs with ⟨⟨hchar, hquote⟩, hs⟩
      rw [List.mem_cons, not_or] at hplain
      rw [List.cons_append, readContent, if_neg hquote, if_neg (Ne.symm hplain.1), if_pos hchar,
        ih hs hplain.2]
      rfl

/-- What is read up to the quote is no longer than what stands in front of it. -/
theorem length_le_of_readContent {s rest t r : List Char} {escaped : Bool} (hs : '"' ∉ s)
    (ht : '"' ∉ t) (h : readContent escaped (s ++ '"' :: rest) = some (t, r)) :
    t.length ≤ s.length := by
  induction s generalizing escaped t with
  | nil =>
      cases escaped with
      -- The quote itself was escaped, and it is in what was read.
      | true =>
          rw [List.nil_append, readContent, if_pos (Or.inl rfl)] at h
          rcases Option.map_eq_some_iff.mp h with ⟨x, _, hx⟩
          cases hx
          exact absurd List.mem_cons_self ht
      | false =>
          rw [List.nil_append, readContent, if_pos rfl] at h
          cases h
          exact Nat.le_refl 0
  | cons c s ih =>
      rw [List.mem_cons, not_or] at hs
      have hpush : ∀ {x : Option (List Char × List Char)}, (∀ t', '"' ∉ t' → x = some (t', r) →
          t'.length ≤ s.length) → x.map (fun r => (c :: r.1, r.2)) = some (t, r) →
          t.length ≤ (c :: s).length := by
        intro x hx hmap
        rcases Option.map_eq_some_iff.mp hmap with ⟨⟨t', r'⟩, hxs, heq⟩
        cases heq
        exact Nat.succ_le_succ (hx t' (fun hc => ht (List.mem_cons_of_mem c hc)) hxs)
      cases escaped with
      | true =>
          rw [List.cons_append, readContent] at h
          split at h
          · exact hpush (fun t' ht' hx => ih hs.2 ht' hx) h
          · exact absurd h (by simp only [reduceCtorEq, not_false_eq_true])
      | false =>
          rw [List.cons_append, readContent, if_neg (Ne.symm hs.1)] at h
          split at h
          · exact (ih hs.2 ht h).trans (Nat.le_succ _)
          · split at h
            · exact hpush (fun t' ht' hx => ih hs.2 ht' hx) h
            · exact absurd h (by simp only [reduceCtorEq, not_false_eq_true])

/-- A text is read back from between its quotes only if it has no backslash. -/
theorem readContent_self {s rest r : List Char} (hs : '"' ∉ s)
    (h : readContent false (s ++ '"' :: rest) = some (s, r)) : '\\' ∉ s := by
  induction s with
  | nil => exact List.not_mem_nil
  | cons c s ih =>
      have hquote := hs
      rw [List.mem_cons, not_or] at hs
      rw [List.cons_append, readContent, if_neg (Ne.symm hs.1)] at h
      split at h
      -- A backslash takes a place that what is read has to do without.
      · exact absurd (length_le_of_readContent hs.2 hquote h) (Nat.not_succ_le_self _)
      · rename_i hc
        split at h
        · rcases Option.map_eq_some_iff.mp h with ⟨⟨t', r'⟩, hx, heq⟩
          cases heq
          rw [List.mem_cons, not_or]
          exact ⟨Ne.symm hc, ih hs.2 hx⟩
        · exact absurd h (by simp only [reduceCtorEq, not_false_eq_true])

/-- A member with no quote in it. -/
structure Member.Quotable (m : Member) : Prop where
  name : StringList.Quotable m.1
  value : StringList.Quotable m.2

/-- A member with no backslash in it. -/
structure Member.Plain (m : Member) : Prop where
  name : '\\' ∉ m.1
  value : '\\' ∉ m.2

section Lists

variable {key : List Char}

theorem Quotable.not_mem_quote {s : List Char} (hs : Quotable s) : '"' ∉ s :=
  fun h => (hs '"' h).2 rfl

theorem readString_quote (l : List Char) : readString ('"' :: l) = readContent false l := by
  rw [readString, if_pos rfl]

theorem bare_append (m : Member) (rest : List Char) :
    bare key m ++ rest =
      '"' :: (m.1 ++ '"' :: (separator key ++ '"' :: (m.2 ++ '"' :: rest))) := by
  simp only [bare, List.cons_append, List.append_assoc, List.nil_append]

/-- A member without backslashes is read as it is. -/
theorem readMember_plain {m : Member} (hq : m.Quotable) (hp : m.Plain) (rest : List Char) :
    readMember key (bare key m ++ rest) = some (m, rest) := by
  have hsep : ∀ l, (separator key ++ l).dropPrefix? (separator key) = some l :=
    fun l => List.dropPrefix?_append_of_beq l (beq_self_eq_true _)
  rw [bare_append, readMember, readString_quote, readContent_plain hq.name hp.name,
    Option.bind_some]
  dsimp only
  rw [hsep, Option.bind_some, readString_quote, readContent_plain hq.value hp.value]
  rfl

/-- And only such a member. -/
theorem readMember_self {m : Member} (hq : m.Quotable) {rest r : List Char}
    (h : readMember key (bare key m ++ rest) = some (m, r)) : m.Plain := by
  rw [bare_append, readMember, readString_quote] at h
  rcases Option.bind_eq_some_iff.mp h with ⟨⟨name, rest₁⟩, hname, h⟩
  rcases Option.bind_eq_some_iff.mp h with ⟨rest₂, hsep, h⟩
  rcases Option.map_eq_some_iff.mp h with ⟨⟨value, rest₃⟩, hvalue, heq⟩
  cases heq
  have hplain := readContent_self hq.name.not_mem_quote hname
  -- The name being read as it is, the value begins where it was put.
  rw [readContent_plain hq.name hplain] at hname
  have hrest := (Prod.mk.inj (Option.some.inj hname)).2
  rw [← hrest, List.dropPrefix?_append_of_beq _ (beq_self_eq_true _)] at hsep
  rw [← Option.some.inj hsep, readString_quote] at hvalue
  exact ⟨hplain, readContent_self hq.value.not_mem_quote hvalue⟩

theorem bareList_cons (m m' : Member) (ms : List Member) :
    bareList key (m :: m' :: ms) = bare key m ++ ',' :: ' ' :: bareList key (m' :: ms) := by
  rw [bareList, List.map_cons, List.map_cons, List.intercalate_cons_cons, bareList, List.map_cons,
    List.append_assoc]
  rfl

theorem bareList_singleton (m : Member) : bareList key [m] = bare key m ++ [] := by
  rw [bareList, List.map_singleton, List.intercalate_singleton, List.append_nil]

/-- The white space in front of a list ends where the list begins. -/
theorem dropWhile_bareList (m : Member) (ms : List Member) :
    (' ' :: bareList key (m :: ms)).dropWhile isOws = bareList key (m :: ms) := by
  cases ms with
  | nil => rw [bareList_singleton, List.dropWhile_cons_of_pos (by decide)]; rfl
  | cons m' ms => rw [bareList_cons, List.dropWhile_cons_of_pos (by decide)]; rfl

/-- The first member that is read is the first in the list. -/
theorem readMembers_head {n : Nat} {l : List Char} {m : Member} {ms : List Member}
    (h : readMembers key (n + 1) l = some (m :: ms)) :
    ∃ rest, readMember key l = some (m, rest) := by
  rw [readMembers] at h
  rcases Option.bind_eq_some_iff.mp h with ⟨⟨m', rest⟩, hread, h⟩
  refine ⟨rest, hread.trans ?_⟩
  dsimp only at h
  split at h
  · cases h
    rfl
  · split at h
    · rcases Option.map_eq_some_iff.mp h with ⟨_, _, heq⟩
      cases heq
      rfl
    · exact absurd h (by simp only [reduceCtorEq, not_false_eq_true])

/-- The reader takes one member off a list. -/
theorem readMembers_cons {m : Member} (hq : m.Quotable) (hp : m.Plain) (n : Nat) (m' : Member)
    (ms : List Member) :
    readMembers key (n + 1) (bareList key (m :: m' :: ms)) =
      (readMembers key n (bareList key (m' :: ms))).map (m :: ·) := by
  rw [bareList_cons, readMembers, readMember_plain hq hp, Option.bind_some]
  dsimp only
  rw [List.dropWhile_cons_of_neg (by decide)]
  dsimp only
  rw [if_pos rfl, dropWhile_bareList]

/-- A list is read back, if the reader has a turn for each member, exactly if the
    members are without backslashes. -/
theorem readMembers_bareList_iff {ms : List Member} (hne : ms ≠ []) {n : Nat}
    (hn : ms.length ≤ n) (hq : ∀ m ∈ ms, m.Quotable) :
    readMembers key n (bareList key ms) = some ms ↔ ∀ m ∈ ms, m.Plain := by
  induction ms generalizing n with
  | nil => exact absurd rfl hne
  | cons m ms ih =>
      cases n with
      | zero => exact absurd hn (Nat.not_succ_le_zero _)
      | succ n =>
          rcases List.forall_mem_cons.mp hq with ⟨hm, hms⟩
          have hfirst : readMembers key (n + 1) (bareList key (m :: ms)) = some (m :: ms) →
              m.Plain := by
            intro h
            rcases readMembers_head h with ⟨rest, hread⟩
            cases ms with
            | nil => exact readMember_self hm (bareList_singleton m ▸ hread)
            | cons m' ms => exact readMember_self hm (bareList_cons m m' ms ▸ hread)
          rw [List.forall_mem_cons]
          refine ⟨fun h => ⟨hfirst h, ?_⟩, fun h => ?_⟩
          · cases ms with
            | nil => exact fun _ hm => absurd hm List.not_mem_nil
            | cons m' ms =>
                rw [readMembers_cons hm (hfirst h)] at h
                rcases Option.map_eq_some_iff.mp h with ⟨_, hread, heq⟩
                exact (ih (List.cons_ne_nil m' ms) (Nat.le_of_succ_le_succ hn) hms).mp
                  ((List.cons.inj heq).2 ▸ hread)
          · cases ms with
            | nil =>
                rw [bareList_singleton, readMembers, readMember_plain hm h.1]
                rfl
            | cons m' ms =>
                rw [readMembers_cons hm h.1, (ih (List.cons_ne_nil m' ms)
                  (Nat.le_of_succ_le_succ hn) hms).mpr h.2]
                rfl

/-- There is a character for each member at least. -/
theorem length_le_bareList (ms : List Member) : ms.length ≤ (bareList key ms).length := by
  induction ms with
  | nil => exact Nat.zero_le _
  | cons m ms ih =>
      cases ms with
      | nil => exact Nat.succ_le_succ (Nat.zero_le _)
      | cons m' ms =>
          rw [bareList_cons, List.length_append]
          simp only [List.length_cons] at ih ⊢
          omega

/-- A list of members between bare quotes is read back exactly if there is no
    backslash in it. -/
theorem read_bareList_iff {ms : List Member} (hne : ms ≠ []) (hq : ∀ m ∈ ms, m.Quotable) :
    read key (bareList key ms) = some ms ↔ ∀ m ∈ ms, m.Plain :=
  readMembers_bareList_iff hne (length_le_bareList ms) hq

end Lists

end StringList

end Quik
