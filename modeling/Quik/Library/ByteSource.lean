import Mathlib.Algebra.BigOperators.Group.Finset.Basic
import Mathlib.Data.Seq.Basic

/-!
# Reading from a Stream in Pieces

A `Source` is the reading end of a connection: what the other side sends, a
finite or an infinite sequence, and how it arrives. A read hands out what has
arrived, but no more than the reader has room for, and how much has arrived is
not the reader's to choose. `cuts` makes that choice for every read to come, so
a statement over all cuts is a statement over every way the network may split
the stream. At the end of the stream a read returns nothing, or fails.

What has been taken is counted in `position`. The sequence that is left would
not do in its place: a stream that repeats itself looks the same after one
period has been lost.

A reader that keeps filling one buffer has, after `k` reads, the first
`boundary k` elements, as far as there is room and as the stream goes. That is
`Filled`, and `Filled.read` carries it over one more read. `readExact` is the
other reader, the one that asks again until a given count is complete.

## Main definitions

* `Source`, `Source.unread`: A stream being read, and what is left of it.
* `Source.read`: One read.
* `Source.readExact`: Reads until a count is complete.
* `boundary`, `Filled`: Where the reads end, and a buffer they fill.

## Theorems

* `read_cases`: What one read may do.
* `readExact_ok`, `readExact_eq_ok`: When a count is complete, and what with.
* `Filled.read`: One more read into a buffer.
-/

namespace Stream'

namespace Seq

variable {α : Type*}

/-- Taking in two goes. -/
theorem take_add (s : Seq α) (m n : ℕ) : s.take (m + n) = s.take m ++ (s.drop m).take n := by
  induction m generalizing s with
  | zero => rw [Nat.zero_add, take_zero, List.nil_append, drop_zero]
  | succ m ih =>
      cases s with
      | nil => simp only [take_nil, drop_nil, List.append_nil]
      | cons x s =>
          rw [Nat.succ_add, take_succ_cons, take_succ_cons, drop_succ_cons, ih, List.cons_append]

/-- A sequence that yields fewer elements than it is asked for is over. -/
theorem length_take_le_of_lt {s : Seq α} {n : ℕ} (h : (s.take n).length < n) (m : ℕ) :
    (s.take m).length ≤ (s.take n).length := by
  induction n generalizing s m with
  | zero => exact absurd h (Nat.not_lt_zero _)
  | succ n ih =>
      cases s with
      | nil => rw [take_nil, take_nil]
      | cons x s =>
          rw [take_succ_cons, List.length_cons] at h ⊢
          cases m with
          | zero => rw [take_zero, List.length_nil]; exact Nat.zero_le _
          | succ m =>
              rw [take_succ_cons, List.length_cons]
              exact Nat.succ_le_succ (ih (Nat.lt_of_succ_lt_succ h) m)

theorem take_take (s : Seq α) (m n : ℕ) : (s.take n).take m = s.take (min m n) := by
  ext i x
  rw [List.getElem?_take, getElem?_take, getElem?_take]
  by_cases hm : i < m
  · by_cases hn : i < n
    · rw [if_pos hm, if_pos hn, if_pos (lt_min hm hn)]
    · rw [if_pos hm, if_neg hn, if_neg (fun h => hn (lt_of_lt_of_le h (min_le_right m n)))]
  · rw [if_neg hm, if_neg (fun h => hm (lt_of_lt_of_le h (min_le_left m n)))]

theorem take_length_take (s : Seq α) (n : ℕ) : s.take (s.take n).length = s.take n := by
  have h := take_take s (s.take n).length n
  rw [List.take_length, Nat.min_eq_left length_take_le] at h
  exact h.symm

/-- What a sequence begins with, and what follows it. -/
theorem eq_ofList_append_iff {s r : Seq α} {l : List α} :
    s = (ofList l).append r ↔ s.take l.length = l ∧ s.drop l.length = r := by
  induction l generalizing s with
  | nil =>
      rw [ofList_nil, nil_append, List.length_nil, take_zero, drop_zero]
      exact ⟨fun h => ⟨rfl, h⟩, fun h => h.2⟩
  | cons a l ih =>
      rw [ofList_cons, cons_append, List.length_cons]
      cases s with
      | nil =>
          rw [take_nil]
          constructor
          · exact fun h => absurd h (by simp only [nil_ne_cons, not_false_eq_true])
          · exact fun h => absurd h.1 (by simp only [reduceCtorEq, not_false_eq_true])
      | cons x s =>
          rw [cons_eq_cons, take_succ_cons, drop_succ_cons, List.cons.injEq, ih, and_assoc]

end Seq

end Stream'

namespace Quik

open Stream' (Seq)

/-- The reading end of a connection. -/
structure Source (α ε : Type*) where
  /-- Everything the other side sends. -/
  sent : Seq α
  /-- How much has arrived at each read to come, less one. -/
  cuts : Stream' ℕ
  /-- What a read at the end of the stream fails with, if it fails. -/
  failure : Option ε := none
  /-- How much has been taken. -/
  position : ℕ := 0

namespace Source

variable {α ε : Type*}

/-- What has not been taken. -/
def unread (s : Source α ε) : Seq α :=
  s.sent.drop s.position

/-- The next `n` elements taken, in one read. -/
def advance (s : Source α ε) (n : ℕ) : Source α ε :=
  { s with position := s.position + n, cuts := s.cuts.tail }

/-- One read into a buffer with room for `room` elements. -/
def read (room : ℕ) (s : Source α ε) : Except ε (List α) × Source α ε :=
  if room = 0 then (.ok [], s)
  else match s.unread.take (min (s.cuts.head + 1) room), s.failure with
    | [], none => (.ok [], s)
    | [], some e => (.error e, s)
    | chunk, _ => (.ok chunk, s.advance chunk.length)

/-- The loop of `readExact`. Every read that does not end it brings something,
    so that it never takes more turns than there are elements missing. -/
def fill (eof : ε) : ℕ → ℕ → List α → Source α ε → Except ε (List α) × Source α ε
  | _, 0, acc, s => (.ok acc, s)
  | 0, _ + 1, _, s => (.error eof, s)
  | turns + 1, n + 1, acc, s =>
    match s.read (n + 1) with
    | (.error e, s) => (.error e, s)
    | (.ok [], s) => (.error eof, s)
    | (.ok chunk, s) => fill eof turns (n + 1 - chunk.length) (acc ++ chunk) s

/-- Read exactly `n` elements, or fail with `eof` if the stream ends first. -/
def readExact (eof : ε) (n : ℕ) (s : Source α ε) : Except ε (List α) × Source α ε :=
  fill eof n n [] s

theorem unread_advance (s : Source α ε) (n : ℕ) : (s.advance n).unread = s.unread.drop n :=
  Seq.dropn_add s.sent s.position n

/-- One read brings the next `m` elements, up to the cut and the room, or
    nothing because there is no room or no more to come. -/
theorem read_cases (room : ℕ) (s : Source α ε) :
    (∃ m, 0 < m ∧ m ≤ room ∧ (s.unread.take m).length = m ∧
      s.unread.take m = s.unread.take (min (s.cuts.head + 1) room) ∧
      s.read room = (.ok (s.unread.take m), s.advance m)) ∨
    (s.unread.take room = [] ∧ (s.read room).2 = s ∧
      ((s.read room).1 = .ok [] ∨ ∃ e, (s.read room).1 = .error e)) := by
  by_cases hroom : room = 0
  · refine Or.inr ⟨by rw [hroom, Seq.take_zero], ?_⟩
    rw [read, if_pos hroom]
    exact ⟨rfl, Or.inl rfl⟩
  · cases hchunk : s.unread.take (min (s.cuts.head + 1) room) with
    | cons a l =>
        have htake : s.unread.take (a :: l).length = a :: l := by
          rw [← hchunk, Seq.take_length_take]
        have hle : (a :: l).length ≤ room := by
          rw [← hchunk]
          exact le_trans Seq.length_take_le (min_le_right _ _)
        refine Or.inl ⟨(a :: l).length, Nat.succ_pos _, hle, by rw [htake], htake, ?_⟩
        rw [read, if_neg hroom, hchunk, htake]
    | nil =>
        -- A read that was allowed one element and got none is at the end.
        have hover : s.unread.take room = [] := by
          cases hs : s.unread with
          | nil => exact Seq.take_nil
          | cons x rest =>
              rw [hs, show min (s.cuts.head + 1) room = min s.cuts.head (room - 1) + 1 by omega,
                Seq.take_succ_cons] at hchunk
              exact absurd hchunk (List.cons_ne_nil _ _)
        rw [read, if_neg hroom, hchunk]
        cases s.failure with
        | none => exact Or.inr ⟨hover, rfl, Or.inl rfl⟩
        | some e => exact Or.inr ⟨hover, rfl, Or.inr ⟨e, rfl⟩⟩

/-- A source that holds `m` elements, and `n` after these, or fewer. -/
theorem length_take_advance {s : Source α ε} {m : ℕ} (h : (s.unread.take m).length = m) (n : ℕ) :
    (s.unread.take (m + n)).length = m + ((s.advance m).unread.take n).length := by
  rw [Seq.take_add, List.length_append, h, unread_advance]

/-- A turn of the loop that brings something. -/
theorem fill_of_read {eof : ε} {turns n m : ℕ} {s : Source α ε} (acc : List α) (hpos : 0 < m)
    (hlen : (s.unread.take m).length = m)
    (hread : s.read (n + 1) = (.ok (s.unread.take m), s.advance m)) :
    fill eof (turns + 1) (n + 1) acc s =
      fill eof turns (n + 1 - m) (acc ++ s.unread.take m) (s.advance m) := by
  rw [fill, hread]
  cases hl : s.unread.take m with
  | nil =>
      rw [hl, List.length_nil] at hlen
      omega
  | cons a l =>
      rw [hl] at hlen
      simp only [hlen]

/-- A source that still holds `n` elements gives exactly these. -/
theorem fill_ok (eof : ε) {turns n : ℕ} {s : Source α ε} (acc : List α) (hturns : n ≤ turns)
    (h : (s.unread.take n).length = n) : ∃ cuts, fill eof turns n acc s =
      (.ok (acc ++ s.unread.take n), { s with position := s.position + n, cuts := cuts }) := by
  induction turns generalizing n acc s with
  | zero =>
      rw [Nat.le_zero.mp hturns, Seq.take_zero, List.append_nil]
      exact ⟨s.cuts, by rw [fill]; rfl⟩
  | succ turns ih =>
      cases n with
      | zero => exact ⟨s.cuts, by rw [fill, Seq.take_zero, List.append_nil]; rfl⟩
      | succ n =>
          rcases read_cases (n + 1) s with ⟨m, hpos, hle, hlen, _, hread⟩ | ⟨hnone, _⟩
          · -- The first read gives `m` of them, and the rest of the loop the others.
            have hsum : m + (n + 1 - m) = n + 1 := by omega
            have hrest := length_take_advance hlen (n + 1 - m)
            rw [hsum, h] at hrest
            have hturns' : n + 1 - m ≤ turns := by omega
            have hmore : ((s.advance m).unread.take (n + 1 - m)).length = n + 1 - m := by omega
            rcases ih (acc ++ s.unread.take m) hturns' hmore with ⟨cuts, hfill⟩
            refine ⟨cuts, ?_⟩
            rw [fill_of_read acc hpos hlen hread, hfill, unread_advance, List.append_assoc,
              ← Seq.take_add, hsum]
            congr 2
            show s.position + m + (n + 1 - m) = s.position + (n + 1)
            omega
          · rw [hnone, List.length_nil] at h
            omega

/-- A source with fewer than `n` elements left does not give `n`. -/
theorem fill_error (eof : ε) (turns : ℕ) {n : ℕ} {s : Source α ε} (acc : List α)
    (h : (s.unread.take n).length ≠ n) : ∃ e, (fill eof turns n acc s).1 = .error e := by
  induction turns generalizing n acc s with
  | zero =>
      cases n with
      | zero => exact absurd (by rw [Seq.take_zero, List.length_nil]) h
      | succ n => exact ⟨eof, by rw [fill]⟩
  | succ turns ih =>
      cases n with
      | zero => exact absurd (by rw [Seq.take_zero, List.length_nil]) h
      | succ n =>
          rcases read_cases (n + 1) s with ⟨m, hpos, hle, hlen, _, hread⟩ | ⟨_, hsame, hres⟩
          · have hsum : m + (n + 1 - m) = n + 1 := by omega
            -- What the first read brings is not what is missing.
            have hrest := length_take_advance hlen (n + 1 - m)
            rw [hsum] at hrest
            rw [fill_of_read acc hpos hlen hread]
            refine ih _ ?_
            omega
          · rcases hres with hok | ⟨e, herr⟩
            · exact ⟨eof, by rw [fill, show s.read (n + 1) = (.ok [], s) from Prod.ext hok hsame]⟩
            · exact ⟨e, by
                rw [fill, show s.read (n + 1) = (.error e, s) from Prod.ext herr hsame]⟩

/-- A stream that goes on with `l` gives `l` when asked for that many. -/
theorem readExact_ok (eof : ε) {s : Source α ε} {l : List α} {rest : Seq α}
    (h : s.unread = (Seq.ofList l).append rest) : ∃ cuts, readExact eof l.length s =
      (.ok l, { s with position := s.position + l.length, cuts := cuts }) := by
  have htake := (Seq.eq_ofList_append_iff.mp h).1
  rcases fill_ok eof [] (le_refl l.length) (by rw [htake]) with ⟨cuts, hfill⟩
  exact ⟨cuts, by rw [readExact, hfill, List.nil_append, htake]⟩

/-- What a successful `readExact` returns is what the stream went on with, and
    that and no more has been taken. -/
theorem readExact_eq_ok {eof : ε} {n : ℕ} {s s' : Source α ε} {l : List α}
    (h : readExact eof n s = (.ok l, s')) : l.length = n ∧
      s.unread = (Seq.ofList l).append s'.unread ∧ s'.sent = s.sent ∧
      s'.position = s.position + n := by
  by_cases hlen : (s.unread.take n).length = n
  · rcases fill_ok eof [] (le_refl n) hlen with ⟨cuts, hfill⟩
    rw [readExact, hfill, List.nil_append] at h
    rcases Prod.mk.inj h with ⟨hl, hs⟩
    have hl' := Except.ok.inj hl
    refine ⟨by rw [← hl', hlen], ?_, by rw [← hs], by rw [← hs]⟩
    refine Seq.eq_ofList_append_iff.mpr ⟨by rw [← hl', hlen], ?_⟩
    rw [← hs, ← hl', hlen]
    exact (Seq.dropn_add s.sent s.position n).symm
  -- Of a stream that is too short no read of `n` succeeds.
  · rcases fill_error eof n [] hlen with ⟨e, he⟩
    rw [readExact, Prod.ext_iff] at h
    exact absurd (he.symm.trans h.1) (by simp only [reduceCtorEq, not_false_eq_true])

/-- Where the first `k` reads end, if nothing but the cuts stops them. -/
def boundary (cuts : Stream' ℕ) (k : ℕ) : ℕ :=
  ∑ i ∈ Finset.range k, (cuts.get i + 1)

theorem boundary_succ (cuts : Stream' ℕ) (k : ℕ) :
    boundary cuts (k + 1) = boundary cuts k + (cuts.get k + 1) :=
  Finset.sum_range_succ _ k

theorem boundary_strictMono (cuts : Stream' ℕ) : StrictMono (boundary cuts) := by
  refine strictMono_nat_of_lt_succ (fun k => ?_)
  rw [boundary_succ]
  omega

/-- A buffer of `cap` places and the source it is filled from, which was `s₀`,
    after `k` reads. -/
structure Filled (cap k : ℕ) (s₀ s : Source α ε) (buf : List α) : Prop where
  holds : buf = s₀.unread.take (min (boundary s₀.cuts k) cap)
  position : s.position = s₀.position + buf.length
  sent : s.sent = s₀.sent
  cuts : s.cuts = s₀.cuts.drop k
  reads : k ≤ buf.length

theorem Filled.start (cap : ℕ) (s : Source α ε) : Filled cap 0 s s [] where
  holds := by rw [boundary, Finset.sum_range_zero, Nat.zero_min, Seq.take_zero]
  position := rfl
  sent := rfl
  cuts := rfl
  reads := le_refl 0

theorem Filled.length_le {cap k : ℕ} {s₀ s : Source α ε} {buf : List α}
    (h : Filled cap k s₀ s buf) : buf.length ≤ cap :=
  h.holds ▸ le_trans Seq.length_take_le (min_le_right _ _)

/-- The source still to be read is what follows the buffer. -/
theorem Filled.unread {cap k : ℕ} {s₀ s : Source α ε} {buf : List α}
    (h : Filled cap k s₀ s buf) : s.unread = s₀.unread.drop buf.length := by
  rw [Source.unread, h.sent, h.position, Seq.dropn_add]
  rfl

theorem Filled.take {cap k : ℕ} {s₀ s : Source α ε} {buf : List α} (h : Filled cap k s₀ s buf)
    (n : ℕ) : s₀.unread.take (buf.length + n) = buf ++ s.unread.take n := by
  have hbuf : s₀.unread.take buf.length = buf := by
    rw [h.holds]
    exact Seq.take_length_take _ _
  rw [Seq.take_add, h.unread, hbuf]

/-- One more read fills the buffer further, or there is no room or no more to
    come. -/
theorem Filled.read {cap k : ℕ} {s₀ s : Source α ε} {buf : List α} (h : Filled cap k s₀ s buf) :
    (∃ chunk, chunk ≠ [] ∧ s.read (cap - buf.length) = (.ok chunk, s.advance chunk.length) ∧
      Filled cap (k + 1) s₀ (s.advance chunk.length) (buf ++ chunk)) ∨
    (s₀.unread.take cap = buf ∧ (s.read (cap - buf.length)).2 = s ∧
      ((s.read (cap - buf.length)).1 = .ok [] ∨
        ∃ e, (s.read (cap - buf.length)).1 = .error e)) := by
  rcases read_cases (cap - buf.length) s with
    ⟨m, hpos, hle, hlen, hcut, hread⟩ | ⟨hnone, hsame, hres⟩
  · refine Or.inl ⟨s.unread.take m, ?_, by rw [hlen]; exact hread, ?_⟩
    · exact List.length_pos_iff.mp (by rw [hlen]; exact hpos)
    · -- The buffer held all that its own reads allowed, since there was more to come.
      have hfull : buf.length = min (boundary s₀.cuts k) cap := by
        by_contra hne
        have hlt : (s₀.unread.take (min (boundary s₀.cuts k) cap)).length <
            min (boundary s₀.cuts k) cap :=
          lt_of_le_of_ne Seq.length_take_le (h.holds ▸ hne)
        have hover := Seq.length_take_le_of_lt hlt (buf.length + m)
        rw [← h.holds, h.take, List.length_append, hlen] at hover
        omega
      have hhead : s.cuts.head = s₀.cuts.get k := by
        rw [h.cuts]
        exact congrArg s₀.cuts.get (Nat.zero_add k)
      constructor
      · rw [hcut, ← h.take, boundary_succ, hhead]
        congr 1
        omega
      · rw [List.length_append, hlen, ← Nat.add_assoc, ← h.position]
        rfl
      · exact h.sent
      · show s.cuts.tail = s₀.cuts.drop (k + 1)
        rw [h.cuts, Stream'.tail_drop']
      · have hreads := h.reads
        rw [List.length_append, hlen]
        omega
  -- Nothing was brought, so what the buffer holds is all there is up to `cap`.
  · refine Or.inr ⟨?_, hsame, hres⟩
    have htake := h.take (cap - buf.length)
    rwa [hnone, List.append_nil, Nat.add_sub_cancel' h.length_le] at htake

end Source

end Quik
