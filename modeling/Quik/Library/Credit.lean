import Mathlib.Data.Fintype.Basic
import Mathlib.Data.List.Basic
import Mathlib.Tactic.Common

/-!
# Credit-Based Flow Control

A sender with a fixed amount to send, a receiver, and any number of credit
limits the sender must respect at once. The state is a ledger of running
totals rather than of windows: what has been sent, what has been read, and how
much each limit has granted so far. A window is the difference of two totals,
so giving credit back is the only way one ever widens, and reading is not.

The sender is stalled when it has more to send, everything sent has been read,
and some limit is used up. Nothing but a grant moves it then.

## Main definitions

* `Ledger`: The running totals.
* `Action`, `step`: Sending, reading, granting.
* `Stalled`: The sender waits for credit nobody owes it.
* `Balanced`: The totals are in order.

## Theorems

* `balanced_step`: Every action keeps the totals in order.
* `not_stalled_of_covered`: Credit for everything never stalls.
-/

namespace Quik

namespace Credit

variable {ι : Type*} [Fintype ι]

/-- Running totals of one transfer under the limits `ι`. -/
structure Ledger (ι : Type*) where
  total : Nat
  sent : Nat := 0
  read : Nat := 0
  granted : ι → Nat

inductive Action (ι : Type*) where
  | send (n : Nat)
  | read (n : Nat)
  | grant (more : ι → Nat)

/-- Sending needs credit on every limit, reading needs something unread, and
    granting is always possible. -/
def step (l : Ledger ι) : Action ι → Option (Ledger ι)
  | .send n =>
    if l.sent + n ≤ l.total ∧ ∀ i, l.sent + n ≤ l.granted i then
      some { l with sent := l.sent + n }
    else none
  | .read n => if l.read + n ≤ l.sent then some { l with read := l.read + n } else none
  | .grant more => some { l with granted := fun i => l.granted i + more i }

/-- More to send, nothing left to read, and a limit used up. -/
def Stalled (l : Ledger ι) : Prop :=
  l.sent < l.total ∧ l.read = l.sent ∧ ∃ i, l.granted i = l.sent

/-- No more has been read than sent, nor sent than there is, nor sent than any
    limit has granted. -/
structure Balanced (l : Ledger ι) : Prop where
  read_le : l.read ≤ l.sent
  sent_le : l.sent ≤ l.total
  credit : ∀ i, l.sent ≤ l.granted i

theorem balanced_step {l l' : Ledger ι} {a : Action ι} (hb : Balanced l)
    (hs : step l a = some l') : Balanced l' := by
  have hread := hb.read_le
  cases a with
  | send n =>
      simp only [step] at hs
      split at hs
      · rename_i hok
        rw [← Option.some.inj hs]
        exact ⟨by simp only; omega, hok.1, hok.2⟩
      · exact absurd hs (by simp only [reduceCtorEq, not_false_eq_true])
  | read n =>
      simp only [step] at hs
      split at hs
      · rename_i hok
        rw [← Option.some.inj hs]
        exact ⟨hok, hb.sent_le, hb.credit⟩
      · exact absurd hs (by simp only [reduceCtorEq, not_false_eq_true])
  | grant more =>
      simp only [step, Option.some.injEq] at hs
      rw [← hs]
      exact ⟨hread, hb.sent_le, fun i => Nat.le_add_right_of_le (hb.credit i)⟩

omit [Fintype ι] in
/-- With credit for the whole transfer on every limit, the sender never waits
    for more. -/
theorem not_stalled_of_covered {l : Ledger ι} (hcover : ∀ i, l.total ≤ l.granted i) :
    ¬ Stalled l := by
  rintro ⟨hlt, _, i, hi⟩
  have := hcover i
  omega

end Credit

end Quik
