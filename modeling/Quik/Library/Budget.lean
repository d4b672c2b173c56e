import Mathlib.Algebra.Order.BigOperators.Group.Finset
import Quik.Library.Transition

/-!
# Budgets of Runs

What the steps of a run cost together, and how to bound it. Nothing here names
a particular system: a cost is a number for every step, read off the state the
step is taken from and the action.

A potential is a number for every state. If each step costs at most what the
potential falls by and the credit the step is given, then the run costs at most
the potential it began with and all the credit of the run
(`total_add_le`). Credit that several agents give is summed agent by agent
(`total_sum`), so a bound for one agent's part bounds the whole.

## Main definitions

* `total`: What a run costs.
* `share`: The part of a cost one agent bears.

## Theorems

* `total_add_le`, `total_le`: Cost is paid from the potential and from credit.
* `total_mono`: A dearer price costs more.
* `total_eq_counter`: A cost that is counted in the state.
* `total_mul`, `total_add`, `total_sum`: A cost with several parts.
* `total_count`, `length_history`: Counting actions, and the entries of a log.
* `total_eq_sum_share`: A cost split between the agents who act.
-/

namespace Quik

namespace Budget

open Transition

variable {σ α ι : Type*} (step : σ → α → Option σ)

/-- What the steps of a run cost together. -/
def total (cost : σ → α → Nat) : σ → List α → Nat
  | _, [] => 0
  | s, a :: as => match step s a with
    | none => 0
    | some s' => cost s a + total cost s' as

theorem total_cons {cost : σ → α → Nat} {s s' : σ} {a : α} (h : step s a = some s')
    (as : List α) : total step cost s (a :: as) = cost s a + total step cost s' as := by
  simp only [total, h]

/-- A run is paid for by the potential it began with and by its credit, and
    the potential it ends with is left over. -/
theorem total_add_le (potential : σ → Nat) {cost credit : σ → α → Nat}
    (hstep : ∀ s a s', step s a = some s' →
      cost s a + potential s' ≤ potential s + credit s a) :
    ∀ {as : List α} {s t : σ}, run step s as = some t →
      total step cost s as + potential t ≤ potential s + total step credit s as := by
  intro as
  induction as with
  | nil =>
      intro s t hrun
      simp only [run_nil, Option.some.injEq] at hrun
      rw [hrun, total, total]
      omega
  | cons a as ih =>
      intro s t hrun
      rcases run_cons_eq_some step hrun with ⟨s', hs, hrest⟩
      have hfirst := hstep s a s' hs
      have hlater := ih hrest
      rw [total_cons step hs, total_cons step hs]
      omega

/-- Without credit the potential pays for everything. -/
theorem total_le (potential : σ → Nat) {cost : σ → α → Nat}
    (hstep : ∀ s a s', step s a = some s' → cost s a + potential s' ≤ potential s)
    {as : List α} {s t : σ} (hrun : run step s as = some t) :
    total step cost s as ≤ potential s := by
  induction as generalizing s with
  | nil => exact Nat.zero_le _
  | cons a as ih =>
      rcases run_cons_eq_some step hrun with ⟨s', hs, hrest⟩
      have hfirst := hstep s a s' hs
      have hlater := ih hrest
      rw [total_cons step hs]
      omega

/-- A counter in the state that every step raises by the price. -/
theorem total_eq_counter (counter : σ → Nat) {cost : σ → α → Nat}
    (hstep : ∀ s a s', step s a = some s' → counter s' = counter s + cost s a)
    {as : List α} {s t : σ} (hrun : run step s as = some t) :
    counter t = counter s + total step cost s as := by
  induction as generalizing s with
  | nil =>
      simp only [run_nil, Option.some.injEq] at hrun
      rw [hrun, total, Nat.add_zero]
  | cons a as ih =>
      rcases run_cons_eq_some step hrun with ⟨s', hs, hrest⟩
      rw [ih hrest, hstep s a s' hs, total_cons step hs, Nat.add_assoc]

/-- A price that is nowhere lower costs no less. -/
theorem total_mono {cost cost' : σ → α → Nat} {as : List α}
    (h : ∀ s, ∀ a ∈ as, cost s a ≤ cost' s a) (s : σ) :
    total step cost s as ≤ total step cost' s as := by
  induction as generalizing s with
  | nil => exact Nat.le_refl 0
  | cons a as ih =>
      unfold total
      cases step s a with
      | none => exact Nat.le_refl 0
      | some s' =>
          have hfirst := h s a List.mem_cons_self
          have hlater := ih (fun s b hb => h s b (List.mem_cons_of_mem a hb)) s'
          exact Nat.add_le_add hfirst hlater

/-- So many times the price. -/
theorem total_mul (k : Nat) (cost : σ → α → Nat) (s : σ) (as : List α) :
    total step (fun s a => k * cost s a) s as = k * total step cost s as := by
  induction as generalizing s with
  | nil => rfl
  | cons a as ih =>
      cases hs : step s a with
      | none => simp only [total, hs, Nat.mul_zero]
      | some s' => rw [total_cons step hs, total_cons step hs, ih, Nat.mul_add]

/-- Two prices. -/
theorem total_add (cost cost' : σ → α → Nat) (s : σ) (as : List α) :
    total step (fun s a => cost s a + cost' s a) s as =
      total step cost s as + total step cost' s as := by
  induction as generalizing s with
  | nil => rfl
  | cons a as ih =>
      cases hs : step s a with
      | none => simp only [total, hs]
      | some s' =>
          rw [total_cons step hs, total_cons step hs, total_cons step hs, ih]
          omega

/-- A cost that several agents bear, agent by agent. -/
theorem total_sum (T : Finset ι) (share : ι → σ → α → Nat) (s : σ) (as : List α) :
    total step (fun s a => ∑ i ∈ T, share i s a) s as =
      ∑ i ∈ T, total step (share i) s as := by
  induction as generalizing s with
  | nil => exact (Finset.sum_const_zero).symm
  | cons a as ih =>
      cases hs : step s a with
      | none => simp only [total, hs, Finset.sum_const_zero]
      | some s' =>
          simp only [total_cons step hs]
          rw [ih, Finset.sum_add_distrib]

/-- The actions of one kind that a run performs. -/
theorem total_count (p : α → Bool) : ∀ {as : List α} {s t : σ}, run step s as = some t →
    total step (fun _ a => if p a then 1 else 0) s as = as.countP p := by
  intro as
  induction as with
  | nil => exact fun _ => rfl
  | cons a as ih =>
      intro s t hrun
      rcases run_cons_eq_some step hrun with ⟨s', hs, hrest⟩
      rw [total_cons step hs, ih hrest, List.countP_cons, Nat.add_comm]

/-- A log that every step adds to, in length. -/
theorem length_history {β : Type*} (added : σ → α → List β) : ∀ {as : List α} {log : List β}
    {s t : σ}, run step s as = some t →
      (history step (fun log s a => log ++ added s a) log s as).length =
        log.length + total step (fun s a => (added s a).length) s as := by
  intro as
  induction as with
  | nil => exact fun _ => rfl
  | cons a as ih =>
      intro log s t hrun
      rcases run_cons_eq_some step hrun with ⟨s', hs, hrest⟩
      simp only [history, hs, total_cons step hs]
      rw [ih hrest, List.length_append, Nat.add_assoc]

section Agents

variable [DecidableEq ι] (agent : α → Option ι)

/-- The part of a cost that falls on the actions of one agent. -/
def share (cost : σ → α → Nat) (i : ι) (s : σ) (a : α) : Nat :=
  if agent a = some i then cost s a else 0

variable {agent}

theorem share_of_agent {cost : σ → α → Nat} {i : ι} {a : α} (h : agent a = some i) (s : σ) :
    share agent cost i s a = cost s a := if_pos h

theorem share_of_ne {cost : σ → α → Nat} {i : ι} {a : α} (h : agent a ≠ some i) (s : σ) :
    share agent cost i s a = 0 := if_neg h

/-- What an agent pays is among the shares of any set it is in. -/
theorem sum_share {T : Finset ι} {cost : σ → α → Nat} {i : ι} {a : α} (h : agent a = some i)
    (hi : i ∈ T) (s : σ) : ∑ j ∈ T, share agent cost j s a = cost s a := by
  rw [Finset.sum_eq_single_of_mem i hi, share_of_agent h]
  intro j _ hne
  exact share_of_ne (fun hj => hne (Option.some.inj (hj.symm.trans h))) s

/-- A cost that falls on agents only, split between those of a set that has all
    who act. -/
theorem total_eq_sum_share {T : Finset ι} {cost : σ → α → Nat} {as : List α}
    (hT : ∀ a ∈ as, ∀ i, agent a = some i → i ∈ T)
    (hnone : ∀ s a, agent a = none → cost s a = 0) (s : σ) :
    total step cost s as = ∑ i ∈ T, total step (share agent cost i) s as := by
  have heq : ∀ s, ∀ a ∈ as, cost s a = ∑ i ∈ T, share agent cost i s a := by
    intro s a ha
    cases hagent : agent a with
    | none =>
        rw [hnone s a hagent, Finset.sum_eq_zero]
        exact fun i _ => share_of_ne (by simp only [hagent, ne_eq, reduceCtorEq,
          not_false_eq_true]) s
    | some i => rw [sum_share hagent (hT a ha i hagent)]
  rw [← total_sum]
  exact Nat.le_antisymm (total_mono step (fun s a ha => (heq s a ha).le) s)
    (total_mono step (fun s a ha => (heq s a ha).ge) s)

end Agents

end Budget

end Quik
