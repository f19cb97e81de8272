import Mathlib.Algebra.BigOperators.Group.Finset.Basic
import Mathlib.Algebra.BigOperators.Fin
import Mathlib.Algebra.Order.BigOperators.Group.Finset
import Mathlib.Algebra.BigOperators.Ring.Finset
import Mathlib.Data.Fintype.BigOperators
import Mathlib.Data.Fintype.Prod
import Mathlib.Tactic.Ring
import Mathlib.Tactic.Linarith

/-!
# The share ledger

A pooled staking contract keeps one token balance for many claims: what the owner of a desk
put in, what the holders of shares at the desk put in, and vaults that wait to be paid out.
Rewards of share holders are lazy: the desk raises one index, and a holder's reward is
`principal * (index - mark) / P`, with `mark` the index when the holder was last settled.

Rounding makes "tokens cover the sum of claims" useless as an induction hypothesis, since each
settlement rounds down at another moment. The inductive statement is about numerators: `P`
times the recorded principals, plus the unrounded products `principal * (index - mark)`, stay
below `P` times the tokens. `Move` lists the elementary bookkeeping steps, and everything the
ledger promises is proved for one move and then for a list of moves.
-/

namespace ArioSolana

open Finset

/-! ### Sums over an updated map -/

section Sums

variable {α β : Type*} [DecidableEq α] [DecidableEq β]

/-- Two functions that differ at one point have sums that differ there. -/
lemma sum_eq_of_ne [Fintype α] {f f' : α → ℤ} (a : α) (h : ∀ i, i ≠ a → f' i = f i) :
    ∑ i, f' i = ∑ i, f i + (f' a - f a) := by
  have h1 := add_sum_erase univ f (mem_univ a)
  have h2 := add_sum_erase univ f' (mem_univ a)
  have h3 : ∑ i ∈ univ.erase a, f' i = ∑ i ∈ univ.erase a, f i :=
    sum_congr rfl fun i hi => h i (ne_of_mem_erase hi)
  omega

@[simp] lemma sum_update [Fintype α] (f : α → ℤ) (a : α) (x : ℤ) :
    ∑ i, Function.update f a x i = ∑ i, f i + (x - f a) := by
  rw [sum_eq_of_ne (f := f) a fun i hi => Function.update_of_ne hi _ _, Function.update_self]

/-- A row of an updated matrix. -/
lemma sum_row_update [Fintype β] (f : α × β → ℤ) (a a' : α) (b : β) (x : ℤ) :
    ∑ j, Function.update f (a, b) x (a', j)
      = ∑ j, f (a', j) + if a' = a then x - f (a, b) else 0 := by
  by_cases h : a' = a
  · subst h
    rw [sum_eq_of_ne (f := fun j => f (a', j)) b, Function.update_self, if_pos rfl]
    intro j hj
    rw [Function.update_of_ne (by simpa using hj)]
  · rw [if_neg h, add_zero]
    refine sum_congr rfl fun j _ => ?_
    rw [Function.update_of_ne (by simp [h])]

end Sums

/-! ### Books and moves -/

/-- The numbers of a share ledger over desks `G`, people `U` and vault names `V`. -/
@[ext] structure Book (G U V : Type*) where
  /-- what the owner of a desk has at it -/
  own : G → ℤ
  /-- the recorded total of the holders' principals at a desk -/
  shares : G → ℤ
  /-- the cumulative reward of one share, times `P` -/
  index : G → ℤ
  principal : G × U → ℤ
  /-- the index at a holder's last settlement -/
  mark : G × U → ℤ
  vault : U × V → ℤ
  tokens : ℤ

/-- An elementary bookkeeping step. -/
inductive Move (G U V : Type*) where
  /-- the owner's stake and the tokens both change by `δ` -/
  | own (g : G) (δ : ℤ)
  /-- a settled holder's principal and the tokens both change by `δ` -/
  | share (g : G) (u : U) (δ : ℤ)
  /-- a vault and the tokens both change by `δ` -/
  | vault (u : U) (v : V) (δ : ℤ)
  /-- the pending reward of a holder becomes principal -/
  | settle (g : G) (u : U)
  /-- `q` tokens arrive for the holders at `g`, whose index rises by `δ` -/
  | accrue (g : G) (q δ : ℤ)
  /-- `q` tokens arrive for nobody -/
  | donate (q : ℤ)
  /-- the index of an empty desk starts again at zero -/
  | clear (g : G)
  /-- the mark of a holder without principal is set to `x` -/
  | remark (g : G) (u : U) (x : ℤ)
  /-- the recorded total at a desk is lowered by `δ` -/
  | lower (g : G) (δ : ℤ)

namespace Book

variable {G U V : Type*}

/-- The reward a settlement would credit now. -/
def pending (P : ℤ) (b : Book G U V) (g : G) (u : U) : ℤ :=
  b.principal (g, u) * (b.index g - b.mark (g, u)) / P

lemma pending_mk (P : ℤ) (own shares index : G → ℤ) (principal mark : G × U → ℤ) (vault : U × V → ℤ)
    (tokens : ℤ) (g : G) (u : U) :
    pending P ⟨own, shares, index, principal, mark, vault, tokens⟩ g u
      = principal (g, u) * (index g - mark (g, u)) / P := rfl

/-- Rounding down: `P` times the pending reward is at most the product it is taken from. -/
lemma mul_pending_le {P : ℤ} (hP : 0 < P) (b : Book G U V) (g : G) (u : U) :
    P * b.pending P g u ≤ b.principal (g, u) * (b.index g - b.mark (g, u)) :=
  Int.mul_ediv_self_le hP.ne'

lemma pending_of_mark {P : ℤ} {b : Book G U V} {g : G} {u : U}
    (h : b.mark (g, u) = b.index g) : b.pending P g u = 0 := by
  simp [pending, h]

/-! ### Solvency -/

section Solvency

variable [Fintype G] [Fintype U] [Fintype V]

-- the totals range over all keys, so they must never be evaluated

/-- The stakes of all desk owners. -/
@[irreducible] def totalOwn (b : Book G U V) : ℤ := ∑ g, b.own g

/-- The recorded totals of all desks. -/
@[irreducible] def totalShares (b : Book G U V) : ℤ := ∑ g, b.shares g

/-- All vaults. -/
@[irreducible] def totalVault (b : Book G U V) : ℤ := ∑ k, b.vault k

/-- The rewards that all holders would be credited now. -/
@[irreducible] def totalPending (P : ℤ) (b : Book G U V) : ℤ :=
  ∑ k : G × U, b.pending P k.1 k.2

/-- The unrounded rewards that are owed, times `P`. -/
def accrued (b : Book G U V) : ℤ := ∑ k : G × U, b.principal k * (b.index k.1 - b.mark k)

/-- Everything that is owed, times `P`. -/
def liability (P : ℤ) (b : Book G U V) : ℤ :=
  P * (b.totalOwn + b.totalShares + b.totalVault) + b.accrued

/-- The tokens cover what is owed, and the figures are those of a share ledger. -/
structure Solvent (P : ℤ) (b : Book G U V) : Prop where
  own_nonneg : ∀ g, 0 ≤ b.own g
  principal_nonneg : ∀ k, 0 ≤ b.principal k
  vault_nonneg : ∀ k, 0 ≤ b.vault k
  /-- the recorded total at a desk covers its holders -/
  backed : ∀ g, ∑ u, b.principal (g, u) ≤ b.shares g
  marked : ∀ g u, 0 < b.principal (g, u) → b.mark (g, u) ≤ b.index g
  covered : b.liability P ≤ P * b.tokens

section Facts

variable {P : ℤ} {b : Book G U V} {g : G} {u : U}

/-- More tokens do no harm. -/
lemma Solvent.more (hP : 0 < P) (h : b.Solvent P) {t : ℤ} (ht : b.tokens ≤ t) :
    { b with tokens := t }.Solvent P := by
  refine { h with covered := ?_ }
  have hl : { b with tokens := t }.liability P = b.liability P := by
    rw [liability, liability, totalOwn, totalShares, totalVault, totalOwn, totalShares, totalVault]
    rfl
  rw [hl]
  exact h.covered.trans (mul_le_mul_of_nonneg_left ht hP.le)

lemma Solvent.term_nonneg (h : b.Solvent P) (k : G × U) :
    0 ≤ b.principal k * (b.index k.1 - b.mark k) := by
  rcases (h.principal_nonneg k).lt_or_eq with hp | hp
  · have := h.marked k.1 k.2 hp
    exact mul_nonneg (h.principal_nonneg k) (by simpa using this)
  · simp [← hp]

lemma Solvent.pending_nonneg (hP : 0 < P) (h : b.Solvent P) (g : G) (u : U) :
    0 ≤ b.pending P g u :=
  Int.ediv_nonneg (h.term_nonneg (g, u)) hP.le

lemma Solvent.shares_nonneg (h : b.Solvent P) (g : G) : 0 ≤ b.shares g :=
  (sum_nonneg fun u _ => h.principal_nonneg (g, u)).trans (h.backed g)

lemma Solvent.principal_le_shares (h : b.Solvent P) (g : G) (u : U) :
    b.principal (g, u) ≤ b.shares g :=
  (single_le_sum (f := fun u => b.principal (g, u)) (fun u _ => h.principal_nonneg (g, u))
    (mem_univ u)).trans (h.backed g)

/-- The sums of a solvent book are at least each of their parts. -/
lemma Solvent.own_le_total (h : b.Solvent P) (g : G) : b.own g ≤ b.totalOwn := by
  rw [totalOwn]
  exact single_le_sum (fun g _ => h.own_nonneg g) (mem_univ g)

lemma Solvent.shares_le_total (h : b.Solvent P) (g : G) : b.shares g ≤ b.totalShares := by
  rw [totalShares]
  exact single_le_sum (fun g _ => h.shares_nonneg g) (mem_univ g)

lemma Solvent.vault_le_total (h : b.Solvent P) (k : U × V) : b.vault k ≤ b.totalVault := by
  rw [totalVault]
  exact single_le_sum (fun k _ => h.vault_nonneg k) (mem_univ k)

lemma Solvent.pending_le_total (hP : 0 < P) (h : b.Solvent P) (g : G) (u : U) :
    b.pending P g u ≤ b.totalPending P := by
  rw [totalPending]
  exact single_le_sum (f := fun k : G × U => b.pending P k.1 k.2)
    (fun k _ => h.pending_nonneg hP k.1 k.2) (mem_univ (g, u))

/-- The rewards of one holder at two desks are part of all rewards. -/
lemma Solvent.pending_add_le_total (hP : 0 < P) (h : b.Solvent P) {g g' : G} (hne : g ≠ g')
    (u : U) : b.pending P g u + b.pending P g' u ≤ b.totalPending P := by
  classical
  have := sum_le_univ_sum_of_nonneg (f := fun k : G × U => b.pending P k.1 k.2)
    (s := {(g, u), (g', u)}) (fun k => h.pending_nonneg hP k.1 k.2)
  rw [sum_pair (by simp [hne])] at this
  rw [totalPending]
  exact this

/-- The totals of a solvent book are not negative. -/
lemma Solvent.totals_nonneg (hP : 0 < P) (h : b.Solvent P) :
    0 ≤ b.totalOwn ∧ 0 ≤ b.totalShares ∧ 0 ≤ b.totalVault ∧ 0 ≤ b.totalPending P := by
  rw [totalOwn, totalShares, totalVault, totalPending]
  exact ⟨sum_nonneg fun g _ => h.own_nonneg g, sum_nonneg fun g _ => h.shares_nonneg g,
    sum_nonneg fun k _ => h.vault_nonneg k, sum_nonneg fun k _ => h.pending_nonneg hP k.1 k.2⟩

/-- **Solvency, rounded.** A solvent book's tokens cover every stake, every vault and the
reward that each holder would be credited now. -/
theorem Solvent.rounded (hP : 0 < P) (h : b.Solvent P) :
    b.totalOwn + b.totalShares + b.totalVault + b.totalPending P ≤ b.tokens := by
  have hsum : P * b.totalPending P ≤ b.accrued := by
    rw [totalPending, mul_sum]
    exact sum_le_sum fun k _ => mul_pending_le hP b k.1 k.2
  have hcov := h.covered
  unfold liability at hcov
  refine le_of_mul_le_mul_left ?_ hP
  calc P * (b.totalOwn + b.totalShares + b.totalVault + b.totalPending P)
      = P * (b.totalOwn + b.totalShares + b.totalVault) + P * b.totalPending P := by ring
    _ ≤ P * b.tokens := by linarith

/-- No single claim exceeds the tokens, even with the reward pending at one desk. -/
lemma Solvent.single_le (hP : 0 < P) (h : b.Solvent P) (g : G) (u : U) (g' : G) (k : U × V) :
    b.own g' + (b.shares g + b.pending P g u) + b.vault k ≤ b.tokens := by
  have := h.own_le_total g'
  have := h.shares_le_total g
  have := h.vault_le_total k
  have := h.pending_le_total hP g u
  have := h.rounded hP
  linarith

end Facts

end Solvency

/-! ### Moves -/

variable [DecidableEq G] [DecidableEq U] [DecidableEq V]

/-- The effect of a move. -/
def apply (P : ℤ) (b : Book G U V) : Move G U V → Book G U V
  | .own g δ =>
    { b with own := Function.update b.own g (b.own g + δ), tokens := b.tokens + δ }
  | .share g u δ =>
    { b with
      principal := Function.update b.principal (g, u) (b.principal (g, u) + δ)
      shares := Function.update b.shares g (b.shares g + δ)
      tokens := b.tokens + δ }
  | .vault u v δ =>
    { b with vault := Function.update b.vault (u, v) (b.vault (u, v) + δ), tokens := b.tokens + δ }
  | .settle g u =>
    { b with
      principal := Function.update b.principal (g, u) (b.principal (g, u) + b.pending P g u)
      shares := Function.update b.shares g (b.shares g + b.pending P g u)
      mark := Function.update b.mark (g, u) (b.index g) }
  | .accrue g q δ =>
    { b with index := Function.update b.index g (b.index g + δ), tokens := b.tokens + q }
  | .donate q => { b with tokens := b.tokens + q }
  | .clear g => { b with index := Function.update b.index g 0 }
  | .remark g u x => { b with mark := Function.update b.mark (g, u) x }
  | .lower g δ => { b with shares := Function.update b.shares g (b.shares g - δ) }

/-- When a move may be made. -/
def Admits [Fintype U] (P : ℤ) (b : Book G U V) : Move G U V → Prop
  | .own g δ => 0 ≤ b.own g + δ
  | .share g u δ => 0 ≤ b.principal (g, u) + δ ∧ b.mark (g, u) = b.index g
  | .vault u v δ => 0 ≤ b.vault (u, v) + δ
  | .settle _ _ => True
  | .accrue g q δ => 0 ≤ q ∧ 0 ≤ δ ∧ δ * b.shares g ≤ q * P
  | .donate q => 0 ≤ q
  | .clear g => ∀ u, b.principal (g, u) = 0
  | .remark g u _ => b.principal (g, u) = 0
  | .lower g δ => 0 ≤ δ ∧ ∑ u, b.principal (g, u) ≤ b.shares g - δ

/-- Several moves, first to last. -/
def play (P : ℤ) : List (Move G U V) → Book G U V → Book G U V
  | [], b => b
  | m :: ms, b => play P ms (b.apply P m)

/-- Each of several moves may be made when its turn comes. -/
def AdmitsAll [Fintype U] (P : ℤ) : List (Move G U V) → Book G U V → Prop
  | [], _ => True
  | m :: ms, b => b.Admits P m ∧ AdmitsAll P ms (b.apply P m)

@[simp] lemma play_nil (P : ℤ) (b : Book G U V) : play P [] b = b := rfl

@[simp] lemma play_cons (P : ℤ) (m : Move G U V) (ms : List (Move G U V)) (b : Book G U V) :
    play P (m :: ms) b = play P ms (b.apply P m) := rfl

lemma play_append (P : ℤ) (ms ms' : List (Move G U V)) (b : Book G U V) :
    play P (ms ++ ms') b = play P ms' (play P ms b) := by
  induction ms generalizing b with
  | nil => rfl
  | cons m ms ih => exact ih _

lemma admitsAll_append [Fintype U] (P : ℤ) (ms ms' : List (Move G U V)) (b : Book G U V) :
    AdmitsAll P (ms ++ ms') b ↔ AdmitsAll P ms b ∧ AdmitsAll P ms' (play P ms b) := by
  induction ms generalizing b with
  | nil => simp [AdmitsAll]
  | cons m ms ih => simp [AdmitsAll, ih, and_assoc]

/-! ### Every admitted move keeps the book solvent -/

section Preservation

variable [Fintype G] [Fintype U] {P : ℤ} {b : Book G U V}

lemma accrued_apply_share {g : G} {u : U} {δ : ℤ} (h : b.mark (g, u) = b.index g) :
    (b.apply P (.share g u δ)).accrued = b.accrued := by
  refine sum_congr rfl fun k _ => ?_
  by_cases hk : k = (g, u)
  · subst hk; simp [apply, h]
  · simp [apply, hk]

lemma accrued_apply_settle (g : G) (u : U) :
    (b.apply P (.settle g u)).accrued
      = b.accrued - b.principal (g, u) * (b.index g - b.mark (g, u)) := by
  unfold accrued
  rw [sum_eq_of_ne (f := fun k : G × U => b.principal k * (b.index k.1 - b.mark k)) (g, u)]
  · simp [apply, sub_eq_add_neg]
  · intro k hk
    simp [apply, hk]

lemma accrued_apply_accrue (g : G) (q δ : ℤ) :
    (b.apply P (.accrue g q δ)).accrued = b.accrued + δ * ∑ u, b.principal (g, u) := by
  have hterm : ∀ k : G × U, b.principal k * ((b.apply P (.accrue g q δ)).index k.1 - b.mark k)
      = b.principal k * (b.index k.1 - b.mark k) + (if k.1 = g then δ * b.principal k else 0) := by
    intro k
    by_cases hk : k.1 = g
    · simp only [apply, hk, Function.update_self, if_true]; ring
    · simp [apply, hk]
  have hrow : ∑ k : G × U, (if k.1 = g then δ * b.principal k else 0)
      = δ * ∑ u, b.principal (g, u) := by
    rw [Fintype.sum_prod_type, sum_eq_single g, mul_sum]
    · simp
    · intro g' _ hg'; simp [hg']
    · simp
  unfold accrued
  rw [← hrow, ← sum_add_distrib]
  exact sum_congr rfl fun k _ => hterm k

lemma accrued_apply_of_empty {m : Move G U V} (hp : (b.apply P m).principal = b.principal)
    (h : ∀ k : G × U, b.principal k = 0 ∨
      ((b.apply P m).index k.1 = b.index k.1 ∧ (b.apply P m).mark k = b.mark k)) :
    (b.apply P m).accrued = b.accrued := by
  refine sum_congr rfl fun k _ => ?_
  rw [hp]
  rcases h k with h0 | ⟨h1, h2⟩
  · simp [h0]
  · rw [h1, h2]

variable [Fintype V]

/-! ### Totals after a move -/

omit [Fintype U] [DecidableEq G] [DecidableEq U] [DecidableEq V] [Fintype V] in
@[simp] lemma totalOwn_tokens (t : ℤ) : { b with tokens := t }.totalOwn = b.totalOwn := by
  rw [totalOwn, totalOwn]

omit [Fintype U] [DecidableEq G] [DecidableEq U] [DecidableEq V] [Fintype V] in
@[simp] lemma totalShares_tokens (t : ℤ) :
    { b with tokens := t }.totalShares = b.totalShares := by
  rw [totalShares, totalShares]

omit [Fintype G] [DecidableEq G] [DecidableEq U] [DecidableEq V] in
@[simp] lemma totalVault_tokens (t : ℤ) : { b with tokens := t }.totalVault = b.totalVault := by
  rw [totalVault, totalVault]

/-- What a move adds to the stakes of the owners. -/
def ownChange : Move G U V → ℤ
  | .own _ δ => δ
  | _ => 0

/-- What a move adds to the recorded totals. -/
def sharesChange (P : ℤ) (b : Book G U V) : Move G U V → ℤ
  | .share _ _ δ => δ
  | .settle g u => b.pending P g u
  | .lower _ δ => -δ
  | _ => 0

/-- What a move adds to the vaults. -/
def vaultChange : Move G U V → ℤ
  | .vault _ _ δ => δ
  | _ => 0

omit [Fintype U] [Fintype V] in
@[simp] lemma totalOwn_apply (m : Move G U V) :
    (b.apply P m).totalOwn = b.totalOwn + ownChange m := by
  rw [totalOwn, totalOwn]
  cases m <;> simp [apply, ownChange]

omit [Fintype U] [Fintype V] in
@[simp] lemma totalShares_apply (m : Move G U V) :
    (b.apply P m).totalShares = b.totalShares + b.sharesChange P m := by
  rw [totalShares, totalShares]
  cases m <;> simp [apply, sharesChange]

omit [Fintype G] in
@[simp] lemma totalVault_apply (m : Move G U V) :
    (b.apply P m).totalVault = b.totalVault + vaultChange m := by
  rw [totalVault, totalVault]
  cases m <;> simp [apply, vaultChange]

/-- No move eats into the surplus of the tokens over what is owed. -/
lemma surplus_le_apply (hP : 0 < P) {m : Move G U V} (hb : b.Solvent P) (hm : b.Admits P m) :
    P * b.tokens - b.liability P ≤ P * (b.apply P m).tokens - (b.apply P m).liability P := by
  simp only [liability, totalOwn_apply, totalShares_apply, totalVault_apply]
  cases m with
  | own g δ =>
    have : (b.apply P (.own g δ)).accrued = b.accrued := rfl
    rw [this]
    simp only [apply, ownChange, sharesChange, vaultChange]
    linarith
  | share g u δ =>
    rw [accrued_apply_share hm.2]
    simp only [apply, ownChange, sharesChange, vaultChange]
    linarith
  | vault u v δ =>
    have : (b.apply P (.vault u v δ)).accrued = b.accrued := rfl
    rw [this]
    simp only [apply, ownChange, sharesChange, vaultChange]
    linarith
  | settle g u =>
    rw [accrued_apply_settle]
    simp only [apply, ownChange, sharesChange, vaultChange]
    have := mul_pending_le hP b g u
    linarith
  | accrue g q δ =>
    rw [accrued_apply_accrue]
    simp only [apply, ownChange, sharesChange, vaultChange]
    obtain ⟨-, hδ, hrate⟩ := hm
    have := mul_le_mul_of_nonneg_left (hb.backed g) hδ
    linarith
  | donate q =>
    have : (b.apply P (.donate q)).accrued = b.accrued := rfl
    rw [this]
    simp only [apply, ownChange, sharesChange, vaultChange]
    have := mul_nonneg hP.le (show 0 ≤ q from hm)
    linarith
  | clear g =>
    rw [accrued_apply_of_empty rfl]
    · simp only [apply, ownChange, sharesChange, vaultChange]; linarith
    · rintro ⟨g', u⟩
      by_cases h : g' = g
      · subst h; exact .inl (hm u)
      · exact .inr ⟨by simp [apply, h], rfl⟩
  | remark g u x =>
    rw [accrued_apply_of_empty rfl]
    · simp only [apply, ownChange, sharesChange, vaultChange]; linarith
    · intro k
      by_cases h : k = (g, u)
      · subst h; exact .inl hm
      · exact .inr ⟨rfl, by simp [apply, h]⟩
  | lower g δ =>
    have : (b.apply P (.lower g δ)).accrued = b.accrued := rfl
    rw [this]
    simp only [apply, ownChange, sharesChange, vaultChange]
    have := mul_nonneg hP.le hm.1
    linarith

lemma nonneg_update {α : Type*} [DecidableEq α] {f : α → ℤ} {a : α} {x : ℤ}
    (hf : ∀ i, 0 ≤ f i) (hx : 0 ≤ x) (i : α) : 0 ≤ Function.update f a x i := by
  by_cases h : i = a
  · subst h; simpa using hx
  · simpa [h] using hf i

/-- **A move keeps a book solvent.** -/
theorem Solvent.apply (hP : 0 < P) {m : Move G U V} (hb : b.Solvent P) (hm : b.Admits P m) :
    (b.apply P m).Solvent P := by
  have hcov : (b.apply P m).liability P ≤ P * (b.apply P m).tokens := by
    have := surplus_le_apply hP hb hm
    have := hb.covered
    linarith
  cases m with
  | own g δ =>
    exact { hb with own_nonneg := nonneg_update hb.own_nonneg hm, covered := hcov }
  | share g u δ =>
    refine { hb with
      principal_nonneg := nonneg_update hb.principal_nonneg hm.1
      backed := fun g' => ?_, marked := fun g' u' h => ?_, covered := hcov }
    · simp only [Book.apply, sum_row_update]
      have := hb.backed g'
      by_cases h : g' = g
      · subst h; simpa using this
      · simpa [h] using this
    · by_cases hk : (g', u') = (g, u)
      · obtain ⟨rfl, rfl⟩ := Prod.mk.inj hk
        exact hm.2.le
      · exact hb.marked g' u' (by simpa [Book.apply, hk] using h)
  | vault u v δ =>
    exact { hb with vault_nonneg := nonneg_update hb.vault_nonneg hm, covered := hcov }
  | settle g u =>
    have hpend := hb.pending_nonneg hP g u
    refine { hb with
      principal_nonneg := nonneg_update hb.principal_nonneg
        (by have := hb.principal_nonneg (g, u); omega)
      backed := fun g' => ?_, marked := fun g' u' h => ?_, covered := hcov }
    · simp only [Book.apply, sum_row_update]
      have := hb.backed g'
      by_cases h : g' = g
      · subst h; simpa using this
      · simpa [h] using this
    · by_cases hk : (g', u') = (g, u)
      · obtain ⟨rfl, rfl⟩ := Prod.mk.inj hk
        simp [Book.apply]
      · simp only [Book.apply, Function.update_of_ne hk] at h ⊢
        exact hb.marked g' u' h
  | accrue g q δ =>
    refine { hb with marked := fun g' u' h => ?_, covered := hcov }
    have := hb.marked g' u' h
    have hδ := hm.2.1
    by_cases hg : g' = g
    · subst hg; simp only [Book.apply, Function.update_self]; linarith
    · simpa [Book.apply, hg] using this
  | donate q => exact { hb with covered := hcov }
  | clear g =>
    refine { hb with marked := fun g' u' h => ?_, covered := hcov }
    by_cases hg : g' = g
    · subst hg
      exact absurd (hm u') h.ne'
    · simpa [Book.apply, hg] using hb.marked g' u' h
  | remark g u x =>
    refine { hb with marked := fun g' u' h => ?_, covered := hcov }
    by_cases hk : (g', u') = (g, u)
    · obtain ⟨rfl, rfl⟩ := Prod.mk.inj hk
      exact absurd hm h.ne'
    · simpa [Book.apply, hk] using hb.marked g' u' h
  | lower g δ =>
    refine { hb with backed := fun g' => ?_, covered := hcov }
    by_cases hg : g' = g
    · subst hg; simpa [Book.apply] using hm.2
    · simpa [Book.apply, hg] using hb.backed g'

/-- **Several moves keep a book solvent.** -/
theorem Solvent.play (hP : 0 < P) {ms : List (Move G U V)} (hb : b.Solvent P)
    (hm : AdmitsAll P ms b) : (Book.play P ms b).Solvent P := by
  induction ms generalizing b with
  | nil => exact hb
  | cons m ms ih => exact ih (hb.apply hP hm.1) hm.2

end Preservation

/-! ### Who a move is about -/

section Claims

variable {P : ℤ} {b : Book G U V} {owner : G → U}

/-- The person whose claim a move changes. -/
def subject (owner : G → U) : Move G U V → Option U
  | .own g _ => some (owner g)
  | .share _ u _ => some u
  | .vault u _ _ => some u
  | _ => none

/-- What a move adds to the claim of its subject. -/
def owed : Move G U V → ℤ
  | .own _ δ => δ
  | .share _ _ δ => δ
  | .vault _ _ δ => δ
  | _ => 0

/-- The tokens a move brings in. -/
def inflow : Move G U V → ℤ
  | .accrue _ q _ => q
  | .donate q => q
  | m => owed m

/-- A move that brings a reward to a desk. -/
def IsAccrual : Move G U V → Prop
  | .accrue _ _ _ => True
  | _ => False

/-- What several moves add to the claim of `u`. -/
def owedTo (owner : G → U) (u : U) : List (Move G U V) → ℤ
  | [] => 0
  | m :: ms => (if subject owner m = some u then owed m else 0) + owedTo owner u ms

/-- A move about `u` alone: no reward arrives, and no recorded total is lowered. -/
def About (owner : G → U) (u : U) : Move G U V → Prop
  | .own g _ => owner g = u
  | .share _ u' _ => u' = u
  | .vault u' _ _ => u' = u
  | .settle _ _ => True
  | .clear _ => True
  | .remark _ _ _ => True
  | _ => False

omit [DecidableEq G] [DecidableEq V] in
lemma owedTo_of_about {ms : List (Move G U V)} {u : U} (h : ∀ m ∈ ms, About owner u m) (v : U) :
    owedTo owner v ms = if v = u then (ms.map inflow).sum else 0 := by
  induction ms with
  | nil => simp [owedTo]
  | cons m ms ih =>
    rw [owedTo, ih fun m' hm' => h m' (List.mem_cons_of_mem _ hm'), List.map_cons, List.sum_cons]
    have hhead := h m List.mem_cons_self
    by_cases hv : v = u
    · subst hv
      cases m <;> simp_all [About, subject, inflow, owed]
    · cases m <;> simp_all [About, subject, Ne.symm hv]

lemma tokens_play (ms : List (Move G U V)) :
    (play P ms b).tokens = b.tokens + (ms.map inflow).sum := by
  induction ms generalizing b with
  | nil => simp
  | cons m ms ih =>
    have : (b.apply P m).tokens = b.tokens + inflow m := by
      cases m <;> simp [apply, inflow, owed]
    rw [play_cons, ih, this, List.map_cons, List.sum_cons]
    ring

variable [Fintype G] [Fintype V]

/-- All that `u` has in the book: the stakes of the desks it owns, its principals with the
rewards it would be credited now, and its vaults. -/
def claim (owner : G → U) (P : ℤ) (b : Book G U V) (u : U) : ℤ :=
  (∑ g, if owner g = u then b.own g else 0)
    + ∑ g, (b.principal (g, u) + b.pending P g u) + ∑ v, b.vault (u, v)

variable [Fintype U]

lemma pending_apply_accrue_le (hP : 0 < P) {g : G} {q δ : ℤ} (hb : b.Solvent P)
    (hm : b.Admits P (.accrue g q δ)) (g' : G) (u : U) :
    b.pending P g' u ≤ (b.apply P (.accrue g q δ)).pending P g' u := by
  refine Int.ediv_le_ediv hP ?_
  refine mul_le_mul_of_nonneg_left ?_ (hb.principal_nonneg _)
  have := hm.2.1
  by_cases h : g' = g
  · subst h; simp only [apply, Function.update_self]; linarith
  · simp [apply, h]

/-- **The claim law.** A move other than an accrual changes the claim of its subject by what
it owes, and no other claim. -/
theorem claim_apply {m : Move G U V} (hm : b.Admits P m) (hacc : ¬ IsAccrual m) (u : U) :
    claim owner P (b.apply P m) u
      = claim owner P b u + if subject owner m = some u then owed m else 0 := by
  unfold claim
  cases m with
  | own g δ =>
    have hsum : ∑ i, (if owner i = u then (b.apply P (.own g δ)).own i else 0)
        = ∑ i, (if owner i = u then b.own i else 0)
          + ((if owner g = u then (b.apply P (.own g δ)).own g else 0)
            - if owner g = u then b.own g else 0) :=
      sum_eq_of_ne g fun i hi => by simp [apply, hi]
    have hp : ∀ g', (b.apply P (.own g δ)).pending P g' u = b.pending P g' u := fun _ => rfl
    simp only [hp]
    rw [hsum]
    by_cases h : owner g = u <;> simp [apply, subject, owed, h]; ring
  | share g u' δ =>
    have hsum : ∑ i, ((b.apply P (.share g u' δ)).principal (i, u)
          + (b.apply P (.share g u' δ)).pending P i u)
        = ∑ i, (b.principal (i, u) + b.pending P i u)
          + ((b.apply P (.share g u' δ)).principal (g, u)
              + (b.apply P (.share g u' δ)).pending P g u
            - (b.principal (g, u) + b.pending P g u)) :=
      sum_eq_of_ne g fun i hi => by simp [apply, pending, hi]
    rw [hsum]
    by_cases h : u = u'
    · subst h
      have h0 : (b.apply P (.share g u δ)).pending P g u = b.pending P g u := by
        rw [pending_of_mark hm.2, pending_of_mark (by exact hm.2)]
      rw [h0]
      simp [apply, subject, owed]
      ring
    · simp [apply, pending, subject, h, Ne.symm h]
  | vault u' v δ =>
    have hp : ∀ g', (b.apply P (.vault u' v δ)).pending P g' u = b.pending P g' u := fun _ => rfl
    simp only [hp]
    simp only [apply, sum_row_update, subject, owed, Option.some.injEq]
    by_cases h : u = u'
    · subst h; simp; ring
    · simp [h, Ne.symm h]
  | settle g u' =>
    have hsum : ∑ i, ((b.apply P (.settle g u')).principal (i, u)
        + (b.apply P (.settle g u')).pending P i u)
        = ∑ i, (b.principal (i, u) + b.pending P i u) := by
      refine sum_congr rfl fun i _ => ?_
      by_cases h : (i, u) = (g, u')
      · obtain ⟨rfl, rfl⟩ := Prod.mk.inj h
        rw [pending_of_mark (by simp [apply])]
        simp [apply]
      · simp [apply, pending, h]
    rw [hsum]
    simp [apply, subject]
  | accrue g q δ => exact absurd trivial hacc
  | donate q => simp [apply, subject, pending]
  | clear g =>
    have hsum : ∑ i, (b.principal (i, u) + (b.apply P (.clear g)).pending P i u)
        = ∑ i, (b.principal (i, u) + b.pending P i u) := by
      refine sum_congr rfl fun i _ => ?_
      by_cases h : i = g
      · subst h
        have : b.principal (i, u) = 0 := hm u
        simp [apply, pending, this]
      · simp [apply, pending, h]
    simpa [apply, subject] using hsum
  | remark g u' x =>
    have hsum : ∑ i, (b.principal (i, u) + (b.apply P (.remark g u' x)).pending P i u)
        = ∑ i, (b.principal (i, u) + b.pending P i u) := by
      refine sum_congr rfl fun i _ => ?_
      by_cases h : (i, u) = (g, u')
      · obtain ⟨rfl, rfl⟩ := Prod.mk.inj h
        have : b.principal (i, u) = 0 := hm
        simp [apply, pending, this]
      · simp [apply, pending, h]
    simpa [apply, subject] using hsum
  | lower g δ => simp [apply, subject, pending]

/-- An accrual lowers no claim. -/
lemma claim_le_apply_accrue (hP : 0 < P) {g : G} {q δ : ℤ} (hb : b.Solvent P)
    (hm : b.Admits P (.accrue g q δ)) (u : U) :
    claim owner P b u ≤ claim owner P (b.apply P (.accrue g q δ)) u := by
  have h : ∑ i, (b.principal (i, u) + b.pending P i u)
      ≤ ∑ i, (b.principal (i, u) + (b.apply P (.accrue g q δ)).pending P i u) :=
    sum_le_sum fun i _ => by
      have := pending_apply_accrue_le hP hb hm i u
      omega
  unfold claim
  have h1 : (b.apply P (.accrue g q δ)).own = b.own := rfl
  have h2 : (b.apply P (.accrue g q δ)).vault = b.vault := rfl
  have h3 : (b.apply P (.accrue g q δ)).principal = b.principal := rfl
  rw [h1, h2, h3]
  omega

/-- **The claim law for several moves.** -/
theorem claim_play {ms : List (Move G U V)} (hm : AdmitsAll P ms b)
    (hacc : ∀ m ∈ ms, ¬ IsAccrual m) (u : U) :
    claim owner P (play P ms b) u = claim owner P b u + owedTo owner u ms := by
  induction ms generalizing b with
  | nil => simp [owedTo]
  | cons m ms ih =>
    rw [play_cons, ih hm.2 fun m' h => hacc m' (List.mem_cons_of_mem _ h),
      claim_apply hm.1 (hacc m List.mem_cons_self), owedTo]
    ring

/-- With accruals among the moves, what they owe is a lower bound. -/
theorem le_claim_play (hP : 0 < P) {ms : List (Move G U V)} (hb : b.Solvent P)
    (hm : AdmitsAll P ms b) (u : U) :
    claim owner P b u + owedTo owner u ms ≤ claim owner P (play P ms b) u := by
  induction ms generalizing b with
  | nil => simp [owedTo]
  | cons m ms ih =>
    have htail := ih (hb.apply hP hm.1) hm.2
    rw [play_cons, owedTo]
    by_cases hacc : IsAccrual m
    · cases m with
      | accrue g q δ =>
        have : claim owner P b u ≤ claim owner P (b.apply P (.accrue g q δ)) u :=
          claim_le_apply_accrue hP hb hm.1 u
        simp only [subject]
        simp
        omega
      | _ => exact hacc.elim
    · have : claim owner P (b.apply P m) u
          = claim owner P b u + if subject owner m = some u then owed m else 0 :=
        claim_apply hm.1 hacc u
      omega

/-- A move by which nobody loses. -/
def IsGain : Move G U V → Prop
  | .own _ δ => 0 ≤ δ
  | .accrue _ _ _ => True
  | .donate _ => True
  | _ => False

/-- **Gains.** They lower no claim. -/
theorem claim_le_play_of_gain (hP : 0 < P) {ms : List (Move G U V)} (hb : b.Solvent P)
    (hm : AdmitsAll P ms b) (hgain : ∀ m ∈ ms, IsGain m) (u : U) :
    claim owner P b u ≤ claim owner P (play P ms b) u := by
  have howed : ∀ ms : List (Move G U V), (∀ m ∈ ms, IsGain m) → 0 ≤ owedTo owner u ms := by
    intro ms
    induction ms with
    | nil => intro _; exact le_rfl
    | cons m ms ih =>
      intro h
      have htail := ih fun m' hm' => h m' (List.mem_cons_of_mem _ hm')
      have hhead := h m List.mem_cons_self
      have hpos : 0 ≤ owed m := by cases m <;> simp_all [IsGain, owed]
      rw [owedTo]
      by_cases hs : subject owner m = some u
      · rw [if_pos hs]; linarith
      · rw [if_neg hs]; linarith
  have : claim owner P b u + owedTo owner u ms ≤ claim owner P (play P ms b) u :=
    le_claim_play hP hb hm u
  have := howed ms hgain
  linarith

/-- **Moves about one person.** They change that person's claim by the tokens that come in, and
no other claim. -/
theorem claim_play_about {ms : List (Move G U V)} {u : U} (hm : AdmitsAll P ms b)
    (h : ∀ m ∈ ms, About owner u m) (v : U) :
    claim owner P (play P ms b) v
      = claim owner P b v + if v = u then (play P ms b).tokens - b.tokens else 0 := by
  have hacc : ∀ m ∈ ms, ¬ IsAccrual m := by
    intro m hmem hm'
    have := h m hmem
    cases m <;> simp_all [About, IsAccrual]
  rw [claim_play hm hacc, owedTo_of_about h, tokens_play]
  split <;> ring

end Claims

/-! ### Recorded totals and their gaps -/

section Totals

variable [Fintype U] {P : ℤ} {b : Book G U V}

/-- By how much the recorded total at a desk exceeds the principals of its holders. -/
def gap (b : Book G U V) (g : G) : ℤ := b.shares g - ∑ u, b.principal (g, u)

/-- A move that lowers a recorded total. -/
def IsLowering : Move G U V → Prop
  | .lower _ _ => True
  | _ => False

/-- **The gap law.** Only lowering a recorded total changes a gap. -/
theorem gap_apply {m : Move G U V} (hlow : ¬ IsLowering m) (g : G) :
    (b.apply P m).gap g = b.gap g := by
  unfold gap
  cases m with
  | share g' u δ =>
    simp only [apply, sum_row_update]
    by_cases h : g = g'
    · subst h; simp
    · simp [h]
  | settle g' u =>
    simp only [apply, sum_row_update]
    by_cases h : g = g'
    · subst h; simp
    · simp [h]
  | lower g' δ => exact absurd trivial hlow
  | _ => rfl

theorem gap_play {ms : List (Move G U V)} (hlow : ∀ m ∈ ms, ¬ IsLowering m) (g : G) :
    (play P ms b).gap g = b.gap g := by
  induction ms generalizing b with
  | nil => rfl
  | cons m ms ih =>
    rw [play_cons, ih fun m' h => hlow m' (List.mem_cons_of_mem _ h),
      gap_apply (hlow m List.mem_cons_self)]

omit [DecidableEq G] [DecidableEq U] [DecidableEq V] [Fintype U] in
lemma not_isLowering_of_about {owner : G → U} {u : U} {m : Move G U V} (h : About owner u m) :
    ¬ IsLowering m := by
  cases m <;> simp_all [About, IsLowering]

end Totals

end Book
end ArioSolana
