import ArioSolana.GarStamps

/-!
# Distributing in batches

When the treasury holds all full rewards, no reward is scaled, and a batch pays each of its gateways
what the gateway alone decides. So two batches in a row leave what one batch over the accounts of
both leaves. Only the list of token transfers tells them apart.
-/

namespace ArioSolana

/-! ### Transfers in two parts -/

namespace Solana
namespace Tokens

open Checked

variable {t t₁ t₂ t' : Tokens} {source destination authority : Pubkey} {m n : ℕ}

lemma transfer_iff : t.transfer source destination authority m = .ok t' ↔
    ∃ src dst, t.accounts source = some src ∧ t.accounts destination = some dst ∧
      m ≤ src.amount ∧ src.mint = dst.mint ∧ authority = src.owner ∧
      (source = destination ∧ t' = { t with
        transfers := ⟨source, destination, m⟩ :: t.transfers } ∨
      source ≠ destination ∧ dst.amount + m < 2 ^ 64 ∧ t' = {
        accounts := Function.update
          (Function.update t.accounts source (some { src with amount := src.amount - m }))
          destination (some { dst with amount := dst.amount + m })
        transfers := ⟨source, destination, m⟩ :: t.transfers }) := by
  simp only [transfer, bind_eq_ok, okOr_eq_ok, require_eq_ok, exists_const]
  refine exists_congr fun src => ?_
  constructor
  · rintro ⟨hsrc, dst, hdst, hle, hmint, hauth, h⟩
    refine ⟨dst, hsrc, hdst, hle, hmint, hauth, ?_⟩
    split at h
    · rename_i heq
      exact .inl ⟨heq, (pure_eq_ok.mp h).symm⟩
    · rename_i hne
      simp only [bind_eq_ok, require_eq_ok, exists_const, pure_eq_ok] at h
      exact .inr ⟨hne, h.1, h.2.symm⟩
  · rintro ⟨dst, hsrc, hdst, hle, hmint, hauth, ⟨heq, rfl⟩ | ⟨hne, hfit, rfl⟩⟩
    · refine ⟨hsrc, dst, hdst, hle, hmint, hauth, ?_⟩
      rw [if_pos heq]
      rfl
    · refine ⟨hsrc, dst, hdst, hle, hmint, hauth, ?_⟩
      rw [if_neg hne, require_of hfit]
      rfl

lemma transfer_join (hbound : m + n ≤ t.balance source)
    (h : t.transfer source destination authority m = .ok t₁)
    (h' : t₁.transfer source destination authority n = .ok t₂) :
    ∃ t', t.transfer source destination authority (m + n) = .ok t' ∧
      t'.accounts = t₂.accounts := by
  obtain ⟨src, dst, hsrc, hdst, hle, hmint, hauth, hcase⟩ := transfer_iff.mp h
  obtain ⟨src', dst', hsrc', hdst', hle', -, -, hcase'⟩ := transfer_iff.mp h'
  have hsum : m + n ≤ src.amount := by simpa [balance, hsrc] using hbound
  rcases hcase with ⟨heq, rfl⟩ | ⟨hne, hfit, rfl⟩
  · rcases hcase' with ⟨-, rfl⟩ | ⟨hne, -, -⟩
    · exact ⟨_, transfer_iff.mpr ⟨src, dst, hsrc, hdst, hsum, hmint, hauth, .inl ⟨heq, rfl⟩⟩, rfl⟩
    · exact absurd heq hne
  · rcases hcase' with ⟨heq, -⟩ | ⟨-, hfit', rfl⟩
    · exact absurd heq hne
    simp only [Function.update_of_ne hne, Function.update_self, Option.some.injEq] at hsrc' hdst'
    subst hsrc' hdst'
    refine ⟨_, transfer_iff.mpr ⟨src, dst, hsrc, hdst, hsum, hmint, hauth, .inr ⟨hne,
      by simpa [Nat.add_assoc] using hfit', rfl⟩⟩, ?_⟩
    funext k
    by_cases hk : k = destination
    · subst hk
      simp [Nat.add_assoc]
    · by_cases hk' : k = source
      · subst hk'
        simp [Function.update_of_ne hk, Nat.sub_add_eq]
      · simp [Function.update_of_ne hk, Function.update_of_ne hk']

lemma transfer_split (h : t.transfer source destination authority (m + n) = .ok t') :
    ∃ t₁ t₂, t.transfer source destination authority m = .ok t₁ ∧
      t₁.transfer source destination authority n = .ok t₂ ∧ t'.accounts = t₂.accounts := by
  obtain ⟨src, dst, hsrc, hdst, hle, hmint, hauth, hcase⟩ := transfer_iff.mp h
  have hbound : m + n ≤ t.balance source := by simpa [balance, hsrc] using hle
  obtain ⟨t₁, t₂, h₁, h₂⟩ : ∃ t₁ t₂, t.transfer source destination authority m = .ok t₁ ∧
      t₁.transfer source destination authority n = .ok t₂ := by
    rcases hcase with ⟨heq, -⟩ | ⟨hne, hfit, -⟩
    · exact ⟨_, _, transfer_iff.mpr ⟨src, dst, hsrc, hdst, by omega, hmint, hauth,
        .inl ⟨heq, rfl⟩⟩, transfer_iff.mpr ⟨src, dst, hsrc, hdst, by omega, hmint, hauth,
        .inl ⟨heq, rfl⟩⟩⟩
    · exact ⟨_, _, transfer_iff.mpr ⟨src, dst, hsrc, hdst, by omega, hmint, hauth,
        .inr ⟨hne, by omega, rfl⟩⟩, transfer_iff.mpr ⟨{ src with amount := src.amount - m },
        { dst with amount := dst.amount + m }, by simp [Function.update_of_ne hne], by simp,
        by simp only; omega, hmint, hauth, .inr ⟨hne, by simp only; omega, rfl⟩⟩⟩
  obtain ⟨t'', h'', hacc⟩ := transfer_join hbound h₁ h₂
  obtain rfl := Except.ok.inj (h.symm.trans h'')
  exact ⟨t₁, t₂, h₁, h₂, hacc⟩

lemma Moved.join (hbound : m + n ≤ t.balance source)
    (h : t.Moved t₁ source destination authority m)
    (h' : t₁.Moved t₂ source destination authority n) :
    ∃ t', t.Moved t' source destination authority (m + n) ∧ t'.accounts = t₂.accounts := by
  unfold Moved at h h' ⊢
  rcases Nat.eq_zero_or_pos m with rfl | hm
  · rw [if_neg (lt_irrefl 0)] at h
    subst h
    rw [Nat.zero_add]
    exact ⟨t₂, h', rfl⟩
  rw [if_pos hm] at h
  rcases Nat.eq_zero_or_pos n with rfl | hn
  · rw [if_neg (lt_irrefl 0)] at h'
    subst h'
    exact ⟨t₂, by rw [Nat.add_zero, if_pos hm]; exact h, rfl⟩
  · rw [if_pos hn] at h'
    simp only [if_pos (Nat.add_pos_left hm n)]
    exact transfer_join hbound h h'

lemma Moved.split (h : t.Moved t' source destination authority (m + n)) :
    ∃ t₁ t₂, t.Moved t₁ source destination authority m ∧
      t₁.Moved t₂ source destination authority n ∧ t'.accounts = t₂.accounts := by
  unfold Moved at h ⊢
  rcases Nat.eq_zero_or_pos m with rfl | hm
  · rw [Nat.zero_add] at h
    exact ⟨t, t', by rw [if_neg (lt_irrefl 0)], h, rfl⟩
  rw [if_pos (Nat.add_pos_left hm n)] at h
  rcases Nat.eq_zero_or_pos n with rfl | hn
  · exact ⟨t', t', by rw [if_pos hm]; exact h, by rw [if_neg (lt_irrefl 0)], rfl⟩
  · simp only [if_pos hm, if_pos hn]
    exact transfer_split h

end Tokens
end Solana

namespace Gar

open Checked Solana

variable {env : Env} {s s' s₁ s₂ : State} {epoch : Epoch} {rate d i n : ℕ}
  {info : AccountMeta} {infos infos' : List AccountMeta} {x : PendingDistribution}
  {xs ys zs : List PendingDistribution} {b b' : Batch}

/-! ### The first pass -/

/-- The first pass without its sums: the gateways in the slots from `i` on. -/
def scanSlots (s : State) (epoch : Epoch) (penaltyRate : ℕ) :
    ℕ → List AccountMeta → Except GarError (List PendingDistribution)
  | _, [] => return []
  | i, info :: rest =>
    if epoch.activeGatewayCount ≤ i then return []
    else do
      require (i < GatewayRegistry.maxGateways) .panicked
      if (s.registry.gateways i).address = Pubkey.default then
        scanSlots s epoch penaltyRate (i + 1) rest
      else do
        let x ← scanSlot s epoch penaltyRate i info
        let xs ← scanSlots s epoch penaltyRate (i + 1) rest
        return x :: xs

/-- The sum of the full rewards. -/
def fullSum (xs : List PendingDistribution) : ℕ := (xs.map (·.fullReward)).sum

@[simp] lemma fullSum_nil : fullSum [] = 0 := rfl

@[simp] lemma fullSum_cons : fullSum (x :: xs) = x.fullReward + fullSum xs := by
  rw [fullSum, List.map_cons, List.sum_cons, fullSum]

@[simp] lemma fullSum_append : fullSum (xs ++ ys) = fullSum xs + fullSum ys := by
  rw [fullSum, List.map_append, List.sum_append, fullSum, fullSum]

lemma scanBatch_iff (hb : b.totalReward < 2 ^ 64) :
    scanBatch s epoch rate infos b = .ok b' ↔
      ∃ xs, scanSlots s epoch rate b.distIdx infos = .ok xs ∧
        b.totalReward + fullSum xs < 2 ^ 64 ∧
        b' = ⟨max b.distIdx (min epoch.activeGatewayCount (b.distIdx + infos.length)),
          b.totalReward + fullSum xs, b.pending ++ xs⟩ := by
  induction infos generalizing b with
  | nil =>
    simp only [scanBatch, scanSlots, pure_eq_ok, exists_eq_left', fullSum_nil, Nat.add_zero,
      List.append_nil, List.length_nil, max_eq_left (Nat.min_le_right _ _), hb, true_and]
    exact eq_comm
  | cons info infos ih =>
    rw [scanBatch, scanSlots]
    by_cases hend : epoch.activeGatewayCount ≤ b.distIdx
    · have hmax : max b.distIdx (min epoch.activeGatewayCount
          (b.distIdx + (info :: infos).length)) = b.distIdx := by omega
      simp only [if_pos hend, pure_eq_ok, exists_eq_left', fullSum_nil, Nat.add_zero,
        List.append_nil, hmax, hb, true_and]
      exact eq_comm
    have hnext : max (b.distIdx + 1) (min epoch.activeGatewayCount
        (b.distIdx + 1 + infos.length)) = max b.distIdx (min epoch.activeGatewayCount
          (b.distIdx + (info :: infos).length)) := by
      rw [List.length_cons]
      omega
    simp only [if_neg hend, bind_eq_ok, require_eq_ok, exists_const]
    split
    · rw [ih (by exact hb), hnext]
      simp only [and_assoc, exists_and_left]
    · simp only [bind_eq_ok, addNonzero_eq_ok, pure_eq_ok]
      constructor
      · rintro ⟨hmax, x, hx, _, ⟨hfit, rfl⟩, h⟩
        have hlt : b.totalReward + x.fullReward < 2 ^ 64 := by
          rcases Nat.eq_zero_or_pos x.fullReward with h0 | hpos
          · omega
          · exact hfit hpos
        obtain ⟨xs, hxs, hsum, rfl⟩ := (ih (by exact hlt)).mp h
        refine ⟨x :: xs, ⟨hmax, x, hx, xs, hxs, rfl⟩, ?_, ?_⟩
        · rw [fullSum_cons, ← Nat.add_assoc]
          exact hsum
        · rw [fullSum_cons, hnext]
          simp only [Nat.add_assoc, List.append_assoc, List.singleton_append]
      · rintro ⟨_, ⟨hmax, x, hx, xs, hxs, rfl⟩, hsum, rfl⟩
        rw [fullSum_cons, ← Nat.add_assoc] at hsum
        refine ⟨hmax, x, hx, _, ⟨fun _ => by omega, rfl⟩, ?_⟩
        refine (ih (by simp only; omega)).mpr ⟨xs, hxs, hsum, ?_⟩
        rw [fullSum_cons, hnext]
        simp only [Nat.add_assoc, List.append_assoc, List.singleton_append]

lemma scanSlots_append (h : d + infos.length ≤ epoch.activeGatewayCount) :
    scanSlots s epoch rate d (infos ++ infos') = .ok zs ↔
      ∃ xs ys, scanSlots s epoch rate d infos = .ok xs ∧
        scanSlots s epoch rate (d + infos.length) infos' = .ok ys ∧ zs = xs ++ ys := by
  induction infos generalizing d zs with
  | nil => simp [scanSlots]
  | cons info infos ih =>
    rw [List.length_cons] at h
    have hlt : ¬ epoch.activeGatewayCount ≤ d := by omega
    have hshift : d + 1 + infos.length = d + (info :: infos).length := by
      rw [List.length_cons]
      omega
    rw [List.cons_append, scanSlots, scanSlots, if_neg hlt, if_neg hlt]
    simp only [bind_eq_ok, require_eq_ok, exists_const]
    split
    · rw [ih (by omega), hshift]
      simp only [and_assoc, exists_and_left]
    · simp only [bind_eq_ok, pure_eq_ok]
      constructor
      · rintro ⟨hmax, x, hx, ws, hws, rfl⟩
        obtain ⟨xs, ys, hxs, hys, rfl⟩ := (ih (by omega)).mp hws
        exact ⟨x :: xs, ys, ⟨hmax, x, hx, xs, hxs, rfl⟩, hshift ▸ hys, rfl⟩
      · rintro ⟨_, ys, ⟨hmax, x, hx, xs, hxs, rfl⟩, hys, rfl⟩
        exact ⟨hmax, x, hx, xs ++ ys, (ih (by omega)).mpr ⟨xs, ys, hxs, hshift ▸ hys, rfl⟩, rfl⟩

/-- The slots in use among `n` slots from `d` on. -/
def usedSlots (s : State) (d n : ℕ) : List ℕ :=
  (List.range' d n).filter fun i => (s.registry.gateways i).address ≠ Pubkey.default

/-- The account that goes with a slot. -/
def slotAccount (s : State) (i : ℕ) :
    AccountMeta := ⟨.gateway (s.registry.gateways i).address, true⟩

/-- The full reward of the gateway in a slot. -/
def slotReward (s : State) (epoch : Epoch) (rate i : ℕ) : ℕ :=
  (scanSlot s epoch rate i (slotAccount s i)).toOption.elim 0 (·.fullReward)

/-- The sum of the full rewards of `n` slots from `d` on. -/
def fullRewards (s : State) (epoch : Epoch) (rate d n : ℕ) : ℕ :=
  ((usedSlots s d n).map (slotReward s epoch rate)).sum

lemma usedSlots_append (s : State) (d m n : ℕ) :
    usedSlots s d (m + n) = usedSlots s d m ++ usedSlots s (d + m) n := by
  rw [usedSlots, ← List.range'_append_1, List.filter_append]
  rfl

lemma usedSlots_lt (s : State) (d n : ℕ) : (usedSlots s d n).Pairwise (· < ·) :=
  (List.pairwise_lt_range' 1).filter _

lemma mem_usedSlots : i ∈ usedSlots s d n ↔
    d ≤ i ∧ i < d + n ∧ (s.registry.gateways i).address ≠ Pubkey.default := by
  simp [usedSlots, List.mem_range'_1, and_assoc]

lemma fullRewards_add (s : State) (epoch : Epoch) (rate d m n : ℕ) :
    fullRewards s epoch rate d (m + n)
      = fullRewards s epoch rate d m + fullRewards s epoch rate (d + m) n := by
  rw [fullRewards, usedSlots_append, List.map_append, List.sum_append]
  rfl

lemma scanSlot_account (h : scanSlot s epoch rate i info = .ok x) : info = slotAccount s i := by
  have hinfo := h
  simp only [scanSlot, bind_eq_ok, require_eq_ok, exists_const] at hinfo
  obtain ⟨hwritable, g, hg, -⟩ := hinfo
  obtain ⟨-, hslot, haddress⟩ := loadSlotGateway_ok hg
  obtain ⟨address, writable⟩ := info
  obtain rfl : writable = true := hwritable
  obtain rfl : address = .gateway g.operator := haddress
  rw [slotAccount, hslot]

/-- The pass finds the gateway of each slot in use. -/
def Finds (s : State) (epoch : Epoch) (rate : ℕ) (is : List ℕ) (xs : List PendingDistribution) :
    Prop :=
  List.Forall₂ (fun i x => scanSlot s epoch rate i (slotAccount s i) = .ok x) is xs

lemma scanSlots_finds (h : scanSlots s epoch rate d infos = .ok xs)
    (hle : d + infos.length ≤ epoch.activeGatewayCount) :
    Finds s epoch rate (usedSlots s d infos.length) xs := by
  induction infos generalizing d xs with
  | nil =>
    obtain rfl := pure_eq_ok.mp h
    exact .nil
  | cons info infos ih =>
    rw [List.length_cons] at hle ⊢
    have hrange : usedSlots s d (infos.length + 1)
        = usedSlots s d 1 ++ usedSlots s (d + 1) infos.length := by
      rw [Nat.add_comm, usedSlots_append]
    rw [scanSlots, if_neg (by omega)] at h
    simp only [bind_eq_ok, require_eq_ok, exists_const] at h
    obtain ⟨-, h⟩ := h
    rw [hrange]
    split at h
    · rename_i hdefault
      have hone : usedSlots s d 1 = [] := by simp [usedSlots, hdefault]
      rw [hone, List.nil_append]
      exact ih h (by omega)
    · rename_i hused
      simp only [bind_eq_ok, pure_eq_ok] at h
      obtain ⟨x, hx, ws, hws, rfl⟩ := h
      have hone : usedSlots s d 1 = [d] := by simp [usedSlots, hused]
      rw [hone, List.singleton_append]
      exact .cons (scanSlot_account hx ▸ hx) (ih hws (by omega))

namespace Finds

variable {is : List ℕ}

lemma fullSum_eq (h : Finds s epoch rate is xs) :
    fullSum xs = (is.map (slotReward s epoch rate)).sum := by
  induction h with
  | nil => rfl
  | cons hx _ ih =>
    rw [fullSum_cons, ih, List.map_cons, List.sum_cons, slotReward, hx]
    rfl

lemma gateway (h : Finds s epoch rate is xs) (hx : x ∈ xs) :
    ∃ i ∈ is, (s.registry.gateways i).address = x.gateway.operator ∧
      s.gateways x.gateway.operator = some x.gateway := by
  obtain ⟨i, hi, hscan⟩ := exists_of_forall₂ h hx
  obtain ⟨hg, hslot, -⟩ := scanSlot_ok hscan
  exact ⟨i, hi, hslot, hg⟩

end Finds

/-! ### The second pass -/

/-- Pay a gateway its full reward and record the epoch. -/
def PendingDistribution.pay (x : PendingDistribution) : Except GarError Payment := do
  let payment ← payGateway x.gateway x.fullReward x.hadDelegationAtTally
  return { payment with gateway := { payment.gateway with
    stats := if !x.isLeaving && x.eligible then
      payment.gateway.stats.record x.failed x.isPrescribed x.isObserved
      else payment.gateway.stats } }

/-- What a distribution leaves of the gateway in a slot. The full reward of the slot is split
between the operator and the pool of the delegates, and an active gateway has one epoch more in its
statistics. -/
structure PendingDistribution.Credits (x : PendingDistribution) (s : State) (epoch : Epoch)
    (i pool : ℕ)
    (g' : Gateway) : Prop where
  delegatePart : pool = if (s.registry.gateways i).delegatedAtTally ≠ 0 then
    x.fullReward * x.gateway.settings.delegateRewardShareRatio / 10000 else 0
  stake : x.gateway.status = .joined → g'.operatorStake = if pool < x.fullReward then
    min (x.gateway.operatorStake + (x.fullReward - pool)) (2 ^ 64 - 1) else x.gateway.operatorStake
  accumulator : g'.cumulativeRewardPerToken = if 0 < pool ∧ 0 < x.gateway.totalDelegatedStake then
    min (x.gateway.cumulativeRewardPerToken + pool * rewardPrecision /
      x.gateway.totalDelegatedStake)
      (2 ^ 128 - 1) else x.gateway.cumulativeRewardPerToken
  kept : g' = { x.gateway with
    operatorStake := g'.operatorStake
    cumulativeRewardPerToken := g'.cumulativeRewardPerToken
    stats := g'.stats }
  active : x.gateway.status ≠ .leaving → 0 < (s.registry.gateways i).compositeWeight →
    x.gateway.weights.weightsEpoch = epoch.epochIndex → x.gateway.stats.Ticked g'.stats
      (0 < epoch.observationsSubmitted ∧ epoch.observationsSubmitted / 2 < epoch.failureCounts i)
      (∃ j < epoch.observerCount, epoch.prescribedObserverGateways j = x.gateway.operator)
      (∃ j, position epoch.prescribedObserverGateways epoch.observerCount x.gateway.operator =
        some j ∧
        epoch.isObserved j = true)
  inactive : ¬ (x.gateway.status ≠ .leaving ∧ 0 < (s.registry.gateways i).compositeWeight ∧
    x.gateway.weights.weightsEpoch = epoch.epochIndex) → g'.stats = x.gateway.stats

lemma PendingDistribution.pay_credits (hscan : scanSlot s epoch rate i info = .ok x)
    (hreward : x.fullReward < 2 ^ 64) (hshare : x.gateway.settings.ShareOk)
    (hpay : x.pay = .ok payment) : ∃ pool, x.Credits s epoch i pool payment.gateway := by
  obtain ⟨-, -, hleaving, heligible, hhad, hfailed, hpres, hobs, -⟩ := scanSlot_ok hscan
  obtain ⟨hsplit, -⟩ := splitScaledReward_eq x.hadDelegationAtTally hreward hshare.ratio
  set pool := if x.hadDelegationAtTally then
    x.fullReward * x.gateway.settings.delegateRewardShareRatio / 10000 else 0 with hpool
  have hprescribed : x.isPrescribed = true ↔
      ∃ j < epoch.observerCount, epoch.prescribedObserverGateways j = x.gateway.operator := by
    rw [hpres, position, List.find?_isSome]
    simp only [List.mem_range, decide_eq_true_eq]
  have hobserved : x.isObserved = true ↔
      ∃ j, position epoch.prescribedObserverGateways epoch.observerCount x.gateway.operator =
        some j ∧
        epoch.isObserved j = true := by
    rw [hobs]
    cases position epoch.prescribedObserverGateways epoch.observerCount x.gateway.operator <;> simp
  have hactive : (!x.isLeaving && x.eligible) = true ↔ x.gateway.status ≠ .leaving ∧
      0 < (s.registry.gateways i).compositeWeight ∧
      x.gateway.weights.weightsEpoch = epoch.epochIndex := by
    rw [Bool.and_eq_true, Bool.not_eq_true', ← Bool.not_eq_true, hleaving, heligible]
  simp only [PendingDistribution.pay, bind_eq_ok, pure_eq_ok] at hpay
  obtain ⟨paid, hp, rfl⟩ := hpay
  simp only [payGateway, hsplit] at hp
  have hpaid : ∃ stake cum, paid.gateway = { x.gateway with
      operatorStake := stake
      cumulativeRewardPerToken := cum } ∧
      (x.gateway.status = .joined → stake = if pool < x.fullReward then
        min (x.gateway.operatorStake + (x.fullReward - pool)) (2 ^ 64 - 1)
        else x.gateway.operatorStake) ∧
      cum = if 0 < pool ∧ 0 < x.gateway.totalDelegatedStake then
        min (x.gateway.cumulativeRewardPerToken +
          pool * rewardPrecision / x.gateway.totalDelegatedStake) (2 ^ 128 - 1)
        else x.gateway.cumulativeRewardPerToken := by
    split at hp
    · rename_i hpos
      simp only [bind_eq_ok, okOr_eq_ok, checkedMul_eq_some, checkedDiv_eq_some, pure_eq_ok] at hp
      obtain ⟨_, ⟨-, rfl⟩, _, ⟨-, rfl⟩, rfl⟩ := hp
      exact ⟨_, _, rfl, fun hst => by simp only [hst, and_true, Nat.sub_pos_iff_lt, saturatingAdd],
        by rw [if_pos hpos, saturatingAdd]⟩
    · rename_i hpos
      obtain rfl := pure_eq_ok.mp hp
      exact ⟨_, _, rfl, fun hst => by simp only [hst, and_true, Nat.sub_pos_iff_lt, saturatingAdd],
        by rw [if_neg hpos]⟩
  obtain ⟨stake, cum, hgw, hstake, hcum⟩ := hpaid
  refine ⟨pool, ?_, ?_, ?_, ?_, fun hst hweight hweighed => ?_, fun hidle => ?_⟩
  · simp only [hpool, hhad]
  · simpa only [hgw] using hstake
  · simpa only [hgw] using hcum
  · simp only [hgw]
  · simp only [if_pos (hactive.mpr ⟨hst, hweight, hweighed⟩), hgw]
    exact x.gateway.stats.record_ticked hfailed hprescribed hobserved
  · simp only [if_neg (mt hactive.mp hidle), hgw]

/-- Add a payment to what was paid out. -/
def Payout.add (payout : Payout) (payment : Payment) : Payout where
  state := payout.state.setGateway payment.gateway.operator (some payment.gateway)
  operatorRewards := saturatingAdd 64 payout.operatorRewards payment.operatorReward
  delegateRewards := payout.delegateRewards + payment.delegateReward
  orphaned := saturatingAdd 64 payout.orphaned payment.orphaned

/-- The gateways after the payments. -/
def writeGateways (payments : List Payment) (gateways : Pubkey → Option Gateway) :
    Pubkey → Option Gateway :=
  payments.foldl (fun G p => Function.update G p.gateway.operator (some p.gateway)) gateways

def operatorSum (payments : List Payment) : ℕ := (payments.map (·.operatorReward)).sum

def orphanedSum (payments : List Payment) : ℕ := (payments.map (·.orphaned)).sum

lemma exists_append_of_forall₂ {α β : Type} {R : α → β → Prop} {l l' : List α} {zs : List β}
    (h : List.Forall₂ R (l ++ l') zs) :
    ∃ as bs, List.Forall₂ R l as ∧ List.Forall₂ R l' bs ∧ zs = as ++ bs := by
  induction l generalizing zs with
  | nil => exact ⟨[], zs, .nil, h, rfl⟩
  | cons a l ih =>
    cases h with
    | cons hab hrest =>
      obtain ⟨as, bs, has, hbs, rfl⟩ := ih hrest
      exact ⟨_ :: as, bs, .cons hab has, hbs, rfl⟩

lemma pairwise_of_forall₂ {α β : Type} {R : α → β → Prop} {P : α → α → Prop} {Q : β → β → Prop}
    {l : List α} {l' : List β} (h : List.Forall₂ R l l') (hl : l.Pairwise P)
    (hPQ : ∀ a ∈ l, ∀ a' ∈ l, P a a' → ∀ b b', R a b → R a' b' → Q b b') : l'.Pairwise Q := by
  induction h with
  | nil => exact .nil
  | @cons a b l l' hab hrest ih =>
    obtain ⟨hhead, htail⟩ := List.pairwise_cons.mp hl
    refine List.pairwise_cons.mpr ⟨fun b' hb' => ?_, ih htail fun a ha a' ha' =>
      hPQ a (List.mem_cons_of_mem _ ha) a' (List.mem_cons_of_mem _ ha')⟩
    obtain ⟨a', ha', hab'⟩ := exists_of_forall₂ hrest hb'
    exact hPQ a List.mem_cons_self a' (List.mem_cons_of_mem _ ha') (hhead a' ha') b b' hab hab'

section Paying

variable {payment : Payment} {payments payments' : List Payment} {payout payout' : Payout}
  {total r : ℕ} {g : Gateway} {had : Bool} {k : Pubkey} {G : Pubkey → Option Gateway}

lemma scaleReward_full (h : r ≤ total) (htotal : total < 2 ^ 64) :
    scaleReward r total total = r := by
  rw [(scaleReward_eq h htotal htotal).1]
  rcases Nat.eq_zero_or_pos total with rfl | hpos
  · rw [Nat.div_zero]
    omega
  · exact Nat.mul_div_cancel _ hpos

lemma payBatch_iff (hfull : fullSum xs ≤ total) (htotal : total < 2 ^ 64) :
    payBatch total total xs payout = .ok payout' ↔
      ∃ payments, List.Forall₂ (fun x payment => x.pay = .ok payment) xs payments ∧
        payout' = payments.foldl Payout.add payout := by
  induction xs generalizing payout with
  | nil =>
    simp only [payBatch, pure_eq_ok, List.forall₂_nil_left_iff, exists_eq_left, List.foldl_nil]
    exact eq_comm
  | cons x xs ih =>
    rw [fullSum_cons] at hfull
    have hone : payPending total total x payout = (do
        let payment ← x.pay
        return payout.add payment) := by
      rw [payPending, PendingDistribution.pay, scaleReward_full (by omega) htotal, bind_assoc]
      congr 1
      funext payment
      split <;> rfl
    simp only [payBatch, hone, bind_eq_ok, pure_eq_ok, ih (by omega),
      List.forall₂_cons_left_iff]
    constructor
    · rintro ⟨_, ⟨payment, hpay, rfl⟩, payments, hrest, rfl⟩
      exact ⟨payment :: payments, ⟨payment, payments, hpay, hrest, rfl⟩, rfl⟩
    · rintro ⟨_, ⟨payment, payments, hpay, hrest, rfl⟩, rfl⟩
      exact ⟨_, ⟨payment, hpay, rfl⟩, payments, hrest, rfl⟩

lemma pay_ok (h : x.pay = .ok payment) (hshare : x.gateway.settings.ShareOk)
    (hlt : x.fullReward < 2 ^ 64) :
    payment.gateway.operator = x.gateway.operator ∧
      payment.gateway.settings = x.gateway.settings ∧
      payment.operatorReward + payment.orphaned ≤ x.fullReward := by
  simp only [PendingDistribution.pay, bind_eq_ok, pure_eq_ok] at h
  obtain ⟨payment, hpay, rfl⟩ := h
  obtain ⟨stake, cum, hgw⟩ := payGateway_gateway hpay
  refine ⟨by rw [hgw], by rw [hgw], ?_⟩
  obtain ⟨hsplit, hle⟩ := splitScaledReward_eq x.hadDelegationAtTally hlt hshare.ratio
  simp only [payGateway, hsplit] at hpay
  generalize hpool : (if x.hadDelegationAtTally then
    x.fullReward * x.gateway.settings.delegateRewardShareRatio / 10000 else 0) = pool at hpay
  have hpool' : pool ≤ x.fullReward := by
    rw [← hpool]
    split
    · exact hle
    · exact Nat.zero_le _
  split at hpay
  · simp only [bind_eq_ok, pure_eq_ok] at hpay
    obtain ⟨_, -, _, -, rfl⟩ := hpay
    simp only
    split <;> omega
  · obtain rfl := pure_eq_ok.mp hpay
    simp only
    split <;> omega

lemma payments_le (h : List.Forall₂ (fun x payment => x.pay = .ok payment) xs payments)
    (hshare : ∀ x ∈ xs, x.gateway.settings.ShareOk) (hlt : fullSum xs < 2 ^ 64) :
    operatorSum payments + orphanedSum payments ≤ fullSum xs := by
  induction h with
  | nil => exact le_rfl
  | @cons x payment xs payments hpay _ ih =>
    rw [fullSum_cons] at hlt ⊢
    obtain ⟨-, -, hle⟩ := pay_ok hpay (hshare x List.mem_cons_self) (by omega)
    have hrest := ih (fun y hy => hshare y (List.mem_cons_of_mem _ hy)) (by omega)
    simp only [operatorSum, orphanedSum, List.map_cons, List.sum_cons] at hrest ⊢
    omega

lemma foldl_add (payments : List Payment) (payout : Payout)
    (hop : payout.operatorRewards + operatorSum payments < 2 ^ 64)
    (horph : payout.orphaned + orphanedSum payments < 2 ^ 64) :
    (payments.foldl Payout.add payout).state = { payout.state with
        gateways := writeGateways payments payout.state.gateways } ∧
      (payments.foldl Payout.add payout).operatorRewards
        = payout.operatorRewards + operatorSum payments ∧
      (payments.foldl Payout.add payout).orphaned = payout.orphaned + orphanedSum payments := by
  induction payments generalizing payout with
  | nil => exact ⟨rfl, rfl, rfl⟩
  | cons payment payments ih =>
    simp only [operatorSum, orphanedSum, List.map_cons, List.sum_cons] at hop horph ih ⊢
    have hop' : (payout.add payment).operatorRewards
        = payout.operatorRewards + payment.operatorReward := saturatingAdd_of_lt (by omega)
    have horph' : (payout.add payment).orphaned = payout.orphaned + payment.orphaned :=
      saturatingAdd_of_lt (by omega)
    have hop'' : (payout.add payment).operatorRewards
        + (payments.map (·.operatorReward)).sum < 2 ^ 64 := by omega
    have horph'' : (payout.add payment).orphaned + (payments.map (·.orphaned)).sum < 2 ^ 64 := by
      omega
    obtain ⟨h₁, h₂, h₃⟩ := ih (payout.add payment) hop'' horph''
    rw [List.foldl_cons, h₁, h₂, h₃, hop', horph']
    exact ⟨rfl, by omega, by omega⟩

lemma writeGateways_append : writeGateways (payments ++ payments') G
    = writeGateways payments' (writeGateways payments G) := List.foldl_append

lemma writeGateways_other (h : ∀ p ∈ payments, p.gateway.operator ≠ k) :
    writeGateways payments G k = G k := by
  induction payments generalizing G with
  | nil => rfl
  | cons payment payments ih =>
    rw [writeGateways, List.foldl_cons]
    refine (ih fun p hp => h p (List.mem_cons_of_mem _ hp)).trans ?_
    exact Function.update_of_ne (h payment List.mem_cons_self).symm _ _

lemma writeGateways_cases (h : writeGateways payments G k = some g) :
    G k = some g ∨ ∃ payment ∈ payments, payment.gateway = g := by
  induction payments generalizing G with
  | nil => exact .inl h
  | cons payment payments ih =>
    rw [writeGateways, List.foldl_cons] at h
    rcases ih h with h | ⟨last, hlast, heq⟩
    · by_cases hk : k = payment.gateway.operator
      · subst hk
        rw [Function.update_self] at h
        exact .inr ⟨payment, List.mem_cons_self, Option.some.inj h⟩
      · rw [Function.update_of_ne hk] at h
        exact .inl h
    · exact .inr ⟨last, List.mem_cons_of_mem _ hlast, heq⟩

lemma writeGateways_mem
    (hne : payments.Pairwise fun p p' => p.gateway.operator ≠ p'.gateway.operator)
    (h : payment ∈ payments) :
    writeGateways payments G payment.gateway.operator = some payment.gateway := by
  induction payments generalizing G with
  | nil => cases h
  | cons first payments ih =>
    obtain ⟨hhead, htail⟩ := List.pairwise_cons.mp hne
    rw [writeGateways, List.foldl_cons]
    rcases List.mem_cons.mp h with rfl | h
    · refine (writeGateways_other fun p hp => (hhead p hp).symm).trans ?_
      exact Function.update_self _ _ _
    · exact ih htail h

end Paying

/-! ### One batch -/

section Batch

variable {payments payments' : List Payment} {settings : EpochSettings} {index : ℕ} {p q k : Pubkey}
  {clock : ℤ} {t t' : Tokens} {next : ℕ} {amount : ℕ}

/-- What a distribution asks of the accounts, the epoch and the time. -/
structure Payable (s : State) (epoch : Epoch) (p q : Pubkey) (clock : ℤ) : Prop where
  treasury : p = s.settings.protocolTokenAccount ∧
    (s.tokens.terms p).map (·.1) = some s.settings.mint
  pool : q = s.settings.stakeTokenAccount ∧ (s.tokens.terms q).map (·.1) = some s.settings.mint
  prescribed : epoch.prescriptionsDone ≠ 0
  ended : epoch.endTimestamp ≤ clock
  undistributed : epoch.rewardsDistributed = 0

/-- The epoch after a batch that ends before the slot `next`. -/
def Epoch.advance (epoch : Epoch) (next : ℕ) : Epoch :=
  { epoch with
    distributionIndex := next
    rewardsDistributed := if epoch.activeGatewayCount ≤ next then 1 else epoch.rewardsDistributed }

/-- The state after the payments of a batch. -/
def paidState (s : State) (index : ℕ) (epoch : Epoch) (next : ℕ) (payments : List Payment)
    (t : Tokens) : State :=
  { s with
    gateways := writeGateways payments s.gateways
    tokens := t
    epochs := Function.update s.epochs index (some (epoch.advance next))
    settings := { s.settings with
      totalStaked := s.settings.totalStaked + operatorSum payments } }

lemma releaseTreasuryToRecipient_iff :
    releaseTreasuryToRecipient env p q amount s = .ok s' ↔
      (0 < amount → p = env.coreTreasury ∧ q = s.settings.stakeTokenAccount) ∧
      ∃ t, s.tokens.Moved t p q env.arioConfig amount ∧ s' = { s with tokens := t } := by
  unfold releaseTreasuryToRecipient Tokens.Moved
  split
  · rename_i hpos
    simp only [bind_eq_ok, require_eq_ok, exists_const, splTransfer_eq_ok, hpos, true_imp_iff,
      and_assoc]
  · rename_i hpos
    simp only [hpos, false_imp_iff, true_and, exists_eq_left, pure_eq_ok]
    exact eq_comm

/-- Every gateway keeps a valid reward share, and no two slots name the same gateway. -/
structure Orderly (s : State) (epoch : Epoch) : Prop where
  share : ∀ k g, s.gateways k = some g → g.settings.ShareOk
  distinct : ∀ i j, i < epoch.activeGatewayCount → j < epoch.activeGatewayCount →
    (s.registry.gateways i).address ≠ Pubkey.default →
    (s.registry.gateways i).address = (s.registry.gateways j).address → i = j

/-- The treasury holds the full rewards of the slots that are left. -/
structure Funded (s : State) (epoch : Epoch) (rate : ℕ) (p : Pubkey) : Prop where
  word : s.tokens.balance p < 2 ^ 64
  enough : fullRewards s epoch rate epoch.distributionIndex
    (epoch.activeGatewayCount - epoch.distributionIndex) ≤ s.tokens.balance p

lemma Funded.fullSum_le (h : Funded s epoch rate p)
    (hxs : scanSlots s epoch rate epoch.distributionIndex infos = .ok xs)
    (hle : epoch.distributionIndex + infos.length ≤ epoch.activeGatewayCount) :
    fullSum xs ≤ s.tokens.balance p := by
  have hparts : epoch.activeGatewayCount - epoch.distributionIndex = infos.length
      + (epoch.activeGatewayCount - epoch.distributionIndex - infos.length) := by omega
  have henough := h.enough
  rw [hparts, fullRewards_add] at henough
  rw [(scanSlots_finds hxs hle).fullSum_eq]
  exact (Nat.le_add_right _ _).trans henough

lemma Finds.share {is : List ℕ} (h : Finds s epoch rate is xs) (hord : Orderly s epoch)
    (hx : x ∈ xs) : x.gateway.settings.ShareOk := by
  obtain ⟨-, -, -, hg⟩ := h.gateway hx
  exact hord.share _ _ hg

/-- **One batch** of an epoch whose rewards the treasury holds. -/
lemma distributeEpoch_iff (hset : s.epochSettings = some settings)
    (he : s.epochs index = some epoch) (hobs : 0 < epoch.observationsSubmitted)
    (hord : Orderly s epoch) (hfund : Funded s epoch settings.missedObservationPenaltyRate p)
    (hle : epoch.distributionIndex + infos.length ≤ epoch.activeGatewayCount) :
    distributeEpoch env clock index p q infos s = .ok s' ↔
      Payable s epoch p q clock ∧ ∃ xs payments t,
        scanSlots s epoch settings.missedObservationPenaltyRate epoch.distributionIndex infos
          = .ok xs ∧
        List.Forall₂ (fun x payment => x.pay = .ok payment) xs payments ∧
        (0 < fullSum xs - orphanedSum payments → p = env.coreTreasury) ∧
        s.tokens.Moved t p q env.arioConfig (fullSum xs - orphanedSum payments) ∧
        (0 < operatorSum payments → s.settings.totalStaked + operatorSum payments < 2 ^ 64) ∧
        s' = paidState s index epoch (epoch.distributionIndex + infos.length) payments t := by
  have hobs' : ¬ (epoch.observationsSubmitted = 0 ∧ epoch.distributionIndex = 0) := by omega
  have hnext : max epoch.distributionIndex (min epoch.activeGatewayCount
      (epoch.distributionIndex + infos.length)) = epoch.distributionIndex + infos.length := by omega
  simp only [distributeEpoch, bind_eq_ok, loadEpochSettings, loadEpoch, okOr_eq_ok, require_eq_ok,
    checkProtocolTokenAccount_eq_ok, checkStakeTokenAccount_eq_ok, exists_const, hset, he,
    Option.some.injEq, exists_eq_left', if_neg hobs', addNonzero_eq_ok, pure_eq_ok,
    releaseTreasuryToRecipient_iff]
  -- What a batch that was scanned pays.
  have hpaid (xs : List PendingDistribution) (payout : Payout)
      (hxs : scanSlots s epoch settings.missedObservationPenaltyRate epoch.distributionIndex infos
        = .ok xs) :
      payBatch (fullSum xs) (min (fullSum xs) (s.tokens.balance p)) xs { state := s } = .ok payout ↔
        ∃ payments, List.Forall₂ (fun x payment => x.pay = .ok payment) xs payments ∧
          payout = payments.foldl Payout.add { state := s } := by
    have hfull := hfund.fullSum_le hxs hle
    rw [min_eq_left hfull]
    exact payBatch_iff le_rfl (hfull.trans_lt hfund.word)
  have hsums (xs : List PendingDistribution) (payments : List Payment)
      (hxs : scanSlots s epoch settings.missedObservationPenaltyRate epoch.distributionIndex infos
        = .ok xs)
      (hpays : List.Forall₂ (fun x payment => x.pay = .ok payment) xs payments) :
      (payments.foldl Payout.add { state := s }).state
          = { s with gateways := writeGateways payments s.gateways } ∧
        (payments.foldl Payout.add { state := s }).operatorRewards = operatorSum payments ∧
        (payments.foldl Payout.add { state := s }).orphaned = orphanedSum payments := by
    have hlt := (hfund.fullSum_le hxs hle).trans_lt hfund.word
    have hparts := payments_le hpays
      (fun x hx => (scanSlots_finds hxs hle).share hord hx) hlt
    have hadd := foldl_add payments { state := s } (by simp only; omega) (by simp only; omega)
    simpa only [Nat.zero_add] using hadd
  constructor
  · rintro ⟨hp, hq, hprescribed, hended, hundistributed, batch, hb, payout, hpay, s₁,
      ⟨hcore, t, ht, rfl⟩, _, ⟨hfit, rfl⟩, rfl⟩
    obtain ⟨xs, hxs, -, rfl⟩ := (scanBatch_iff (by norm_num)).mp hb
    simp only [List.nil_append, Nat.zero_add, hnext] at hpay hcore ht hfit ⊢
    obtain ⟨payments, hpays, rfl⟩ := (hpaid xs payout hxs).mp hpay
    obtain ⟨hstate, hop, horph⟩ := hsums xs payments hxs hpays
    rw [horph, min_eq_left (hfund.fullSum_le hxs hle), saturatingSub] at hcore ht
    rw [hop] at hfit ⊢
    rw [hstate] at hcore ht hfit ⊢
    exact ⟨⟨hp, hq, hprescribed, hended, hundistributed⟩, xs, payments, t, hxs, hpays,
      fun hpos => (hcore hpos).1, ht, hfit, rfl⟩
  · rintro ⟨⟨hp, hq, hprescribed, hended, hundistributed⟩, xs, payments, t, hxs, hpays, hcore, ht,
      hfit, rfl⟩
    obtain ⟨hstate, hop, horph⟩ := hsums xs payments hxs hpays
    have hfull := hfund.fullSum_le hxs hle
    refine ⟨hp, hq, hprescribed, hended, hundistributed, _,
      (scanBatch_iff (by norm_num)).mpr ⟨xs, hxs, ?_, rfl⟩, ?_⟩
    · rw [Nat.zero_add]
      exact hfull.trans_lt hfund.word
    simp only [List.nil_append, Nat.zero_add, hnext]
    refine ⟨_, (hpaid xs _ hxs).mpr ⟨payments, hpays, rfl⟩, _, ⟨?_, t, ?_, rfl⟩, _, ⟨?_, rfl⟩, ?_⟩
    · rw [horph, min_eq_left hfull, saturatingSub, hstate]
      exact fun hpos => ⟨hcore hpos, hq.1⟩
    · rw [horph, min_eq_left hfull, saturatingSub, hstate]
      exact ht
    · rw [hop, hstate]
      exact hfit
    · rw [hop, hstate]
      rfl

/-! ### Two batches -/

/-- The gateways in the slots from `d` on are still what they were. -/
structure Untouched (s s₁ : State) (epoch : Epoch) (d : ℕ) : Prop where
  registry : s₁.registry = s.registry
  gateways : ∀ i, d ≤ i → i < epoch.activeGatewayCount →
    (s.registry.gateways i).address ≠ Pubkey.default →
    s₁.gateways (s.registry.gateways i).address = s.gateways (s.registry.gateways i).address

namespace Untouched

variable (h : Untouched s s₁ epoch d)

include h

lemma slotAccount_eq (i : ℕ) : slotAccount s₁ i = slotAccount s i := by
  rw [slotAccount, slotAccount, h.registry]

lemma scanSlot_eq (hd : d ≤ i) (hi : i < epoch.activeGatewayCount)
    (hused : (s.registry.gateways i).address ≠ Pubkey.default) :
    scanSlot s₁ (epoch.advance next) rate i (slotAccount s₁ i)
      = scanSlot s epoch rate i (slotAccount s i) := by
  rw [h.slotAccount_eq]
  unfold scanSlot loadSlotGateway slotAccount
  simp only [h.registry, h.gateways i hd hi hused]
  rfl

lemma scanSlot_iff (hd : d ≤ i) (hi : i < epoch.activeGatewayCount)
    (hused : (s.registry.gateways i).address ≠ Pubkey.default) :
    scanSlot s₁ (epoch.advance next) rate i info = .ok x ↔
      scanSlot s epoch rate i info = .ok x := by
  constructor
  · intro hx
    obtain rfl := scanSlot_account hx
    rw [h.scanSlot_eq hd hi hused] at hx
    rw [h.slotAccount_eq]
    exact hx
  · intro hx
    obtain rfl := scanSlot_account hx
    rw [← h.slotAccount_eq, h.scanSlot_eq hd hi hused]
    exact hx

lemma scanSlots_iff {j : ℕ} (hd : d ≤ j) :
    scanSlots s₁ (epoch.advance next) rate j infos = .ok xs ↔
      scanSlots s epoch rate j infos = .ok xs := by
  induction infos generalizing j xs with
  | nil => exact Iff.rfl
  | cons info infos ih =>
    rw [scanSlots, scanSlots, h.registry]
    by_cases hend : epoch.activeGatewayCount ≤ j
    · rw [if_pos hend, if_pos (by exact hend)]
    rw [if_neg hend, if_neg (by exact hend)]
    by_cases hused : (s.registry.gateways j).address = Pubkey.default
    · simp only [if_pos hused, bind_eq_ok, require_eq_ok, exists_const, ih (Nat.le_succ_of_le hd)]
    · simp only [if_neg hused, bind_eq_ok, require_eq_ok, exists_const,
        ih (Nat.le_succ_of_le hd), h.scanSlot_iff hd (Nat.lt_of_not_le hend) hused]

lemma fullRewards_eq {j : ℕ} (hd : d ≤ j) (hn : j + n ≤ epoch.activeGatewayCount) :
    fullRewards s₁ (epoch.advance next) rate j n = fullRewards s epoch rate j n := by
  have hslots : usedSlots s₁ j n = usedSlots s j n := by rw [usedSlots, usedSlots, h.registry]
  rw [fullRewards, fullRewards, hslots]
  congr 1
  refine List.map_congr_left fun i hi => ?_
  obtain ⟨hlo, hhi, hused⟩ := mem_usedSlots.mp hi
  rw [slotReward, slotReward, h.scanSlot_eq (hd.trans hlo) (by omega) hused]

end Untouched

lemma Finds.operators {is : List ℕ} (h : Finds s epoch rate is xs)
    (hpays : List.Forall₂ (fun x payment => x.pay = .ok payment) xs payments)
    (hord : Orderly s epoch) (hlt : fullSum xs < 2 ^ 64) :
    List.Forall₂ (fun i payment => payment.gateway.operator = (s.registry.gateways i).address ∧
      payment.gateway.settings.ShareOk ∧ ∃ x,
        scanSlot s epoch rate i (slotAccount s i) = .ok x ∧ x.pay = .ok payment) is payments := by
  induction hpays generalizing is with
  | nil =>
    cases h
    exact .nil
  | @cons x payment xs payments hpay hpays ih =>
    cases h with
    | @cons i _ is _ hx hxs =>
      rw [fullSum_cons] at hlt
      obtain ⟨hg, hslot, -⟩ := scanSlot_ok hx
      have hshare := hord.share _ _ hg
      obtain ⟨hoperator, hsettings, -⟩ := pay_ok hpay hshare (by omega)
      exact .cons ⟨by rw [hoperator, hslot], by rw [hsettings]; exact hshare, x, hx, hpay⟩
        (ih hxs (by omega))

lemma paidState_next (index : ℕ) (hord : Orderly s epoch)
    (hfund : Funded s epoch rate p)
    (hxs : scanSlots s epoch rate epoch.distributionIndex infos = .ok xs)
    (hpays : List.Forall₂ (fun x payment => x.pay = .ok payment) xs payments)
    (ht : s.tokens.Moved t p q env.arioConfig (fullSum xs - orphanedSum payments))
    (hle : epoch.distributionIndex + infos.length ≤ epoch.activeGatewayCount) :
    let d := epoch.distributionIndex + infos.length
    Untouched s (paidState s index epoch d payments t) epoch d ∧
      Orderly (paidState s index epoch d payments t) (epoch.advance d) ∧
      Funded (paidState s index epoch d payments t) (epoch.advance d) rate p := by
  intro d
  have hfinds := scanSlots_finds hxs hle
  have hfull := hfund.fullSum_le hxs hle
  have hops := hfinds.operators hpays hord (hfull.trans_lt hfund.word)
  have huntouched : Untouched s (paidState s index epoch d payments t) epoch d := by
    refine ⟨rfl, fun i hd hi hused => writeGateways_other fun payment hpayment heq => ?_⟩
    obtain ⟨j, hj, hoperator, -⟩ := exists_of_forall₂ hops hpayment
    obtain ⟨-, hlt, -⟩ := mem_usedSlots.mp hj
    have hij := hord.distinct i j hi (by omega) hused (by rw [← hoperator, heq])
    omega
  have hbalance := ht.balance_eq p
  rw [if_pos rfl] at hbalance
  have hparts : epoch.activeGatewayCount - epoch.distributionIndex = infos.length
      + (epoch.activeGatewayCount - d) := by omega
  have hd : epoch.distributionIndex + infos.length = d := rfl
  have henough := hfund.enough
  rw [hparts, fullRewards_add, fullRewards, ← hfinds.fullSum_eq, hd] at henough
  have hword := hfund.word
  refine ⟨huntouched, ⟨fun k g hg => ?_, hord.distinct⟩, ?_, ?_⟩
  · rcases writeGateways_cases hg with hg | ⟨payment, hpayment, rfl⟩
    · exact hord.share k g hg
    · obtain ⟨_, -, -, hshare, -⟩ := exists_of_forall₂ hops hpayment
      exact hshare
  · change t.balance p < 2 ^ 64
    split at hbalance <;> omega
  · change fullRewards _ _ _ d (epoch.activeGatewayCount - d) ≤ t.balance p
    rw [huntouched.fullRewards_eq le_rfl (by omega)]
    split at hbalance <;> omega

/-- The states agree in everything but the list of token transfers. -/
def SameButLog (s s' : State) : Prop :=
  s.tokens.accounts = s'.tokens.accounts ∧ { s with tokens := s'.tokens } = s'

lemma SameButLog.trans (h : SameButLog s s₁) (h' : SameButLog s₁ s₂) : SameButLog s s₂ := by
  have hrest := congrArg (fun u : State => { u with tokens := s₂.tokens }) h.2
  exact ⟨h.1.trans h'.1, hrest.trans h'.2⟩

lemma orphanedSum_append :
    orphanedSum (payments ++ payments') = orphanedSum payments + orphanedSum payments' := by
  rw [orphanedSum, List.map_append, List.sum_append]
  rfl

lemma operatorSum_append :
    operatorSum (payments ++ payments') = operatorSum payments + operatorSum payments' := by
  rw [operatorSum, List.map_append, List.sum_append]
  rfl

lemma paidState_append {d m : ℕ} (hd : d < epoch.activeGatewayCount)
    (haccounts : t'.accounts = t.accounts) (t₁ : Tokens) :
    SameButLog (paidState s index epoch m (payments ++ payments') t')
      (paidState (paidState s index epoch d payments t₁) index (epoch.advance d) m payments'
          t) := by
  refine ⟨haccounts, ?_⟩
  have hadvance : (epoch.advance d).advance m = epoch.advance m := by
    unfold Epoch.advance
    simp only [if_neg (Nat.not_le_of_lt hd)]
  unfold paidState
  rw [writeGateways_append, operatorSum_append, hadvance]
  simp only [Function.update_idem, Nat.add_assoc]

lemma distributeEpoch_second {clock' : ℤ} (hset : s.epochSettings = some settings)
    (hobs : 0 < epoch.observationsSubmitted) (hord : Orderly s epoch)
    (hfund : Funded s epoch settings.missedObservationPenaltyRate p)
    (hxs : scanSlots s epoch settings.missedObservationPenaltyRate epoch.distributionIndex infos
      = .ok xs)
    (hpays : List.Forall₂ (fun x payment => x.pay = .ok payment) xs payments)
    (ht : s.tokens.Moved t p q env.arioConfig (fullSum xs - orphanedSum payments))
    (hlt : epoch.distributionIndex + infos.length < epoch.activeGatewayCount)
    (hle : epoch.distributionIndex + infos.length + infos'.length ≤ epoch.activeGatewayCount)
    (hpayable : Payable s epoch p q clock) (hclock : epoch.endTimestamp ≤ clock') :
    let d := epoch.distributionIndex + infos.length
    distributeEpoch env clock' index p q infos' (paidState s index epoch d payments t) = .ok s₂ ↔
      ∃ ys payments' t₂,
        scanSlots s epoch settings.missedObservationPenaltyRate d infos' = .ok ys ∧
        List.Forall₂ (fun x payment => x.pay = .ok payment) ys payments' ∧
        (0 < fullSum ys - orphanedSum payments' → p = env.coreTreasury) ∧
        t.Moved t₂ p q env.arioConfig (fullSum ys - orphanedSum payments') ∧
        (0 < operatorSum payments' →
          s.settings.totalStaked + operatorSum payments + operatorSum payments' < 2 ^ 64) ∧
        s₂ = paidState (paidState s index epoch d payments t) index (epoch.advance d)
          (d + infos'.length) payments' t₂ := by
  intro d
  obtain ⟨huntouched, hord₁, hfund₁⟩ := paidState_next index hord hfund hxs hpays ht hlt.le
  have hpayable₁ : Payable (paidState s index epoch d payments t) (epoch.advance d) p q clock' := by
    refine ⟨⟨hpayable.treasury.1, ?_⟩, ⟨hpayable.pool.1, ?_⟩, hpayable.prescribed, hclock, ?_⟩
    · change (t.terms p).map _ = _
      rw [ht.terms_eq]
      exact hpayable.treasury.2
    · change (t.terms q).map _ = _
      rw [ht.terms_eq]
      exact hpayable.pool.2
    · rw [Epoch.advance, if_neg (Nat.not_le_of_lt hlt)]
      exact hpayable.undistributed
  have hepoch : (paidState s index epoch d payments t).epochs index = some (epoch.advance d) :=
    Function.update_self ..
  rw [distributeEpoch_iff (by exact hset) hepoch (by exact hobs) hord₁ hfund₁ (by exact hle)]
  constructor
  · rintro ⟨-, ys, payments', t₂, hys, hrest⟩
    exact ⟨ys, payments', t₂, (huntouched.scanSlots_iff le_rfl).mp hys, hrest⟩
  · rintro ⟨ys, payments', t₂, hys, hrest⟩
    exact ⟨hpayable₁, ys, payments', t₂, (huntouched.scanSlots_iff le_rfl).mpr hys, hrest⟩

/-- **Two batches** leave what one batch over the accounts of both leaves. -/
lemma distributeEpoch_append {clock' clock'' : ℤ} (hset : s.epochSettings = some settings)
    (he : s.epochs index = some epoch) (hobs : 0 < epoch.observationsSubmitted)
    (hord : Orderly s epoch) (hfund : Funded s epoch settings.missedObservationPenaltyRate p)
    (hpos : infos' ≠ [])
    (hle : epoch.distributionIndex + infos.length + infos'.length ≤ epoch.activeGatewayCount)
    (hclock : epoch.endTimestamp ≤ clock) (hclock' : epoch.endTimestamp ≤ clock')
    (hclock'' : epoch.endTimestamp ≤ clock'') :
    (∀ s₁ s₂, distributeEpoch env clock index p q infos s = .ok s₁ →
      distributeEpoch env clock' index p q infos' s₁ = .ok s₂ →
      ∃ s', distributeEpoch env clock'' index p q (infos ++ infos') s = .ok s' ∧
        SameButLog s' s₂) ∧
    ∀ s', distributeEpoch env clock'' index p q (infos ++ infos') s = .ok s' →
      ∃ s₁ s₂, distributeEpoch env clock index p q infos s = .ok s₁ ∧
        distributeEpoch env clock' index p q infos' s₁ = .ok s₂ ∧ SameButLog s' s₂ := by
  have hlen := List.length_pos_of_ne_nil hpos
  have hle₁ : epoch.distributionIndex + infos.length ≤ epoch.activeGatewayCount := by omega
  have hlt : epoch.distributionIndex + infos.length < epoch.activeGatewayCount := by omega
  have hle₂ : epoch.distributionIndex + (infos ++ infos').length ≤ epoch.activeGatewayCount := by
    rw [List.length_append]
    omega
  -- The rewards of the batches, and what is held back of them, add up.
  have hsums (xs ys : List PendingDistribution) (payments payments' : List Payment)
      (hxs : scanSlots s epoch settings.missedObservationPenaltyRate epoch.distributionIndex infos
        = .ok xs)
      (hys : scanSlots s epoch settings.missedObservationPenaltyRate
        (epoch.distributionIndex + infos.length) infos' = .ok ys)
      (hpays : List.Forall₂ (fun x payment => x.pay = .ok payment) xs payments)
      (hpays' : List.Forall₂ (fun x payment => x.pay = .ok payment) ys payments') :
      fullSum (xs ++ ys) - orphanedSum (payments ++ payments')
          = (fullSum xs - orphanedSum payments) + (fullSum ys - orphanedSum payments') ∧
        fullSum (xs ++ ys) ≤ s.tokens.balance p := by
    have hboth := hfund.fullSum_le ((scanSlots_append hle₁).mpr ⟨xs, ys, hxs, hys, rfl⟩) hle₂
    have hword := hfund.word
    rw [fullSum_append] at hboth
    have hfirst := payments_le hpays
      (fun x hx => (scanSlots_finds hxs hle₁).share hord hx) (by omega)
    have hsecond := payments_le hpays'
      (fun x hx => (scanSlots_finds hys hle).share hord hx) (by omega)
    rw [fullSum_append, orphanedSum_append]
    omega
  constructor
  · intro s₁ s₂ h₁ h₂
    obtain ⟨hpayable, xs, payments, t, hxs, hpays, hcore, ht, hfit, rfl⟩ :=
      (distributeEpoch_iff hset he hobs hord hfund hle₁).mp h₁
    obtain ⟨ys, payments', t₂, hys, hpays', hcore', ht', hfit', rfl⟩ :=
      (distributeEpoch_second hset hobs hord hfund hxs hpays ht hlt hle hpayable hclock').mp h₂
    obtain ⟨hparts, hbound⟩ := hsums xs ys payments payments' hxs hys hpays hpays'
    obtain ⟨t', ht₂, hacc⟩ := Tokens.Moved.join
      (by rw [← hparts]; exact (Nat.sub_le ..).trans hbound) ht ht'
    refine ⟨paidState s index epoch _ (payments ++ payments') t',
      (distributeEpoch_iff hset he hobs hord hfund hle₂).mpr ⟨{ hpayable with ended := hclock'' },
        xs ++ ys, payments ++ payments', t', (scanSlots_append hle₁).mpr ⟨xs, ys, hxs, hys, rfl⟩,
        List.rel_append hpays hpays', ?_, ?_, ?_, ?_⟩, paidState_append hlt hacc t⟩
    · rw [hparts]
      intro hpos
      rcases Nat.eq_zero_or_pos (fullSum xs - orphanedSum payments) with hzero | hpos'
      · exact hcore' (by omega)
      · exact hcore hpos'
    · rw [hparts]
      exact ht₂
    · rw [operatorSum_append]
      intro hpos
      rcases Nat.eq_zero_or_pos (operatorSum payments') with hzero | hpos'
      · have := hfit (by omega)
        omega
      · have := hfit' hpos'
        omega
    · rw [List.length_append, Nat.add_assoc]
  · intro s' h
    obtain ⟨hpayable, zs, payouts, t', hzs, hboth, hcore, ht, hfit, rfl⟩ :=
      (distributeEpoch_iff hset he hobs hord hfund hle₂).mp h
    obtain ⟨xs, ys, hxs, hys, rfl⟩ := (scanSlots_append hle₁).mp hzs
    obtain ⟨payments, payments', hpays, hpays', rfl⟩ := exists_append_of_forall₂ hboth
    obtain ⟨hparts, hbound⟩ := hsums xs ys payments payments' hxs hys hpays hpays'
    rw [hparts] at hcore ht
    rw [operatorSum_append] at hfit
    obtain ⟨t₁, t₂, ht₁, ht₂, hacc⟩ := Tokens.Moved.split ht
    refine ⟨_, _, (distributeEpoch_iff hset he hobs hord hfund hle₁).mpr
      ⟨{ hpayable with ended := hclock }, xs, payments, t₁, hxs, hpays, fun hpos =>
        hcore (by omega),
        ht₁, fun hpos => ?_, rfl⟩,
      (distributeEpoch_second hset hobs hord hfund hxs hpays ht₁ hlt hle hpayable hclock').mpr
        ⟨ys, payments', t₂, hys, hpays', fun hpos => hcore (by omega), ht₂, fun hpos =>
          ?_, rfl⟩, ?_⟩
    · have := hfit (by omega)
      omega
    · have := hfit (by omega)
      omega
    · rw [List.length_append, ← Nat.add_assoc]
      exact paidState_append hlt hacc t₁

/-! ### Any number of batches -/

/-- Distribute batch by batch, each at its time. -/
def distributeBatches (env : Env) (index : ℕ) (p q : Pubkey) :
    List (ℤ × List AccountMeta) → State → Except GarError State
  | [], s => return s
  | batch :: rest, s => do
    distributeBatches env index p q rest (← distributeEpoch env batch.1 index p q batch.2 s)

/-- All accounts of the batches. -/
def allAccounts (batches : List (ℤ × List AccountMeta)) : List AccountMeta := batches.flatMap (·.2)

variable {batches : List (ℤ × List AccountMeta)} {last : ℤ}

lemma distributeEpoch_later {clock' : ℤ} (hset : s.epochSettings = some settings)
    (he : s.epochs index = some epoch) (hobs : 0 < epoch.observationsSubmitted)
    (hord : Orderly s epoch) (hfund : Funded s epoch settings.missedObservationPenaltyRate p)
    (hle : epoch.distributionIndex + infos.length ≤ epoch.activeGatewayCount)
    (hclock' : epoch.endTimestamp ≤ clock')
    (h : distributeEpoch env clock index p q infos s = .ok s') :
    distributeEpoch env clock' index p q infos s = .ok s' := by
  obtain ⟨hpayable, hrest⟩ := (distributeEpoch_iff hset he hobs hord hfund hle).mp h
  exact (distributeEpoch_iff hset he hobs hord hfund hle).mpr
    ⟨{ hpayable with ended := hclock' }, hrest⟩

lemma distributeEpoch_leaves (hset : s.epochSettings = some settings)
    (he : s.epochs index = some epoch) (hobs : 0 < epoch.observationsSubmitted)
    (hord : Orderly s epoch) (hfund : Funded s epoch settings.missedObservationPenaltyRate p)
    (hle : epoch.distributionIndex + infos.length ≤ epoch.activeGatewayCount)
    (h : distributeEpoch env clock index p q infos s = .ok s₁) :
    let next := epoch.advance (epoch.distributionIndex + infos.length)
    s₁.epochSettings = some settings ∧ s₁.epochs index = some next ∧ Orderly s₁ next ∧
      Funded s₁ next settings.missedObservationPenaltyRate p := by
  obtain ⟨-, xs, payments, t, hxs, hpays, -, ht, -, rfl⟩ :=
    (distributeEpoch_iff hset he hobs hord hfund hle).mp h
  obtain ⟨-, hord₁, hfund₁⟩ := paidState_next index hord hfund hxs hpays ht hle
  exact ⟨hset, Function.update_self .., hord₁, hfund₁⟩

/-- **Batches** leave what one batch over all their accounts leaves. -/
lemma distributeBatches_iff (hset : s.epochSettings = some settings)
    (he : s.epochs index = some epoch) (hobs : 0 < epoch.observationsSubmitted)
    (hord : Orderly s epoch) (hfund : Funded s epoch settings.missedObservationPenaltyRate p)
    (hne : batches ≠ []) (hfull : ∀ batch ∈ batches, batch.2 ≠ [])
    (hle : epoch.distributionIndex + (allAccounts batches).length ≤ epoch.activeGatewayCount)
    (hlast : epoch.endTimestamp ≤ last)
    (hclocks : ∀ batch ∈ batches, epoch.endTimestamp ≤ batch.1) :
    (∀ s', distributeBatches env index p q batches s = .ok s' →
      ∃ s'', distributeEpoch env last index p q (allAccounts batches) s = .ok s'' ∧
        SameButLog s'' s') ∧
    ∀ s'', distributeEpoch env last index p q (allAccounts batches) s = .ok s'' →
      ∃ s', distributeBatches env index p q batches s = .ok s' ∧ SameButLog s'' s' := by
  induction batches generalizing s epoch with
  | nil => exact absurd rfl hne
  | cons batch rest ih =>
    have haccounts : allAccounts (batch :: rest) = batch.2 ++ allAccounts rest := List.flatMap_cons
    have hclock := hclocks batch List.mem_cons_self
    rw [haccounts, List.length_append] at hle
    rcases eq_or_ne rest [] with rfl | hrest
    · have hone : distributeBatches env index p q [batch] s
          = distributeEpoch env batch.1 index p q batch.2 s := bind_pure _
      have hsingle : allAccounts [batch] = batch.2 := by simp [allAccounts]
      rw [hone, hsingle]
      have hle' : epoch.distributionIndex + batch.2.length ≤ epoch.activeGatewayCount := by omega
      exact ⟨fun s' h => ⟨s', distributeEpoch_later hset he hobs hord hfund hle' hlast h, rfl, rfl⟩,
        fun s' h => ⟨s', distributeEpoch_later hset he hobs hord hfund hle' hclock h, rfl, rfl⟩⟩
    -- The first batch leaves a state that meets the conditions again.
    have hpos : allAccounts rest ≠ [] := by
      obtain ⟨next, hnext⟩ := List.exists_mem_of_ne_nil rest hrest
      intro hnil
      exact hfull next (List.mem_cons_of_mem _ hnext) (List.flatMap_eq_nil_iff.mp hnil next hnext)
    have hlen := List.length_pos_of_ne_nil hpos
    have hle' : epoch.distributionIndex + batch.2.length + (allAccounts rest).length
        ≤ epoch.activeGatewayCount := by omega
    have hrest' := fun b hb => hfull b (List.mem_cons_of_mem _ hb)
    have hclocks' := fun b hb => hclocks b (List.mem_cons_of_mem _ hb)
    rw [haccounts]
    constructor
    · intro s' h
      simp only [distributeBatches, bind_eq_ok] at h
      obtain ⟨s₁, h₁, h⟩ := h
      obtain ⟨hset₁, he₁, hord₁, hfund₁⟩ :=
        distributeEpoch_leaves hset he hobs hord hfund (by omega) h₁
      obtain ⟨s₂, h₂, hsame⟩ :=
        (ih hset₁ he₁ hobs hord₁ hfund₁ hrest hrest' hle' hlast hclocks').1 s' h
      obtain ⟨s'', h'', hsame'⟩ := (distributeEpoch_append hset he hobs hord hfund hpos hle' hclock
        hlast hlast).1 s₁ s₂ h₁ h₂
      exact ⟨s'', h'', hsame'.trans hsame⟩
    · intro s'' h
      obtain ⟨s₁, s₂, h₁, h₂, hsame⟩ := (distributeEpoch_append hset he hobs hord hfund hpos hle'
        hclock hlast hlast).2 s'' h
      obtain ⟨hset₁, he₁, hord₁, hfund₁⟩ :=
        distributeEpoch_leaves hset he hobs hord hfund (by omega) h₁
      obtain ⟨s', h', hsame'⟩ :=
        (ih hset₁ he₁ hobs hord₁ hfund₁ hrest hrest' hle' hlast hclocks').2 s₂ h₂
      refine ⟨s', ?_, hsame.trans hsame'⟩
      simp only [distributeBatches, bind_eq_ok]
      exact ⟨s₁, h₁, h'⟩

lemma distributeEpoch_credits (hset : s.epochSettings = some settings)
    (he : s.epochs index = some epoch) (hobs : 0 < epoch.observationsSubmitted)
    (hord : Orderly s epoch) (hfund : Funded s epoch settings.missedObservationPenaltyRate p)
    (hall : epoch.distributionIndex + infos.length = epoch.activeGatewayCount)
    (h : distributeEpoch env clock index p q infos s = .ok s') :
    (s'.epochs index).map (·.rewardsDistributed) = some 1 ∧
    (∀ i, epoch.distributionIndex ≤ i → i < epoch.activeGatewayCount →
      (s.registry.gateways i).address ≠ Pubkey.default →
      ∃ x payment pool,
        scanSlot s epoch settings.missedObservationPenaltyRate i (slotAccount s i) = .ok x ∧
        x.pay = .ok payment ∧ x.Credits s epoch i pool payment.gateway ∧
        s.gateways (s.registry.gateways i).address = some x.gateway ∧
        s'.gateways (s.registry.gateways i).address = some payment.gateway) ∧
    ∀ k, (∀ i, epoch.distributionIndex ≤ i → i < epoch.activeGatewayCount →
      (s.registry.gateways i).address ≠ k) → s'.gateways k = s.gateways k := by
  obtain ⟨-, xs, payments, t, hxs, hpays, -, -, -, rfl⟩ :=
    (distributeEpoch_iff hset he hobs hord hfund hall.le).mp h
  have hfinds := scanSlots_finds hxs hall.le
  have hops := hfinds.operators hpays hord ((hfund.fullSum_le hxs hall.le).trans_lt hfund.word)
  have hpairwise : payments.Pairwise fun a b => a.gateway.operator ≠ b.gateway.operator := by
    refine pairwise_of_forall₂ hops (usedSlots_lt s epoch.distributionIndex infos.length) ?_
    rintro i hi j hj hij a b ⟨ha, -⟩ ⟨hb, -⟩ heq
    obtain ⟨-, hhi, hused⟩ := mem_usedSlots.mp hi
    obtain ⟨-, hhj, -⟩ := mem_usedSlots.mp hj
    rw [ha, hb] at heq
    exact hij.ne (hord.distinct i j (by omega) (by omega) hused heq)
  refine ⟨?_, fun i hlo hhi hused => ?_, fun k hk => ?_⟩
  · change (Function.update s.epochs index _ index).map _ = _
    rw [Function.update_self, Option.map_some, Epoch.advance, if_pos hall.ge]
  · have hi : i ∈ usedSlots s epoch.distributionIndex infos.length :=
      mem_usedSlots.mpr ⟨hlo, by omega, hused⟩
    obtain ⟨payment, hmem, hoperator, -, x, hscan, hpay⟩ := exists_of_forall₂ hops.flip hi
    obtain ⟨hg, hslot, -⟩ := scanSlot_ok hscan
    have hreward : x.fullReward < 2 ^ 64 := by
      obtain ⟨y, hy, hfound⟩ := exists_of_forall₂ (List.Forall₂.flip hfinds) hi
      obtain rfl : y = x := Except.ok.inj (hfound.symm.trans hscan)
      have hle : y.fullReward ≤ fullSum xs :=
        List.single_le_sum (fun _ _ => Nat.zero_le _) _ (List.mem_map_of_mem hy)
      exact (hle.trans (hfund.fullSum_le hxs hall.le)).trans_lt hfund.word
    obtain ⟨pool, hcredits⟩ := x.pay_credits hscan hreward (hord.share _ _ hg) hpay
    refine ⟨x, payment, pool, hscan, hpay, hcredits, by rw [hslot, hg], ?_⟩
    change writeGateways payments s.gateways _ = _
    rw [← hoperator]
    exact writeGateways_mem hpairwise hmem
  · refine writeGateways_other fun payment hpayment heq => ?_
    obtain ⟨i, hi, hoperator, -⟩ := exists_of_forall₂ hops hpayment
    obtain ⟨hlo, hhi, -⟩ := mem_usedSlots.mp hi
    exact hk i hlo (by omega) (by rw [← hoperator, heq])

end Batch

lemma run_orderly {s₀ : State} {tr : Trace} (hfresh : Fresh env s₀)
    (run : Run (GarStep env) s₀ tr s)
    (epoch : Epoch) : Orderly s epoch := by
  obtain ⟨hF, hR⟩ := run_footing hfresh run
  refine ⟨fun k g hg => (hF.gateways k g hg).share, fun i j _ _ hused heq => ?_⟩
  exact hR.injective (hR.lt_of_address hused) (hR.lt_of_address (heq ▸ hused)) heq

/-- **Batching does not matter.** Let an epoch have an observation, let the registry be in order and
let the treasury hold the full rewards of the slots that are left. Cut these slots into non-empty
batches, each distributed after the end of the epoch. Then the batches succeed exactly when one
batch over all slots does, and they leave the same gateways, the same balances, the same counters
and the same epoch. Every slot in use is paid its full reward, and its statistics count one epoch
more. -/
theorem batching_irrelevant (env : Env) (s : State) (index : ℕ) (epoch : Epoch)
    (settings : EpochSettings) (p q : Pubkey) (batches : List (ℤ × List AccountMeta)) (last : ℤ)
    (hset : s.epochSettings = some settings) (he : s.epochs index = some epoch)
    (hobs : 0 < epoch.observationsSubmitted) (hord : Orderly s epoch)
    (hfund : Funded s epoch settings.missedObservationPenaltyRate p)
    (hne : batches ≠ []) (hfull : ∀ batch ∈ batches, batch.2 ≠ [])
    (hall : epoch.distributionIndex + (allAccounts batches).length = epoch.activeGatewayCount)
    (hlast : epoch.endTimestamp ≤ last)
    (hclocks : ∀ batch ∈ batches, epoch.endTimestamp ≤ batch.1) :
    (∀ s', distributeBatches env index p q batches s = .ok s' →
      ∃ s'', distributeEpoch env last index p q (allAccounts batches) s = .ok s'' ∧
        SameButLog s'' s') ∧
    (∀ s'', distributeEpoch env last index p q (allAccounts batches) s = .ok s'' →
      ∃ s', distributeBatches env index p q batches s = .ok s' ∧ SameButLog s'' s') ∧
    ∀ s', distributeBatches env index p q batches s = .ok s' →
      (s'.epochs index).map (·.rewardsDistributed) = some 1 ∧
      (∀ i, epoch.distributionIndex ≤ i → i < epoch.activeGatewayCount →
        (s.registry.gateways i).address ≠ Pubkey.default →
        ∃ x payment pool,
          scanSlot s epoch settings.missedObservationPenaltyRate i (slotAccount s i) = .ok x ∧
          x.pay = .ok payment ∧ x.Credits s epoch i pool payment.gateway ∧
          s.gateways (s.registry.gateways i).address = some x.gateway ∧
          s'.gateways (s.registry.gateways i).address = some payment.gateway) ∧
      ∀ k, (∀ i, epoch.distributionIndex ≤ i → i < epoch.activeGatewayCount →
        (s.registry.gateways i).address ≠ k) → s'.gateways k = s.gateways k := by
  obtain ⟨hto, hfrom⟩ :=
    distributeBatches_iff hset he hobs hord hfund hne hfull hall.le hlast hclocks
  refine ⟨hto, hfrom, fun s' h => ?_⟩
  obtain ⟨s'', h'', -, hrest⟩ := hto s' h
  have hcredits := distributeEpoch_credits hset he hobs hord hfund hall h''
  rw [← hrest]
  exact hcredits

namespace SmallNetwork

/-- Two gateways in an epoch that was tallied, prescribed and observed. -/
def epochOfTwo : Script :=
  ⟨[join 21, join 22, call 1002 (.initializeEpochs ⟨3⟩ ⟨⟨4⟩, 86400, 50, 2, 10, 4⟩),
    call 1002 (.setEpochsEnabled ⟨4⟩ true), call 1002 (.createEpoch ⟨24⟩ ⟨12⟩ []),
    call 1002 (.tallyWeights 0 [⟨.gateway ⟨21⟩, true⟩, ⟨.gateway ⟨22⟩, true⟩]),
    call 1002 (.prescribeEpoch 0 [⟨.gateway ⟨21⟩, true⟩] ⟨⟨0⟩, []⟩),
    call 1003 (.saveObservations ⟨41⟩ 0 (BitVec.allOnes 3000) 2 0)], by decide +kernel⟩

def twoBatches : List (ℤ × List AccountMeta) :=
  [(90000, [⟨.gateway ⟨21⟩, true⟩]), (90001, [⟨.gateway ⟨22⟩, true⟩])]

end SmallNetwork

open SmallNetwork in
theorem batching_irrelevant_small : ∃ s s' s'' settings epoch,
    s = after epochOfTwo.events ∧ s.epochSettings = some settings ∧ s.epochs 0 = some epoch ∧
    0 < fullRewards s epoch settings.missedObservationPenaltyRate 0 2 ∧
    distributeBatches chain 0 ⟨12⟩ ⟨11⟩ twoBatches s = .ok s' ∧
    distributeEpoch chain 95000 0 ⟨12⟩ ⟨11⟩ (allAccounts twoBatches) s = .ok s'' ∧
    SameButLog s'' s' := by
  set s := after epochOfTwo.events with hs
  obtain ⟨tr, run, hl⟩ := run_after epochOfTwo.events epochOfTwo.works
  have hworks : distributeBatches chain 0 ⟨12⟩ ⟨11⟩ twoBatches s
      = .ok (outcome (distributeBatches chain 0 ⟨12⟩ ⟨11⟩ twoBatches s) start) :=
    eq_ok_outcome (by rw [hs]; unfold after; decide +kernel)
  have hfacts : (s.epochSettings.bind fun settings => (s.epochs 0).map fun epoch => decide
      (0 < epoch.observationsSubmitted ∧ epoch.distributionIndex = 0 ∧
        epoch.activeGatewayCount = 2 ∧ epoch.endTimestamp ≤ 90000 ∧
        s.tokens.balance ⟨12⟩ < 2 ^ 64 ∧
        0 < fullRewards s epoch settings.missedObservationPenaltyRate 0 2 ∧
        fullRewards s epoch settings.missedObservationPenaltyRate 0 2
          ≤ s.tokens.balance ⟨12⟩)) = some true := by
    rw [hs]
    unfold after
    decide +kernel
  simp only [Option.bind_eq_some_iff, Option.map_eq_some_iff, decide_eq_true_eq] at hfacts
  obtain ⟨settings, hset, epoch, he, hobs, hindex, hcount, hend, hword, hpos, henough⟩ := hfacts
  obtain ⟨hto, -, -⟩ := batching_irrelevant chain s 0 epoch settings ⟨12⟩ ⟨11⟩ twoBatches 95000 hset
    he hobs (run_orderly fresh run epoch) ⟨hword, by rw [hindex, hcount]; exact henough⟩
    (by simp [twoBatches]) (by simp [twoBatches])
    (by rw [hindex, hcount]; rfl) (by omega) (by simp [twoBatches]; omega)
  obtain ⟨s'', hone, hsame⟩ := hto _ hworks
  exact ⟨s, _, s'', settings, epoch, rfl, hset, he, hpos, hworks, hone, hsame⟩

end Gar
end ArioSolana
