import ArioSolana.GarLifecycle

/-!
# The registry

`Registered` says that the live gateways and the first `count` slots of the registry name each
other, one to one. Only joining, departing and finalizing change who sits where; every other
instruction leaves all seats alone (`SameSeats`).
-/

namespace ArioSolana
namespace Gar

open Checked Solana

variable {env : Env} {s s' s'' : State} {clock : ℤ} {k a p q u : Pubkey} {amount : ℕ}
  {remaining : List AccountMeta}

/-! ### Seats -/

/-- What joining and departing decide about a gateway. -/
structure Seat where
  operator : Pubkey
  status : GatewayStatus
  startTimestamp : ℤ
  leaveTimestamp : Option ℤ
  leaveEpochDuration : ℤ
  registryIndex : ℕ
  observerAddress : Pubkey

def Gateway.seat (g : Gateway) : Seat :=
  ⟨g.operator, g.status, g.startTimestamp, g.leaveTimestamp, g.leaveEpochDuration,
    g.registryIndex, g.observerAddress⟩

def State.seats (s : State) (k : Pubkey) : Option Seat := (s.gateways k).map Gateway.seat

/-- Nobody moved: the slots keep their gateways and the gateways their slots. -/
structure SameSeats (s s' : State) : Prop where
  count : s'.registry.count = s.registry.count
  address : ∀ i, (s'.registry.gateways i).address = (s.registry.gateways i).address
  status : ∀ i, (s'.registry.gateways i).status = (s.registry.gateways i).status
  zeroed : ∀ i, s.registry.gateways i = .zeroed → s'.registry.gateways i = .zeroed
  seats : s'.seats = s.seats

namespace SameSeats

lemma refl (s : State) : SameSeats s s :=
  ⟨rfl, fun _ => rfl, fun _ => rfl, fun _ h => h, rfl⟩

lemma trans (h : SameSeats s s') (h' : SameSeats s' s'') : SameSeats s s'' :=
  ⟨h'.count.trans h.count, fun i => (h'.address i).trans (h.address i),
    fun i => (h'.status i).trans (h.status i), fun i hi => h'.zeroed i (h.zeroed i hi),
    h'.seats.trans h.seats⟩

lemma of_registry (hr : s'.registry = s.registry) (h : s'.seats = s.seats) : SameSeats s s' :=
  ⟨by rw [hr], fun _ => by rw [hr], fun _ => by rw [hr], fun _ hi => by rw [hr, hi], h⟩

end SameSeats

/-- The seat of a shell. -/
def Shell.seat (x : Shell) : Seat :=
  ⟨x.operator, x.status, x.startTimestamp, x.leaveTimestamp, x.leaveEpochDuration,
    x.registryIndex, x.observerAddress⟩

lemma seats_of_shells (h : s'.shells = s.shells) : s'.seats = s.seats := by
  have hmap : ∀ x : State, x.seats = fun i => (x.shells i).map Shell.seat := by
    intro x
    funext i
    simp only [State.seats, State.shells, Option.map_map]
    rfl
  rw [hmap, hmap, h]

lemma Quiet.sameSeats (h : Quiet s s') : SameSeats s s' :=
  .of_registry h.registry (seats_of_shells h.shells)

lemma seats_update {g g' : Gateway} (hg : s.gateways k = some g)
    (hG : s'.gateways = Function.update s.gateways k (some g')) (hs : g'.seat = g.seat) :
    s'.seats = s.seats := by
  funext i
  rw [State.seats, State.seats, hG]
  by_cases hi : i = k
  · subst hi; simp [hg, hs]
  · simp [hi]

/-- What the registry knows about a gateway. -/
def Gateway.place (g : Gateway) : Pubkey × GatewayStatus × ℕ :=
  (g.operator, g.status, g.registryIndex)

def State.places (s : State) (k : Pubkey) : Option (Pubkey × GatewayStatus × ℕ) :=
  (s.gateways k).map Gateway.place

lemma places_of_seats (h : s'.seats = s.seats) : s'.places = s.places := by
  have hmap : ∀ x : State, x.places = fun i =>
      (x.seats i).map fun y => (y.operator, y.status, y.registryIndex) := by
    intro x
    funext i
    simp only [State.places, State.seats, Option.map_map]
    rfl
  rw [hmap, hmap, h]

lemma place_of {g' : Gateway} (h : s'.places = s.places) (hg' : s'.gateways k = some g') :
    ∃ g, s.gateways k = some g ∧ g.place = g'.place := by
  have := congrFun h k
  rw [State.places, State.places, hg'] at this
  exact Option.map_eq_some_iff.mp this.symm

lemma places_update {g g' : Gateway} (hg : s.gateways k = some g)
    (hG : s'.gateways = Function.update s.gateways k (some g')) (hp : g'.place = g.place) :
    s'.places = s.places := by
  funext i
  rw [State.places, State.places, hG]
  by_cases hi : i = k
  · subst hi; simp [hg, hp]
  · simp [hi]

/-! ### The bijection -/

/-- The mark of a status in a slot. -/
def GatewayStatus.mark : GatewayStatus → ℕ
  | .joined => GatewaySlot.statusJoined
  | .leaving => GatewaySlot.statusLeaving
  | .gone => GatewaySlot.statusGone

/-- The live gateways and the slots in use name each other. -/
structure Registered (s : State) : Prop where
  count_le : s.registry.count ≤ GatewayRegistry.maxGateways
  operator : ∀ k g, s.gateways k = some g → g.operator = k
  index : ∀ k g, s.gateways k = some g → g.registryIndex < s.registry.count ∧
    (s.registry.gateways g.registryIndex).address = k
  status : ∀ k g, s.gateways k = some g →
    g.status ≠ .gone ∧ (s.registry.gateways g.registryIndex).status = g.status.mark
  nonzero : ∀ k g, s.gateways k = some g → k ≠ Pubkey.default
  filled : ∀ i < s.registry.count, ∃ g,
    s.gateways (s.registry.gateways i).address = some g ∧ g.registryIndex = i
  zeroed : ∀ i, s.registry.count ≤ i → s.registry.gateways i = .zeroed

namespace Registered

variable {g : Gateway}

lemma injective (h : Registered s) {i j : ℕ} (hi : i < s.registry.count)
    (hj : j < s.registry.count)
    (heq : (s.registry.gateways i).address = (s.registry.gateways j).address) : i = j := by
  obtain ⟨g, hg, rfl⟩ := h.filled i hi
  obtain ⟨g', hg', rfl⟩ := h.filled j hj
  rw [heq, hg'] at hg
  rw [Option.some.inj hg]

lemma address_ne_default (h : Registered s) {i : ℕ} (hi : i < s.registry.count) :
    (s.registry.gateways i).address ≠ Pubkey.default := by
  obtain ⟨g, hg, -⟩ := h.filled i hi
  exact h.nonzero _ _ hg

lemma lt_of_address (h : Registered s) {i : ℕ}
    (hi : (s.registry.gateways i).address ≠ Pubkey.default) : i < s.registry.count := by
  by_contra hle
  rw [h.zeroed i (not_lt.mp hle)] at hi
  exact hi rfl

lemma index_eq (h : Registered s) {i : ℕ} (hi : i < s.registry.count)
    (hg : s.gateways (s.registry.gateways i).address = some g) : g.registryIndex = i := by
  obtain ⟨g', hg', rfl⟩ := h.filled i hi
  rw [hg] at hg'
  rw [Option.some.inj hg']

lemma index_ne (h : Registered s) {k' : Pubkey} {g' : Gateway} (hg : s.gateways k = some g)
    (hg' : s.gateways k' = some g') (hne : k' ≠ k) : g'.registryIndex ≠ g.registryIndex := by
  intro heq
  have h1 := (h.index _ _ hg).2
  have h2 := (h.index _ _ hg').2
  rw [heq, h1] at h2
  exact hne h2.symm

/-- Whoever keeps the operator, the status and the slot of every gateway keeps the bijection. -/
theorem of_places (h : Registered s) (hcount : s'.registry.count = s.registry.count)
    (haddr : ∀ i, (s'.registry.gateways i).address = (s.registry.gateways i).address)
    (hstatus : ∀ i, (s'.registry.gateways i).status = (s.registry.gateways i).status)
    (hzero : ∀ i, s.registry.gateways i = .zeroed → s'.registry.gateways i = .zeroed)
    (hp : s'.places = s.places) : Registered s' := by
  have hseat : ∀ k g', s'.gateways k = some g' → ∃ g, s.gateways k = some g ∧
      g.operator = g'.operator ∧ g.status = g'.status ∧ g.registryIndex = g'.registryIndex := by
    intro k g' hg'
    obtain ⟨g, hg, heq⟩ := place_of hp hg'
    simp only [Gateway.place, Prod.mk.injEq] at heq
    exact ⟨g, hg, heq⟩
  refine ⟨hcount ▸ h.count_le, ?_, ?_, ?_, ?_, ?_, ?_⟩
  · intro k g' hg'
    obtain ⟨g, hg, e1, -, -⟩ := hseat k g' hg'
    exact e1 ▸ h.operator k g hg
  · intro k g' hg'
    obtain ⟨g, hg, -, -, e3⟩ := hseat k g' hg'
    rw [hcount, haddr, ← e3]
    exact h.index k g hg
  · intro k g' hg'
    obtain ⟨g, hg, -, e2, e3⟩ := hseat k g' hg'
    rw [hstatus, ← e3, ← e2]
    exact h.status k g hg
  · intro k g' hg'
    obtain ⟨g, hg, -⟩ := hseat k g' hg'
    exact h.nonzero k g hg
  · intro i hi
    rw [hcount] at hi
    obtain ⟨g, hg, hidx⟩ := h.filled i hi
    obtain ⟨g', hg', heq⟩ := place_of hp.symm hg
    simp only [Gateway.place, Prod.mk.injEq] at heq
    rw [haddr]
    exact ⟨g', hg', heq.2.2.trans hidx⟩
  · intro i hi
    rw [hcount] at hi
    exact hzero i (h.zeroed i hi)

/-- Whoever keeps all seats keeps the bijection. -/
theorem of_sameSeats (h : Registered s) (hs : SameSeats s s') : Registered s' :=
  h.of_places hs.count hs.address hs.status hs.zeroed (places_of_seats hs.seats)

/-- A new gateway takes the next slot. -/
theorem join {slot : GatewaySlot} (h : Registered s) (hnone : s.gateways k = none)
    (hk : k ≠ Pubkey.default) (hcount : s.registry.count < GatewayRegistry.maxGateways)
    (hop : g.operator = k) (hst : g.status = .joined) (hidx : g.registryIndex = s.registry.count)
    (hslot : slot.address = k) (hslot' : slot.status = GatewaySlot.statusJoined)
    (hG : s'.gateways = Function.update s.gateways k (some g))
    (hr : s'.registry = ⟨s.registry.count + 1,
      Function.update s.registry.gateways s.registry.count slot⟩) : Registered s' := by
  have hold : ∀ i x, i ≠ k → s'.gateways i = some x → s.gateways i = some x := by
    intro i x hi hx
    simpa [hG, hi] using hx
  have hnew : ∀ x, s'.gateways k = some x → x = g := by
    intro x hx
    simpa [hG, eq_comm] using hx
  refine ⟨by rw [hr]; exact hcount, ?_, ?_, ?_, ?_, ?_, ?_⟩
  · intro i x hx
    by_cases hi : i = k
    · subst hi; rw [hnew x hx]; exact hop
    · exact h.operator i x (hold i x hi hx)
  · intro i x hx
    by_cases hi : i = k
    · subst hi; rw [hnew x hx, hr, hidx]; simp [hslot]
    · obtain ⟨h1, h2⟩ := h.index i x (hold i x hi hx)
      rw [hr]
      exact ⟨Nat.lt_succ_of_lt h1, by simp [h1.ne, h2]⟩
  · intro i x hx
    by_cases hi : i = k
    · subst hi; rw [hnew x hx, hr, hidx, hst]; simp [hslot', GatewayStatus.mark]
    · obtain ⟨h1, -⟩ := h.index i x (hold i x hi hx)
      rw [hr]
      simpa [h1.ne] using h.status i x (hold i x hi hx)
  · intro i x hx
    by_cases hi : i = k
    · subst hi; exact hk
    · exact h.nonzero i x (hold i x hi hx)
  · intro i hi
    rw [hr] at hi ⊢
    rcases Nat.lt_succ_iff_lt_or_eq.mp hi with hi | rfl
    · obtain ⟨x, hx, hxi⟩ := h.filled i hi
      have hne : (s.registry.gateways i).address ≠ k := by
        rintro heq
        rw [heq, hnone] at hx
        cases hx
      exact ⟨x, by simpa [hi.ne, hG, hne] using hx, hxi⟩
    · exact ⟨g, by simp [hslot, hG], hidx⟩
  · intro i hi
    rw [hr] at hi ⊢
    have hne : i ≠ s.registry.count := by simp only at hi; omega
    simpa [hne] using h.zeroed i (by simp only at hi; omega)

/-- A departing gateway keeps its slot, which is marked. -/
theorem depart {g' : Gateway} {slot : GatewaySlot} (h : Registered s)
    (hg : s.gateways k = some g) (hG : s'.gateways = Function.update s.gateways k (some g'))
    (hr : s'.registry = s.registry.setSlot g.registryIndex slot)
    (hop : g'.operator = g.operator) (hst : g'.status = .leaving)
    (hidx : g'.registryIndex = g.registryIndex)
    (hslot : slot.address = (s.registry.gateways g.registryIndex).address)
    (hslot' : slot.status = GatewaySlot.statusLeaving) : Registered s' := by
  have hold : ∀ i x, i ≠ k → s'.gateways i = some x → s.gateways i = some x := by
    intro i x hi hx
    simpa [hG, hi] using hx
  have hnew : ∀ x, s'.gateways k = some x → x = g' := by
    intro x hx
    simpa [hG, eq_comm] using hx
  obtain ⟨hlt, haddr⟩ := h.index _ _ hg
  have hr' : s'.registry.count = s.registry.count := by rw [hr]; rfl
  have haddr' : ∀ i, (s'.registry.gateways i).address = (s.registry.gateways i).address := by
    intro i
    rw [hr, GatewayRegistry.setSlot]
    by_cases hi : i = g.registryIndex
    · subst hi; simp [hslot]
    · simp [hi]
  refine ⟨hr' ▸ h.count_le, ?_, ?_, ?_, ?_, ?_, ?_⟩
  · intro i x hx
    by_cases hi : i = k
    · subst hi; rw [hnew x hx, hop]; exact h.operator _ _ hg
    · exact h.operator i x (hold i x hi hx)
  · intro i x hx
    rw [hr', haddr']
    by_cases hi : i = k
    · subst hi; rw [hnew x hx, hidx]; exact ⟨hlt, haddr⟩
    · exact h.index i x (hold i x hi hx)
  · intro i x hx
    by_cases hi : i = k
    · subst hi; rw [hnew x hx, hidx, hst, hr]; simp [GatewayRegistry.setSlot, hslot',
        GatewayStatus.mark]
    · have hx' := hold i x hi hx
      have hne := h.index_ne hg hx' hi
      rw [hr]
      simpa [GatewayRegistry.setSlot, hne] using h.status i x hx'
  · intro i x hx
    by_cases hi : i = k
    · subst hi; exact h.nonzero _ _ hg
    · exact h.nonzero i x (hold i x hi hx)
  · intro i hi
    rw [hr'] at hi
    obtain ⟨x, hx, hxi⟩ := h.filled i hi
    rw [haddr']
    by_cases heq : (s.registry.gateways i).address = k
    · refine ⟨g', by simp [hG, heq], ?_⟩
      rw [heq, hg] at hx
      rw [hidx, Option.some.inj hx, hxi]
    · exact ⟨x, by simpa [hG, heq] using hx, hxi⟩
  · intro i hi
    rw [hr'] at hi
    have hne : i ≠ g.registryIndex := by omega
    rw [hr]
    simpa [GatewayRegistry.setSlot, hne] using h.zeroed i hi

/-- The gateway in the last slot goes. -/
lemma finalize_last (h : Registered s) (hg : s.gateways k = some g)
    (hlast : g.registryIndex = s.registry.count - 1)
    (hG : s'.gateways = Function.update s.gateways k none) (hr : s'.registry = s.registry.dropLast) :
    Registered s' := by
  obtain ⟨hlt, haddr⟩ := h.index _ _ hg
  have hold : ∀ i x, s'.gateways i = some x → i ≠ k ∧ s.gateways i = some x ∧
      x.registryIndex < s.registry.count - 1 := by
    intro i x hx
    have hi : i ≠ k := by rintro rfl; simp [hG] at hx
    have hx' : s.gateways i = some x := by simpa [hG, hi] using hx
    have h1 := (h.index i x hx').1
    have h2 := h.index_ne hg hx' hi
    exact ⟨hi, hx', by omega⟩
  have hcount : s'.registry.count = s.registry.count - 1 := by rw [hr]; rfl
  have hslot : ∀ i, i ≠ s.registry.count - 1 →
      s'.registry.gateways i = s.registry.gateways i := by
    intro i hi
    rw [hr]
    simp [GatewayRegistry.dropLast, hi]
  refine ⟨by have := h.count_le; omega, ?_, ?_, ?_, ?_, ?_, ?_⟩
  · intro i x hx
    exact h.operator i x (hold i x hx).2.1
  · intro i x hx
    obtain ⟨-, hx', hidx⟩ := hold i x hx
    rw [hcount, hslot _ hidx.ne]
    exact ⟨hidx, (h.index i x hx').2⟩
  · intro i x hx
    obtain ⟨-, hx', hidx⟩ := hold i x hx
    rw [hslot _ hidx.ne]
    exact h.status i x hx'
  · intro i x hx
    exact h.nonzero i x (hold i x hx).2.1
  · intro i hi
    rw [hcount] at hi
    obtain ⟨x, hx, hxi⟩ := h.filled i (by omega)
    rw [hslot _ hi.ne]
    have hne : (s.registry.gateways i).address ≠ k := by
      intro heq
      rw [heq, hg] at hx
      rw [← Option.some.inj hx] at hxi
      omega
    exact ⟨x, by simpa [hG, hne] using hx, hxi⟩
  · intro i hi
    rw [hcount] at hi
    by_cases hne : i = s.registry.count - 1
    · rw [hr, hne]; simp [GatewayRegistry.dropLast]
    · rw [hslot _ hne]; exact h.zeroed i (by omega)

/-- The last gateway moves into the freed slot. -/
lemma finalize_moved {gl : Gateway} (h : Registered s) (hg : s.gateways k = some g)
    (hlast : g.registryIndex ≠ s.registry.count - 1)
    (hgl : s.gateways (s.registry.gateways (s.registry.count - 1)).address = some gl)
    (hG : s'.gateways = Function.update (Function.update s.gateways
      (s.registry.gateways (s.registry.count - 1)).address
      (some { gl with registryIndex := g.registryIndex })) k none)
    (hr : s'.registry = (s.registry.setSlot g.registryIndex
      (s.registry.gateways (s.registry.count - 1))).dropLast) : Registered s' := by
  obtain ⟨hlt, haddr⟩ := h.index _ _ hg
  set n := s.registry.count with hn
  set kl := (s.registry.gateways (n - 1)).address with hkl
  have hl : gl.registryIndex = n - 1 := h.index_eq (by omega) hgl
  have hne : kl ≠ k := by
    intro heq
    rw [heq, hg] at hgl
    rw [← Option.some.inj hgl] at hl
    exact hlast hl
  have hcount : s'.registry.count = n - 1 := by rw [hr]; rfl
  have hslot : ∀ i, i ≠ n - 1 → i ≠ g.registryIndex →
      s'.registry.gateways i = s.registry.gateways i := by
    intro i h1 h2
    rw [hr]
    simp [GatewayRegistry.dropLast, GatewayRegistry.setSlot, ← hn, h1, h2]
  have hfreed : s'.registry.gateways g.registryIndex = s.registry.gateways (n - 1) := by
    rw [hr]
    simp [GatewayRegistry.dropLast, GatewayRegistry.setSlot, ← hn, hlast]
  have hold : ∀ i x, i ≠ kl → s'.gateways i = some x → i ≠ k ∧ s.gateways i = some x ∧
      x.registryIndex < n - 1 ∧ x.registryIndex ≠ g.registryIndex := by
    intro i x hil hx
    have hi : i ≠ k := by rintro rfl; simp [hG] at hx
    have hx' : s.gateways i = some x := by simpa [hG, hi, hil] using hx
    have h1 := (h.index i x hx').1
    have h2 := h.index_ne hg hx' hi
    have h3 := h.index_ne hgl hx' hil
    exact ⟨hi, hx', by omega, h2⟩
  have hnew : ∀ x, s'.gateways kl = some x →
      x = { gl with registryIndex := g.registryIndex } := by
    intro x hx
    simpa [hG, hne, eq_comm] using hx
  refine ⟨by have := h.count_le; omega, ?_, ?_, ?_, ?_, ?_, ?_⟩
  · intro i x hx
    by_cases hi : i = kl
    · subst hi
      have := h.operator _ _ hgl
      rw [hnew x hx]
      exact this
    · exact h.operator i x (hold i x hi hx).2.1
  · intro i x hx
    by_cases hi : i = kl
    · subst hi
      rw [hnew x hx, hcount]
      exact ⟨by simp only; omega, by simp only [hfreed]; rfl⟩
    · obtain ⟨-, hx', h1, h2⟩ := hold i x hi hx
      rw [hcount, hslot _ h1.ne h2]
      exact ⟨h1, (h.index i x hx').2⟩
  · intro i x hx
    by_cases hi : i = kl
    · subst hi
      rw [hnew x hx]
      simp only [hfreed]
      have := h.status _ _ hgl
      rwa [hl] at this
    · obtain ⟨-, hx', h1, h2⟩ := hold i x hi hx
      rw [hslot _ h1.ne h2]
      exact h.status i x hx'
  · intro i x hx
    by_cases hi : i = kl
    · subst hi; exact h.nonzero _ _ hgl
    · exact h.nonzero i x (hold i x hi hx).2.1
  · intro i hi
    rw [hcount] at hi
    by_cases hig : i = g.registryIndex
    · subst hig
      rw [hfreed]
      refine ⟨{ gl with registryIndex := g.registryIndex }, ?_, rfl⟩
      rw [hG, ← hkl, Function.update_of_ne hne]
      exact Function.update_self ..
    · obtain ⟨x, hx, hxi⟩ := h.filled i (by omega)
      rw [hslot _ hi.ne hig]
      have h1 : (s.registry.gateways i).address ≠ k := by
        intro heq
        rw [heq, hg] at hx
        rw [← Option.some.inj hx] at hxi
        exact hig hxi.symm
      have h2 : (s.registry.gateways i).address ≠ kl := by
        intro heq
        rw [heq, hgl] at hx
        rw [← Option.some.inj hx, hl] at hxi
        omega
      exact ⟨x, by simpa [hG, h1, h2] using hx, hxi⟩
  · intro i hi
    rw [hcount] at hi
    by_cases hin : i = n - 1
    · rw [hr, hin]; simp [GatewayRegistry.dropLast, GatewayRegistry.setSlot, ← hn]
    · rw [hslot _ hin (by omega)]; exact h.zeroed i (by omega)

/-- The freed slot is filled with the last one. -/
theorem finalize (h : Registered s) (hg : s.gateways k = some g) {s₁ : State}
    (hmove : moveLastSlot g.registryIndex remaining s = .ok s₁)
    (hG : s'.gateways = Function.update s₁.gateways k none)
    (hr : s'.registry = s₁.registry.dropLast) : Registered s' := by
  rcases moveLastSlot_ok hmove with ⟨hlast, rfl⟩ | ⟨gl, hlast, hgl, rfl⟩
  · exact h.finalize_last hg hlast hG hr
  · exact h.finalize_moved hg hlast hgl hG hr

end Registered

end Gar
end ArioSolana
