import ArioSolana.GarPrescribe
import ArioSolana.Roulette

/-!
# The observer roulette

The observers of an epoch are drawn by a binary search on the prefix sums of the weights. The
linear walk that this replaced adds up the weights anew in each draw. Both select the same slots in
the same order.
-/

namespace ArioSolana
namespace Gar

open Checked Solana Roulette
open Borsh (leBytes)

/-! ### The linear walk -/

/-- The sum of the weights, in a word of 128 bits. -/
def liveTotal (weights : List ℕ) : ℕ := weights.foldl (saturatingAdd 128) 0

/-- The slot at which the sum from `cumulative` on first exceeds `randomValue`. -/
def rouletteWalk (randomValue : ℕ) : ℕ → List ℕ → Option ℕ
  | _, [] => none
  | cumulative, w :: weights =>
    let cumulative := saturatingAdd 128 cumulative w
    if randomValue < cumulative ∧ 0 < w then some 0
    else (rouletteWalk randomValue cumulative weights).map (· + 1)

def rouletteSelect (weights : List ℕ) (randomValue : ℕ) : Option ℕ :=
  rouletteWalk randomValue 0 weights

/-- The hash after `hash`. -/
def rehash (env : Env) (hash : Hash) : Hash := env.hash (leBytes 32 hash.val)

/-- The value that a hash draws: its first 16 bytes modulo the total. -/
def randomValue (total : ℕ) (hash : Hash) : ℕ := hash.val % 2 ^ 128 % total

/-- Selection by the linear walk. -/
def linearSelectIndices (env : Env) (hashchain : Hash) (weights : List ℕ) (maxObservers : ℕ) :
    List ℕ :=
  let total := liveTotal weights
  let cap := min maxObservers weights.length
  if total = 0 ∨ cap = 0 then []
  else draws (rehash env) (fun hash => rouletteSelect weights (randomValue total hash)) cap
    (cap * 10) (rehash env hashchain) []

/-! ### The binary search -/

/-- Selection by binary search on the prefix sums, with a flag for each slot. -/
def bisectSelectIndices (env : Env) (hashchain : Hash) (sums : List ℕ) (maxObservers : ℕ) :
    List ℕ :=
  let total := sums.getLastD 0
  let cap := min maxObservers sums.length
  if total = 0 ∨ cap = 0 then []
  else flaggedDraws (rehash env)
    (fun hash => partitionPoint (fun j => sums.getD j 0 ≤ randomValue total hash) sums.length) cap
    (cap * 10) (rehash env hashchain) (fun _ => false) []

section

variable {env : Env} {hashchain : Hash} {weights : List ℕ} {maxObservers total v : ℕ}

/-! ### Without overflow -/

lemma saturatingAdd_sum {ws : List ℕ} {acc : ℕ} (h : acc + ws.sum < 2 ^ 128) :
    ws.foldl (saturatingAdd 128) acc = acc + ws.sum := by
  induction ws generalizing acc with
  | nil => rfl
  | cons w ws ih =>
    rw [List.sum_cons] at h ⊢
    rw [List.foldl_cons, saturatingAdd_of_lt (by omega), ih (by omega), Nat.add_assoc]

lemma liveTotal_eq (h : weights.sum < 2 ^ 128) : liveTotal weights = weights.sum := by
  rw [liveTotal, saturatingAdd_sum (by omega), Nat.zero_add]

lemma rouletteWalk_eq {ws : List ℕ} {acc : ℕ} (h : acc + ws.sum < 2 ^ 128) :
    rouletteWalk v acc ws = sectorFrom v acc ws := by
  induction ws generalizing acc with
  | nil => rfl
  | cons w ws ih =>
    rw [List.sum_cons] at h
    simp only [rouletteWalk, sectorFrom]
    rw [saturatingAdd_of_lt (by omega), ih (by omega)]

/-! ### One draw -/

lemma exists_drawn (hsum : weights.sum < 2 ^ 64) (hpos : weights.sum ≠ 0) (hash : Hash) :
    ∃ i, sectorFrom (randomValue weights.sum hash) 0 weights = some i ∧
      rouletteSelect weights (randomValue weights.sum hash) = some i := by
  have hlt : randomValue weights.sum hash < weights.sum := Nat.mod_lt _ (Nat.pos_of_ne_zero hpos)
  have hzero : 0 + weights.sum > randomValue weights.sum hash := by omega
  obtain ⟨i, hi⟩ := exists_sector hzero (Nat.zero_le _)
  refine ⟨i, hi, ?_⟩
  rw [rouletteSelect, rouletteWalk_eq (by omega), hi]

lemma rouletteDraws_eq {sums : List ℕ} {cap rounds : ℕ} {hash : Hash} {selected : List ℕ} :
    rouletteDraws env sums total cap rounds hash selected
      = draws (rehash env) (fun hash => some (sums.findIdx (randomValue total hash < ·))) cap rounds
        hash selected := by
  induction rounds generalizing hash selected with
  | zero => rfl
  | succ rounds ih =>
    simp only [rouletteDraws, draws]
    split
    · rfl
    · exact ih

/-! ### The selections agree -/

lemma rouletteSelectIndices_eq (hsum : weights.sum < 2 ^ 64) :
    rouletteSelectIndices env hashchain (inclusiveSums weights) maxObservers
      = linearSelectIndices env hashchain weights maxObservers := by
  simp only [rouletteSelectIndices, linearSelectIndices, getLastD_inclusiveSums,
    length_inclusiveSums, liveTotal_eq (by omega : weights.sum < 2 ^ 128)]
  split
  · rfl
  · rename_i hnot
    rw [rouletteDraws_eq]
    refine draws_congr fun hash => ?_
    obtain ⟨i, hi, hwalk⟩ := exists_drawn hsum (fun h => hnot (.inl h)) hash
    rw [hwalk, findIdx_sector hi]

lemma bisectSelectIndices_eq (hsum : weights.sum < 2 ^ 64) :
    bisectSelectIndices env hashchain (inclusiveSums weights) maxObservers
      = linearSelectIndices env hashchain weights maxObservers := by
  simp only [bisectSelectIndices, linearSelectIndices, getLastD_inclusiveSums,
    liveTotal_eq (by omega : weights.sum < 2 ^ 128)]
  rw [length_inclusiveSums]
  split
  · rfl
  · rename_i hnot
    rw [flaggedDraws_eq (by simp)]
    refine draws_congr fun hash => ?_
    obtain ⟨i, hi, hwalk⟩ := exists_drawn hsum (fun h => hnot (.inl h)) hash
    have hpoint := partitionPoint_sector hi
    rw [length_inclusiveSums] at hpoint
    rw [hwalk, hpoint]

lemma prefixSums_eq {registry : GatewayRegistry} {n : ℕ}
    (hsum : ((List.range n).map fun i => (registry.gateways i).compositeWeight).sum < 2 ^ 64) :
    prefixSums registry n
      = .ok (inclusiveSums
          ((List.range n).map fun i => (registry.gateways i).compositeWeight)) := by
  induction n with
  | zero => rfl
  | succ n ih =>
    rw [List.range_succ, List.map_append, List.sum_append] at hsum
    simp only [List.map_cons, List.map_nil, List.sum_cons, List.sum_nil, Nat.add_zero] at hsum
    rw [prefixSums, ih (by omega)]
    simp only [ok_bind, getLastD_inclusiveSums, add64, checkedAdd, if_pos hsum]
    rw [okOr_some, ok_bind, List.range_succ, List.map_append, List.map_singleton,
      inclusiveSums_snoc]
    rfl

/-- What the linear walk selects: no slot twice, at most the quota, only slots with a weight. -/
lemma linearSelectIndices_spec (hsum : weights.sum < 2 ^ 64) :
    (linearSelectIndices env hashchain weights maxObservers).Nodup ∧
      (linearSelectIndices env hashchain weights maxObservers).length
        ≤ min maxObservers weights.length ∧
      ∀ i ∈ linearSelectIndices env hashchain weights maxObservers, 0 < weights.getD i 0 := by
  simp only [linearSelectIndices, liveTotal_eq (by omega : weights.sum < 2 ^ 128)]
  split
  · exact ⟨List.nodup_nil, Nat.zero_le _, by simp⟩
  · rename_i hnot
    refine ⟨draws_nodup List.nodup_nil, draws_length_le (Nat.zero_le _),
      mem_draws (fun hash i hpick => ?_) (by simp)⟩
    obtain ⟨j, hj, hwalk⟩ := exists_drawn hsum (fun h => hnot (.inl h)) hash
    rw [hwalk] at hpick
    obtain rfl := Option.some.inj hpick
    exact sector_pos hj

end

/-- **The fast roulette is the linear walk.** On the prefix sums that prescription builds, the
binary search with flags and the search from the left select what the linear walk selects, in its
order: no slot twice, at most the quota, and only slots with a weight. -/
theorem roulette_eq_linear (env : Env) (hashchain : Hash) (weights : List ℕ) (maxObservers : ℕ)
    (hsum : weights.sum < 2 ^ 64) :
    (∀ registry : GatewayRegistry,
      (List.range weights.length).map (fun i => (registry.gateways i).compositeWeight) = weights →
      prefixSums registry weights.length = .ok (inclusiveSums weights)) ∧
    bisectSelectIndices env hashchain (inclusiveSums weights) maxObservers
      = linearSelectIndices env hashchain weights maxObservers ∧
    rouletteSelectIndices env hashchain (inclusiveSums weights) maxObservers
      = linearSelectIndices env hashchain weights maxObservers ∧
    (linearSelectIndices env hashchain weights maxObservers).Nodup ∧
    (linearSelectIndices env hashchain weights maxObservers).length
      ≤ min maxObservers weights.length ∧
    ∀ i ∈ linearSelectIndices env hashchain weights maxObservers, 0 < weights.getD i 0 := by
  refine ⟨fun registry hregistry => ?_, bisectSelectIndices_eq hsum, rouletteSelectIndices_eq hsum,
    linearSelectIndices_spec hsum⟩
  have hprefix := prefixSums_eq (n := weights.length) (by rw [hregistry]; exact hsum)
  rwa [hregistry] at hprefix

namespace SmallWheel

/-- SHA-256 applied again and again, from the 32 bytes of 1723 on. -/
def chain : List ℕ :=
  [ 0x6bb,
    0x5b75ae5ce955e06de0e3772b96fc64e2aad360e82a7a25315f33f181a883fe1b,
    0x8b321a91d047c2b0b29391ff34203d2e4ce91a70ab3fc77053cc7acb04d73131,
    0x3c8ba3d65fac266c1aa3afcef0386962d455951ab93546481b078251e1d901da,
    0x874220b32c1019375b17c02abdb22229e488922ed6dfb1f5433f66a9900b24b5,
    0x1e42dbe04f29b6557beb4dd3d07b5e4110f8cc7fbe600403879f50a2036efbc,
    0x4c8546f2caaf6e9c927dbd0f2a4afd981494fc14eddecb09b0a64d32833b77cb,
    0xc0771c6ccace1cd22963191957891fcb769ca10695265d646501d088498a59f6,
    0xb5180f9ba71a8c247980932edd31ec227267e0a9c93b56a3a43ac4446a17f3f9,
    0x349c8799ebebfae143c21b1651e9f57f10436e717d0afc74e9a8f3d476c839a3,
    0x9fba63130266d60bc226b176696f716ab38fd8e03e29a577a4e0afa36d6e1a63,
    0xfd98c0055b5b539de713ef67371c89390fe586ac5e85b6e0b2220dc419bc44e1,
    0x7ce33a4b9cc4b861fee37ecf18b898eb928d2ce4f33781983cc4b9601032e3ac,
    0x37fd179d5fde6750eaf3670081ef455a2a1643e3969fe29d3f75768b5a187187,
    0x28b2ce3b2b11b177c4b0375e5af44939cfe6eca08509f6259f0935c6af6e2b86,
    0xa40bb61db90b1d394f407c361156db5257211bf12b616be9feefbb6028647d7e,
    0xe6420f18c52f56df0d6e85b55124f8f87b57f120d81db8b65e6a2797c3eada1f,
    0x907e66b98910e5c9d11cf7b7c21b8b88ef3e73b90f18f135933a268397b2e67d,
    0xe423767e9b28016eb967fd2f32742f8888ca1e68df8ea515db2282398f498229,
    0xbb6f5c8bb77814357a3591217f64b1e01275eb7b0103ca53a0d157df6a326cb,
    0x484c39e702bca7fd39e45d44f38eda93a33e27112f51a671a1abd7625564235c,
    0xa9eb0166aff34c18f5425e52c73cd3dc29b894b57548bc477588185f75d2d63a,
    0xcae206fa681f91ab5e7af4d56f972887517f2b79a031aa04de5db4677e4e928d,
    0xb2c28d7cac5dfb502b155e10182bf6945223ba826facd07ad454059bbddf19a6,
    0x230bf1c65b3c66f782b93b2ffabd9c9e632e63307ec9a0cf633b7f3fef44d084,
    0xf328bb2626ff8e280f69b2e82a72303674aaeed2451bbac697d4087d30334cee,
    0xe4922e55f9ae3a561eb983a9935097dc723ec818c8159065128377298ba2ce1b,
    0xf22bcb5fee0e1e62641af235699b152f3f4d81524e76c7b076f200cfcf9eb332,
    0x900b4f98ee2b07d721facb80009012930d31ee2e1b208a6bb5da43713da7e963,
    0x98b5a76d66996adce0fdd3cd5f4d34d12259738c2574ca68267a536dd0c99270,
    0x4110e00b6819ec05dd6f2e8edabc4b9a6c1a7cec54f269404db67635a97f1065,
    0x22a6223b9c79c7c0de9c6f2a8bcc9d20f5ca6eb9fd5d97bb7a72dad1b85a2c44,
    0x8bab960758e284d26cc1ab9269cf027f07e3d53a0c9813a443d71a7f5eb1c4b9,
    0x958ea4d346fe48a3ea075bce1cb2e8ddd25ab3c0fbb07f44501de0d16b0b1c92,
    0x60319bf597390ae2eff0b04e80d1b6a886eeaf8d1b6049a8df19c73a9aa8a800,
    0x75d6f9e7e6b968d8be7504b85fe233537935fe8683dff57c35a50069cc5cd00b,
    0x8a00bbe3de68ff35aa612c89150852f7c79598f368beb2afb4908af0e633f7d,
    0xf8adb1fe1234fb589a09ce80e57c052bfb13437f1701328373133d3fa1d81b89,
    0xc44328d4f118acfa2dbe2a03ba4cb2ca00dd48e825e976e4bf6a46288bbf64d8,
    0x164e18a23c0f9479f9e1f0e275eab37006958e95b2f876907e5f82835e07fe17,
    0x90fe99ac2025b14294a50d1e453762915f1387a0b5ba6dbdfb78d5071c611c27,
    0xc72ba6332224dc17f7b8f312fadc6738cefb94af1d19ebdc46902030af8aecd2,
    0xbdf4bda2fef0b1c8463feeb3ebcda66ccdcb1fe7a98341f1404815729e348409,
    0xe309467a6e10a3b22a37dc12e03edec2dcdb91288f259ad9df590e499286b69,
    0xf1701dd144b0477c08fcacc9cc3a8260e819d6914118327288dc56bc08eb74b2,
    0x9dee7c9e2b11dc3d4a342bbef002d28f1bc5e6fddee1da2fc66d9786ebc6ac3b,
    0x77868c465398ad685f581e8aedae3bd65e947a30b588e9628a1b94ba80bdee1,
    0xab0a0e6bd2b89af56aa23d076480ae4956353d43513117de5fe6af86bad2c900,
    0xb6eb9d03b6702b519eb036dbbea5b34ec943f6286c96c27556a6b8a2dcc2ef00,
    0x701db312bfe94c3c8c64bfa7694b3fd169a2de58bea90e904ba832b42be785dc,
    0xeb165a131d7c3898b28afa3fb48ade2900aff51c0b2e168510a023afd0898cae,
    0x6d24f351ead8eb9833f953d7e7c09a5b8044ca7e8f8024ee3d197d3b78352906]

/-- The hash is SHA-256 on the chain. -/
def env : Env :=
  ⟨⟨1⟩, ⟨2⟩, ⟨3⟩, some ⟨3⟩, id,
    fun bytes => Fin.ofNat (2 ^ 256) (chain.getD (chain.idxOf (leNat bytes) + 1) 0)⟩

/-- Two slots with a weight and two without. -/
def weights : List ℕ := [0, 50, 0, 25]

/-- The registry with these weights. -/
def registry (weights : List ℕ) : GatewayRegistry where
  count := weights.length
  gateways i := ⟨⟨Fin.ofNat (2 ^ 256) (i + 1)⟩, weights.getD i 0, 0, 0, 0⟩

end SmallWheel

open SmallWheel in
theorem roulette_eq_linear_small :
    prefixSums (registry weights) 4 = .ok (inclusiveSums weights) ∧
    bisectSelectIndices env 1723 (inclusiveSums weights) 2
      = linearSelectIndices env 1723 weights 2 :=
  have h := roulette_eq_linear env 1723 weights 2 (by decide)
  ⟨h.1 (registry weights) (by decide), h.2.1⟩

end Gar
end ArioSolana
