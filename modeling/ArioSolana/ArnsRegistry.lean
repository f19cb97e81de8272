import Mathlib.Logic.Function.Basic
import ArioSolana.ArnsHistory
import ArioSolana.GarProgram

/-!
# The registry of names

One account lists the hashes of all live names: a header with their count, and slots behind it. The
capacity is read off the length of the account, which grows call by call. A new name goes behind the
last one, and the last one takes the place of a name that is removed.
-/

namespace ArioSolana
namespace Arns

open Checked Solana

/-! ### Errors -/

/-- How a call of the name program ends badly. -/
inductive NameError where
  | invalidNameFormat
  | nameStillActive
  | alreadyPermanent
  | invalidLeaseDuration
  | cannotExtendPermanent
  | extensionExceedsMax
  | inGracePeriod
  | recordExpired
  | invalidUndernameQuantity
  | cannotReleaseLease
  | auctionActive
  | nameReserved
  | reservationNotExpired
  | notAntHolder
  | unauthorized
  | registryFull
  | nameRegistryAlreadyExists
  | arithmeticOverflow
  | arithmeticUnderflow
  | gatewayNotActive
  | notGatewayOperator
  | invalidGatewayProgram
  | invalidTreasury
  | invalidParameter
  | invalidAntAsset
  | migrationAlreadyFinalized
  | undernameLimitExceeded
  /-- the account does not exist, or is not of the expected type -/
  | accountNotInitialized
  /-- an account to be created exists already -/
  | accountAlreadyInUse
  | constraintRaw
  | constraintSeeds
  /-- the program stops without an error of its own -/
  | panicked
  | gar (e : Gar.GarError)
  | spl (e : SplError)
deriving DecidableEq

/-! ### The account -/

/-- Entry in the name registry for enumeration. -/
structure NameEntry where
  nameHash : Bytes32
  registryIndex : ℕ
deriving DecidableEq

/-- What an unused slot holds. -/
def NameEntry.default : NameEntry := ⟨Vector.replicate 32 0, 0⟩

/-- Global name registry for efficient enumeration. -/
structure NameRegistry where
  /-- the length of the account, 0 as long as there is none -/
  dataLen : ℕ
  /-- the discriminator was written -/
  created : Bool
  authority : Pubkey
  count : ℕ
  slots : ℕ → NameEntry

namespace NameRegistry

/-- What the address holds before the account is created. -/
def empty : NameRegistry := ⟨0, false, Pubkey.default, 0, fun _ => .default⟩

def headerBytes : ℕ := 48

def initialCapacity : ℕ := 50000

/-- 10 KiB, by which an account grows in one call. -/
def maxPermittedDataIncrease : ℕ := 10240

def bytesForCapacity (slots : ℕ) : ℕ := headerBytes + slots * 40

/-- The slots that fit in the account. -/
def slotCapacity (r : NameRegistry) : ℕ := (r.dataLen - headerBytes) / 40

def writeNameRegistryHeader (r : NameRegistry) (authority : Pubkey) : NameRegistry :=
  { r with created := true, authority }

/-- Create the account, 10 KiB in a call, and write its header when it has its length. -/
def create (r : NameRegistry) (authority : Pubkey) : Except NameError NameRegistry :=
  let target := bytesForCapacity initialCapacity
  if r.dataLen = target then do
    require (r.created = false) .nameRegistryAlreadyExists
    return r.writeNameRegistryHeader authority
  else do
    require (r.dataLen < target) .nameRegistryAlreadyExists
    let nextLen := min (r.dataLen + maxPermittedDataIncrease) target
    let grown := { r with dataLen := nextLen }
    return if nextLen = target then grown.writeNameRegistryHeader authority else grown

/-- Make the account longer, 10 KiB in a call. -/
def expand (r : NameRegistry) (targetCapacity : ℕ) : Except NameError NameRegistry :=
  let target := bytesForCapacity targetCapacity
  if target ≤ r.dataLen then return r
  else do
    -- the runtime refuses to resize an account that is not the program's
    require (0 < r.dataLen) .constraintRaw
    return { r with dataLen := min (r.dataLen + maxPermittedDataIncrease) target }

/-- Append an entry behind the last one. -/
def appendNameEntry (r : NameRegistry) (entry : NameEntry) : Except NameError NameRegistry := do
  -- reading the header of a shorter account is out of range
  require (headerBytes ≤ r.dataLen) .panicked
  require (r.count < r.slotCapacity) .registryFull
  let newCount ← okOr (checkedAdd 32 r.count 1) .arithmeticOverflow
  return { r with count := newCount, slots := Function.update r.slots r.count entry }

/-- The first of the entries with a hash. -/
def indexOf (r : NameRegistry) (count : ℕ) (nameHash : Bytes32) : Option ℕ :=
  (List.range count).find? fun j => (r.slots j).nameHash = nameHash

/-- Remove the entry with a hash: the last one moves to its place. Nothing happens if there is none.
-/
def removeNameEntryByHash (r : NameRegistry) (nameHash : Bytes32) :
    Except NameError NameRegistry := do
  require (headerBytes ≤ r.dataLen) .panicked
  let count := min r.count r.slotCapacity
  return match r.indexOf count nameHash with
  | none => r
  | some idx =>
    let last := count - 1
    let slots := if idx ≠ last then
        Function.update r.slots idx { r.slots last with registryIndex := idx }
      else r.slots
    { r with count := last, slots := Function.update slots last .default }

/-- **The registry lists exactly these hashes**, each once and under its own position. -/
structure Lists (r : NameRegistry) (live : Bytes32 → Prop) : Prop where
  count_le : r.count ≤ r.slotCapacity
  index : ∀ i < r.count, (r.slots i).registryIndex = i
  distinct : ∀ i < r.count, ∀ j < r.count, (r.slots i).nameHash = (r.slots j).nameHash → i = j
  mem : ∀ hash, live hash ↔ ∃ i < r.count, (r.slots i).nameHash = hash
  unused : ∀ i, r.count ≤ i → r.slots i = .default

section

variable {r r' : NameRegistry} {live : Bytes32 → Prop} {hash : Bytes32} {authority : Pubkey}
  {count idx capacity : ℕ} {entry : NameEntry}

lemma empty_lists : empty.Lists fun _ => False where
  count_le := Nat.zero_le _
  index := by simp [empty]
  distinct := by simp [empty]
  mem := by simp [empty]
  unused _ _ := rfl

/-! ### Growth -/

/-- The account was made longer, and its entries are as before. -/
structure Grown (r r' : NameRegistry) : Prop where
  count : r'.count = r.count
  slots : r'.slots = r.slots
  dataLen : r.dataLen ≤ r'.dataLen

lemma Grown.lists (h : Grown r r') (hl : r.Lists live) : r'.Lists live where
  count_le := by
    have hcap : r.slotCapacity ≤ r'.slotCapacity :=
      Nat.div_le_div_right (Nat.sub_le_sub_right h.dataLen _)
    exact h.count.le.trans (hl.count_le.trans hcap)
  index := by simpa only [h.count, h.slots] using hl.index
  distinct := by simpa only [h.count, h.slots] using hl.distinct
  mem := by simpa only [h.count, h.slots] using hl.mem
  unused := by simpa only [h.count, h.slots] using hl.unused

lemma create_grown (h : r.create authority = .ok r') : Grown r r' := by
  unfold create at h
  dsimp only at h
  generalize bytesForCapacity initialCapacity = target at h
  split at h
  · simp only [bind_eq_ok, require_eq_ok, exists_const, pure_eq_ok] at h
    obtain ⟨-, rfl⟩ := h
    exact ⟨rfl, rfl, le_rfl⟩
  · simp only [bind_eq_ok, require_eq_ok, exists_const, pure_eq_ok] at h
    obtain ⟨hlt, rfl⟩ := h
    have hlen : r.dataLen ≤ min (r.dataLen + maxPermittedDataIncrease) target :=
      le_min (Nat.le_add_right _ _) hlt.le
    split
    · exact ⟨rfl, rfl, hlen⟩
    · exact ⟨rfl, rfl, hlen⟩

lemma expand_grown (h : r.expand capacity = .ok r') : Grown r r' := by
  unfold expand at h
  dsimp only at h
  split at h
  · obtain rfl := pure_eq_ok.mp h
    exact ⟨rfl, rfl, le_rfl⟩
  · rename_i hlt
    simp only [bind_eq_ok, require_eq_ok, exists_const, pure_eq_ok] at h
    obtain ⟨-, rfl⟩ := h
    exact ⟨rfl, rfl, le_min (Nat.le_add_right _ _) (Nat.le_of_not_le hlt)⟩

/-! ### A new name -/

lemma appendNameEntry_ok (h : r.appendNameEntry entry = .ok r') : r.count < r.slotCapacity ∧
    r'.count = r.count + 1 ∧ r'.slots = Function.update r.slots r.count entry ∧
    r'.slotCapacity = r.slotCapacity := by
  simp only [appendNameEntry, bind_eq_ok, require_eq_ok, exists_const, okOr_eq_ok,
    checkedAdd_eq_some, pure_eq_ok] at h
  obtain ⟨-, hlt, _, ⟨-, rfl⟩, rfl⟩ := h
  exact ⟨hlt, rfl, rfl, rfl⟩

/-- **A new name is listed behind the others.** -/
theorem Lists.append (hl : r.Lists live) (hnew : ¬ live hash)
    (h : r.appendNameEntry ⟨hash, r.count⟩ = .ok r') :
    (r'.Lists fun k => k = hash ∨ live k) ∧ r'.count = r.count + 1 := by
  obtain ⟨hlt, hcount, hslots, hcap⟩ := appendNameEntry_ok h
  have hold : ∀ i < r.count, (r.slots i).nameHash ≠ hash :=
    fun i hi heq => hnew ((hl.mem hash).mpr ⟨i, hi, heq⟩)
  have hat : ∀ i, i ≠ r.count → r'.slots i = r.slots i := by
    intro i hi
    rw [hslots, Function.update_of_ne hi]
  have hend : r'.slots r.count = ⟨hash, r.count⟩ := by rw [hslots, Function.update_self]
  refine ⟨⟨by omega, ?_, ?_, fun k => ?_, fun i hi => ?_⟩, hcount⟩
  · intro i hi
    by_cases heq : i = r.count
    · rw [heq, hend]
    · rw [hat i heq]
      exact hl.index i (by omega)
  · intro i hi j hj heq
    by_cases hi' : i = r.count <;> by_cases hj' : j = r.count
    · rw [hi', hj']
    · rw [hi', hend, hat j hj'] at heq
      exact absurd heq.symm (hold j (by omega))
    · rw [hj', hend, hat i hi'] at heq
      exact absurd heq (hold i (by omega))
    · rw [hat i hi', hat j hj'] at heq
      exact hl.distinct i (by omega) j (by omega) heq
  · rw [hcount]
    constructor
    · rintro (rfl | hlive)
      · exact ⟨r.count, Nat.lt_succ_self _, by rw [hend]⟩
      · obtain ⟨i, hi, hk⟩ := (hl.mem k).mp hlive
        exact ⟨i, Nat.lt_succ_of_lt hi, by rw [hat i hi.ne, hk]⟩
    · rintro ⟨i, hi, hk⟩
      by_cases heq : i = r.count
      · rw [heq, hend] at hk
        exact .inl hk.symm
      · rw [hat i heq] at hk
        exact .inr ((hl.mem k).mpr ⟨i, by omega, hk⟩)
  · rw [hat i (by omega)]
    exact hl.unused i (by omega)

/-! ### A name removed -/

lemma indexOf_some (h : r.indexOf count hash = some idx) :
    idx < count ∧ (r.slots idx).nameHash = hash := by
  have hat := List.find?_some h
  exact ⟨List.mem_range.mp (List.mem_of_find?_eq_some h), by simpa using hat⟩

lemma indexOf_none (h : r.indexOf count hash = none) :
    ∀ i < count, (r.slots i).nameHash ≠ hash := by
  intro i hi
  have hat := List.find?_eq_none.mp h i (List.mem_range.mpr hi)
  simpa using hat

/-- **A removed name is listed no more, and the others still are.** -/
theorem Lists.remove (hl : r.Lists live) (hlive : live hash)
    (h : r.removeNameEntryByHash hash = .ok r') :
    (r'.Lists fun k => k ≠ hash ∧ live k) ∧ r'.count + 1 = r.count := by
  simp only [removeNameEntryByHash, bind_eq_ok, require_eq_ok, exists_const, pure_eq_ok,
    Nat.min_eq_left hl.count_le] at h
  obtain ⟨-, h⟩ := h
  obtain ⟨i₀, hi₀, hat₀⟩ := (hl.mem hash).mp hlive
  cases hidx : r.indexOf r.count hash with
  | none => exact absurd hat₀ (indexOf_none hidx i₀ hi₀)
  | some idx =>
    rw [hidx] at h
    obtain ⟨hlt, hhash⟩ := indexOf_some hidx
    obtain ⟨last, hlast⟩ : ∃ last, r.count = last + 1 := ⟨r.count - 1, by omega⟩
    simp only [hlast, Nat.add_sub_cancel] at h
    rw [hlast] at hlt
    -- below the last slot only the freed one is written, with the last entry
    have hslots : ∀ i < last, r'.slots i
        = if i = idx then { r.slots last with registryIndex := idx } else r.slots i := by
      intro i hi
      subst h
      change Function.update (if idx ≠ last then _ else _) last _ i = _
      rw [Function.update_of_ne hi.ne]
      by_cases hne : idx = last
      · rw [if_neg (not_not.mpr hne), if_neg (by omega)]
      · rw [if_pos hne]
        by_cases hi' : i = idx
        · rw [hi', Function.update_self, if_pos rfl]
        · rw [Function.update_of_ne hi', if_neg hi']
    have hcount : r'.count = last := by rw [← h]
    have hcap : r'.slotCapacity = r.slotCapacity := by rw [← h]; rfl
    -- the entry that ends up below the last slot comes from one place
    have hfrom : ∀ i < last, ∃ j < last + 1, j ≠ idx ∧ (i ≠ idx → j = i) ∧ (i = idx → j = last) ∧
        (r'.slots i).nameHash = (r.slots j).nameHash := by
      intro i hi
      by_cases hi' : i = idx
      · refine ⟨last, Nat.lt_succ_self _, by omega, fun hne => absurd hi' hne, fun _ => rfl, ?_⟩
        rw [hslots i hi, if_pos hi']
      · refine ⟨i, by omega, hi', fun _ => rfl, fun heq => absurd heq hi', ?_⟩
        rw [hslots i hi, if_neg hi']
    refine ⟨⟨?_, ?_, ?_, fun k => ?_, fun i hi => ?_⟩, by omega⟩
    · have hle := hl.count_le
      omega
    · intro i hi
      rw [hcount] at hi
      rw [hslots i hi]
      split
      · rename_i heq
        exact heq.symm
      · exact hl.index i (by omega)
    · intro i hi j hj heq
      rw [hcount] at hi hj
      obtain ⟨i', hi', -, hne, hmoved, hfi⟩ := hfrom i hi
      obtain ⟨j', hj', -, hne', hmoved', hfj⟩ := hfrom j hj
      have hsame := hl.distinct i' (by omega) j' (by omega) (by rw [← hfi, ← hfj, heq])
      by_cases hiidx : i = idx <;> by_cases hjidx : j = idx
      · rw [hiidx, hjidx]
      · have := hmoved hiidx
        have := hne' hjidx
        omega
      · have := hne hiidx
        have := hmoved' hjidx
        omega
      · have := hne hiidx
        have := hne' hjidx
        omega
    · rw [hcount]
      constructor
      · rintro ⟨hne, hk⟩
        obtain ⟨j, hj, hjk⟩ := (hl.mem k).mp hk
        have hjidx : j ≠ idx := fun heq => hne (by rw [← hjk, heq, hhash])
        by_cases hj' : j = last
        · refine ⟨idx, by omega, ?_⟩
          rw [hslots idx (by omega), if_pos rfl, ← hjk, hj']
        · refine ⟨j, by omega, ?_⟩
          rw [hslots j (by omega), if_neg hjidx, hjk]
      · rintro ⟨i, hi, hik⟩
        obtain ⟨j, hj, hjidx, -, -, hfj⟩ := hfrom i hi
        have hjk : (r.slots j).nameHash = k := by rw [← hfj, hik]
        refine ⟨?_, (hl.mem k).mpr ⟨j, by omega, hjk⟩⟩
        rintro rfl
        exact hjidx (hl.distinct j (by omega) idx (by omega) (by rw [hjk, hhash]))
    · rw [hcount] at hi
      subst h
      change Function.update (if idx ≠ last then _ else _) last _ i = _
      by_cases hi' : i = last
      · rw [hi', Function.update_self]
      · rw [Function.update_of_ne hi']
        have hold := hl.unused i (by omega)
        by_cases hne : idx = last
        · rw [if_neg (not_not.mpr hne), hold]
        · rw [if_pos hne, Function.update_of_ne (by omega), hold]

end

end NameRegistry
end Arns
end ArioSolana
