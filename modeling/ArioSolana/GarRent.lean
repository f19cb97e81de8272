import ArioSolana.GarDisable

/-!
# Closing an epoch out

Each report of an epoch is an account of its own, whose rent comes back when it is closed. The epoch
counts the reports and the closed ones, and goes last. Its rent, and the rent of each report, have
one owner each, recorded when the account was made. -/

namespace ArioSolana
namespace Gar

open Checked Solana Finset

/-! ### Lamports -/

/-- The lamports of all accounts. -/
abbrev Lamports := Address → ℕ

/-- Drain an account into another one. -/
def closeAccountTo (account destination : Address) (lamports : Lamports) :
    Except GarError Lamports := do
  let refund := lamports account
  let sum ← add64 (lamports destination) refund
  return Function.update (Function.update lamports destination sum) account 0

/-- The lamports after `close_epoch`. -/
def closeEpochLamports (index : ℕ) (payer : Pubkey) (remaining : List AccountMeta) (s : State)
    (lamports : Lamports) : Except GarError Lamports := do
  let epoch ← loadEpoch s index
  if epoch.hasRentReceipt ≠ 0 then
    let receiptInfo ← okOr remaining[0]? .missingEpochRentReceipt
    let creatorInfo ← okOr remaining[1]? .missingEpochRentReceipt
    let lamports ← closeAccountTo (.epoch index) creatorInfo.address lamports
    closeAccountTo receiptInfo.address creatorInfo.address lamports
  else
    closeAccountTo (.epoch index) (.other payer) lamports

/-- Close an epoch, signed by `payer`. -/
def closeEpochWithRent (index : ℕ) (payer : Pubkey) (remaining : List AccountMeta)
    (x : State × Lamports) : Except GarError (State × Lamports) := do
  let s ← closeEpoch index remaining x.1
  let lamports ← closeEpochLamports index payer remaining x.1 x.2
  return (s, lamports)

/-- Close an observation, with the account `refunded` for its rent. The caller who signs is not
looked at. -/
def closeObservationWithRent (index : ℕ) (observer refunded _caller : Pubkey)
    (x : State × Lamports) : Except GarError (State × Lamports) := do
  let observation ← okOr (x.1.observations (index, observer)) .accountNotInitialized
  require (refunded = observation.observer) .wrongObserverAccount
  let s ← closeObservation index observer x.1
  let lamports ← closeAccountTo (.observation index observer) (.other refunded) x.2
  return (s, lamports)

/-- The accounts were drained, `destination` has what they held, and nobody else gained or lost. -/
structure Refunded (accounts : List Address) (destination : Address) (before after : Lamports) :
    Prop where
  drained : ∀ a ∈ accounts, after a = 0
  paid : after destination = before destination + (accounts.map before).sum
  untouched : ∀ a ∉ accounts, a ≠ destination → after a = before a

section

variable {a b d : Address} {lamports lamports' lamports'' : Lamports}

lemma closeAccountTo_refunds (h : closeAccountTo a d lamports = .ok lamports') (hne : a ≠ d) :
    Refunded [a] d lamports lamports' := by
  simp only [closeAccountTo, bind_eq_ok, add64_eq_ok, pure_eq_ok] at h
  obtain ⟨_, ⟨-, rfl⟩, rfl⟩ := h
  refine ⟨fun c hc => ?_, ?_, fun c hc hd => ?_⟩
  · rw [List.mem_singleton.mp hc, Function.update_self]
  · rw [Function.update_of_ne hne.symm, Function.update_self]
    simp
  · rw [Function.update_of_ne (by simpa using hc), Function.update_of_ne hd]

lemma Refunded.append {as bs : List Address} (h : Refunded as d lamports lamports')
    (h' : Refunded bs d lamports' lamports'') (hd : d ∉ as ++ bs) (hdisj : as.Disjoint bs) :
    Refunded (as ++ bs) d lamports lamports'' := by
  have hda : d ∉ as := fun hd' => hd (List.mem_append_left _ hd')
  have hdb : d ∉ bs := fun hd' => hd (List.mem_append_right _ hd')
  have hsame : bs.map lamports' = bs.map lamports :=
    List.map_congr_left fun c hc => h.untouched c (fun hca => hdisj hca hc)
      (ne_of_mem_of_not_mem hc hdb)
  refine ⟨fun c hc => ?_, ?_, fun c hc hcd => ?_⟩
  · by_cases hcb : c ∈ bs
    · exact h'.drained c hcb
    · have hca := (List.mem_append.mp hc).resolve_right hcb
      rw [h'.untouched c hcb (ne_of_mem_of_not_mem hca hda), h.drained c hca]
  · rw [h'.paid, h.paid, hsame, List.map_append, List.sum_append, Nat.add_assoc]
  · rw [h'.untouched c (fun hcb => hc (List.mem_append_right _ hcb)) hcd,
      h.untouched c (fun hca => hc (List.mem_append_left _ hca)) hcd]

end

/-! ### The observations of an epoch -/

/-- The observers whose report on an epoch still has an account. -/
@[irreducible] def State.observers (s : State) (index : ℕ) : Finset Pubkey :=
  univ.filter fun u => (s.observations (index, u)).isSome

/-- The counters of an epoch, the accounts of its reports, and how far the epoch has come. -/
structure Epoch.BooksAt (epoch : Epoch) (index : ℕ) (observers : Finset Pubkey) (now : ℤ) :
    Prop where
  key : epoch.epochIndex = index
  balance : epoch.observationsClosed + observers.card = epoch.observationsSubmitted
  prescribed : observers ⊆ (range epoch.observerCount).image epoch.prescribedObservers
  seats : epoch.observerCount ≤ 50
  small : epoch.observationsSubmitted ≤ 50
  unprescribed : epoch.prescriptionsDone = 0 → epoch.observationsSubmitted = 0
  undistributed : epoch.rewardsDistributed = 0 → epoch.observationsClosed = 0
  ended : epoch.rewardsDistributed ≠ 0 → epoch.endTimestamp ≤ now

/-- An epoch that is gone leaves no reports behind. -/
structure Closeout (index : ℕ) (now : ℤ) (s : State) : Prop where
  gone : s.epochs index = none → s.observers index = ∅
  books : ∀ epoch, s.epochs index = some epoch → epoch.BooksAt index (s.observers index) now

/-- The authority writes an epoch off. -/
def Instruction.WritesOff (index : ℕ) : Instruction → Prop
  | .adminCloseStaleEpoch _ n => n = index
  | _ => False

section

variable {env : Env} {s s' s₀ : State} {index n : ℕ} {now now' : ℤ} {epoch epoch' : Epoch}
  {observers : Finset Pubkey} {u k : Pubkey} {remaining : List AccountMeta} {i : Instruction}
  {clock : Clock} {tr : Trace} {e : Event}

@[simp] lemma mem_observers : u ∈ s.observers index ↔ (s.observations (index, u)).isSome := by
  unfold State.observers
  rw [mem_filter, and_iff_right (mem_univ u)]

lemma observers_congr (h : ∀ u, s'.observations (index, u) = s.observations (index, u)) :
    s'.observers index = s.observers index := by
  ext u
  rw [mem_observers, mem_observers, h]

lemma Closeout.of_same (h : Closeout index now s) (hE : s'.epochs index = s.epochs index)
    (hO : ∀ u, s'.observations (index, u) = s.observations (index, u)) : Closeout index now s' := by
  refine ⟨fun hnone => ?_, fun epoch he => ?_⟩
  · rw [observers_congr hO]
    exact h.gone (hE ▸ hnone)
  · rw [observers_congr hO]
    exact h.books epoch (hE ▸ he)

lemma Closeout.mono (h : Closeout index now s) (hle : now ≤ now') : Closeout index now' s where
  gone := h.gone
  books epoch he :=
    { h.books epoch he with ended := fun hd => ((h.books epoch he).ended hd).trans hle }

lemma Closeout.write (hE : s'.epochs = Function.update s.epochs index (some epoch'))
    (hO : s'.observers index = observers) (hbooks : epoch'.BooksAt index observers now) :
    Closeout index now s' := by
  refine ⟨fun hnone => ?_, fun epoch he => ?_⟩
  · rw [hE, Function.update_self] at hnone
    cases hnone
  · rw [hE, Function.update_self] at he
    obtain rfl := Option.some.inj he
    rw [hO]
    exact hbooks

lemma Closeout.update (hE : s'.epochs = Function.update s.epochs index (some epoch'))
    (hO : s'.observations = s.observations) (hbooks : epoch'.BooksAt index (s.observers index)
      now) :
    Closeout index now s' :=
  .write hE (observers_congr fun u => by rw [hO]) hbooks

lemma Closeout.remove (hE : s'.epochs = Function.update s.epochs index none)
    (hO : s'.observations = s.observations) (hempty : s.observers index = ∅) :
    Closeout index now s' := by
  have hsame : s'.observers index = s.observers index := observers_congr fun u => by rw [hO]
  refine ⟨fun _ => hsame.trans hempty, fun epoch he => ?_⟩
  rw [hE, Function.update_self] at he
  cases he

lemma Closeout.elsewhere {x : Option Epoch} (h : Closeout index now s) (hn : n ≠ index)
    (hE : s'.epochs = Function.update s.epochs n x) (hO : s'.observations = s.observations) :
    Closeout index now s' :=
  h.of_same (by rw [hE, Function.update_of_ne hn.symm]) fun u => by rw [hO]

lemma position_some {array : ℕ → Pubkey} {idx : ℕ} (h : position array n k = some idx) :
    idx < n ∧ array idx = k := by
  have hmem := List.mem_of_find?_eq_some h
  have hfound := List.find?_some h
  exact ⟨List.mem_range.mp hmem, by simpa using hfound⟩

lemma setObserved_eq (epoch : Epoch) (idx : ℕ) :
    epoch.setObserved idx = { epoch with hasObserved := (epoch.setObserved idx).hasObserved } := by
  unfold Epoch.setObserved
  split <;> rfl

lemma card_le_seats (h : observers ⊆ (range epoch.observerCount).image epoch.prescribedObservers)
    (hseats : epoch.observerCount ≤ 50) : observers.card ≤ 50 :=
  calc observers.card ≤ ((range epoch.observerCount).image epoch.prescribedObservers).card :=
        card_le_card h
    _ ≤ (range epoch.observerCount).card := card_image_le
    _ ≤ 50 := by rw [card_range]; exact hseats

/-! ### The steps -/

lemma Closeout.create {payer account : Pubkey} (h : Closeout index now s)
    (hc : createEpoch env clock payer account remaining s = .ok s') : Closeout index now s' := by
  obtain ⟨settings, _, _, _, _, _, -, hnone, -, -, -, -, -, rfl⟩ := createEpoch_ok hc
  by_cases hn : settings.currentEpochIndex = index
  · subst hn
    refine .update rfl rfl ?_
    rw [h.gone hnone]
    exact ⟨rfl, rfl, empty_subset _, Nat.zero_le _, Nat.zero_le _, fun _ => rfl, fun _ => rfl,
      fun hd => absurd rfl hd⟩
  · exact h.elsewhere hn rfl rfl

lemma Closeout.tally (h : Closeout index now s)
    (ht : (Instruction.tallyWeights n remaining).handler env clock s = .ok s') :
    Closeout index now s' := by
  have hO := (handler_epochFrame id ht).1.observations
  obtain ⟨_, epoch, m, w, -, he, -, -, -, hE⟩ := tallyWeights_epochs ht
  by_cases hn : n = index
  · subst hn
    have hb := h.books epoch he
    exact .update hE hO { hb with }
  · exact h.elsewhere hn hE hO

lemma Closeout.prescribe {names : RawAccount} (h : Closeout index now s)
    (hp : prescribeEpoch env n remaining names s = .ok s') : Closeout index now s' := by
  obtain ⟨_, epoch, _, selected, observers, _, -, he, -, hundone, -, -, hsel, -, -, rfl⟩ :=
    prescribeEpoch_ok hp
  by_cases hn : n = index
  · subst hn
    have hb := h.books epoch he
    have hzero := hb.unprescribed hundone
    have hempty : s.observers n = ∅ := by
      have hcard : (s.observers n).card = 0 := by
        have hbal := hb.balance
        omega
      exact card_eq_zero.mp hcard
    refine .update rfl rfl { hb with
      prescribed := ?_
      seats := hsel
      unprescribed := fun hno => absurd hno one_ne_zero }
    rw [hempty]
    exact empty_subset _
  · exact h.elsewhere hn rfl rfl

lemma Closeout.distribute {t : ℤ} {p q : Pubkey} (h : Closeout index now s) (hle : now ≤ t)
    (hd : distributeEpoch env t n p q remaining s = .ok s') : Closeout index t s' := by
  obtain ⟨hframe, epoch, done, flag, he, hdone, hend, hopen, hE⟩ := distributeEpoch_written hd
  by_cases hn : n = index
  · subst hn
    have hb := (h.mono hle).books epoch he
    exact .update hE hframe.observations { hb with
      undistributed := fun _ => hb.undistributed hopen
      ended := fun _ => hend }
  · exact (h.mono hle).elsewhere hn hE hframe.observations

/-- A report is added. The epoch is not over, so nothing of it was distributed or closed yet. -/
lemma Closeout.save {t : ℤ} {results : BitVec 3000} {count : ℕ} {txId : Hash}
    (h : Closeout index now s) (hle : now ≤ t)
    (hs : saveObservations t u n results count txId s = .ok s') : Closeout index t s' := by
  obtain ⟨epoch, idx, x, he, hnone, hdone, -, hend, -, -, hpos, -, -, -, rfl⟩ :=
    saveObservations_ok hs
  rw [setObserved_eq]
  by_cases hn : n = index
  · subst hn
    have hb := h.books epoch he
    have hopen : epoch.rewardsDistributed = 0 := by
      by_contra hd
      have hover := hb.ended hd
      omega
    have hclosed := hb.undistributed hopen
    have hcount : epoch.observationsSubmitted = (s.observers n).card := by
      rw [← hb.balance, hclosed, Nat.zero_add]
    have hnew : u ∉ s.observers n := by
      rw [mem_observers, hnone]
      exact Bool.false_ne_true
    obtain ⟨hidx, hseat⟩ := position_some hpos
    have hprescribed : insert u (s.observers n)
        ⊆ (range epoch.observerCount).image epoch.prescribedObservers :=
      insert_subset (mem_image.mpr ⟨idx, mem_range.mpr hidx, hseat⟩) hb.prescribed
    have hcard := card_le_seats hprescribed hb.seats
    rw [card_insert_of_notMem hnew, ← hcount] at hcard
    have hsum : saturatingAdd 8 epoch.observationsSubmitted 1 = epoch.observationsSubmitted + 1 :=
      saturatingAdd_of_lt (by omega)
    refine .write rfl (?_ : _ = insert u (s.observers n)) { hb with
      balance := ?_
      prescribed := hprescribed
      small := by simp only [hsum]; exact hcard
      unprescribed := fun hno => absurd hno hdone
      ended := fun hd => absurd hopen hd }
    · ext v
      rw [mem_insert, mem_observers, mem_observers]
      by_cases hv : v = u
      · subst hv
        simp
      · simp [hv]
    · simp only [hsum, card_insert_of_notMem hnew]
      rw [← Nat.add_assoc, hb.balance]
  · refine (h.mono hle).of_same (Function.update_of_ne (Ne.symm hn) _ _) fun v => ?_
    exact Function.update_of_ne (by simp [Ne.symm hn]) _ _

lemma Closeout.closeReport (h : Closeout index now s)
    (hs : closeObservation n u s = .ok s') : Closeout index now s' := by
  obtain ⟨epoch, x, he, hx, hd, rfl⟩ := closeObservation_ok hs
  by_cases hn : n = index
  · subst hn
    have hb := h.books epoch he
    have hmem : u ∈ s.observers n := by
      rw [mem_observers, hx]
      rfl
    have hpos := card_pos.mpr ⟨u, hmem⟩
    have hbal := hb.balance
    have hsmall := hb.small
    have hsum : saturatingAdd 8 epoch.observationsClosed 1 = epoch.observationsClosed + 1 :=
      saturatingAdd_of_lt (by omega)
    refine .write rfl (?_ : _ = (s.observers n).erase u) { hb with
      balance := ?_
      prescribed := (erase_subset _ _).trans hb.prescribed
      undistributed := fun hno => absurd hno hd }
    · ext v
      rw [mem_erase, mem_observers, mem_observers]
      by_cases hv : v = u
      · subst hv
        simp
      · simp [hv]
    · simp only [hsum, card_erase_of_mem hmem]
      omega
  · refine h.of_same (Function.update_of_ne (Ne.symm hn) _ _) fun v => ?_
    exact Function.update_of_ne (by simp [Ne.symm hn]) _ _

lemma Closeout.close (h : Closeout index now s) (hs : closeEpoch n remaining s = .ok s') :
    (n = index → s.observers index = ∅) ∧ Closeout index now s' := by
  obtain ⟨_, epoch, _, -, he, -, -, hall, rfl⟩ := closeEpoch_ok hs
  by_cases hn : n = index
  · subst hn
    have hempty : s.observers n = ∅ := by
      have hbal := (h.books epoch he).balance
      exact card_eq_zero.mp (by omega)
    exact ⟨fun _ => hempty, .remove rfl rfl hempty⟩
  · exact ⟨fun hn' => absurd hn' hn, h.elsewhere hn rfl rfl⟩

/-- **One instruction.** -/
theorem handler_closeout (h : Closeout index now s) (hle : now ≤ clock.unixTimestamp)
    (hoff : ¬ i.WritesOff index) (hstep : i.handler env clock s = .ok s') :
    Closeout index clock.unixTimestamp s' := by
  have h' := h.mono hle
  by_cases hw : i.WritesEpoch
  · cases i <;> try exact hw.elim
    case createEpoch => exact h'.create hstep
    case tallyWeights => exact h'.tally hstep
    case prescribeEpoch => exact h'.prescribe hstep
    case saveObservations => exact h.save hle hstep
    case distributeEpoch => exact h.distribute hle hstep
    case closeObservation => exact h'.closeReport hstep
    case closeEpoch => exact (h'.close hstep).2
    case adminCloseStaleEpoch =>
      obtain ⟨_, -, -, -, rfl⟩ := adminCloseStaleEpoch_ok hstep
      exact h'.elsewhere hoff rfl rfl
  by_cases he : i.IsEpochOnly
  · obtain ⟨hE, hO, -⟩ := settings_frame he hw hstep
    exact h'.of_same (by rw [hE]) fun u => by rw [hO]
  · obtain ⟨hframe, hE⟩ := handler_epochFrame he hstep
    have hb : ¬ i.IsBatch := by
      intro hb
      cases i <;> first | exact hb.elim | exact hw trivial
    exact h'.of_same (by rw [hE hb]) fun u => by rw [hframe.observations]

lemma Fresh.observations (h : Fresh env s) : s.observations = fun _ => none := by
  obtain ⟨payer, mint, params, tokens, hinit⟩ := h.initialized
  simp only [initializeGar, bind_eq_ok, pure_eq_ok] at hinit
  obtain ⟨-, -, rfl⟩ := hinit
  rfl

theorem run_closeout (hfresh : Fresh env s₀) (run : Run (GarStep env) s₀ tr s) (htime : Timely tr)
    (hoff : tr.Avoids (·.WritesOff index)) (hnow : ∀ x ∈ tr, x.label.clock.unixTimestamp ≤ now) :
    Closeout index now s := by
  induction run generalizing now with
  | nil =>
    have hempty : s₀.observers index = ∅ := by
      ext u
      rw [mem_observers, hfresh.observations]
      simp
    refine ⟨fun _ => hempty, fun epoch he => ?_⟩
    rw [hfresh.epochs] at he
    cases he
  | cons run last ih =>
    have hbefore := ih (List.pairwise_cons.mp htime).2
      (fun x hx => hoff x (List.mem_cons_of_mem _ hx)) htime.le
    refine Closeout.mono ?_ (hnow _ List.mem_cons_self)
    rcases garStep_cases last with ⟨i, hi, -, h⟩ | ⟨t, rfl⟩
    · exact handler_closeout hbefore le_rfl
        (fun hw => hoff _ List.mem_cons_self ⟨i, hi, hw⟩) h
    · exact hbefore.of_same rfl fun _ => rfl

/-! ### Rent receipts -/

/-- The last step that made the account of the epoch was a `create_epoch` that `creator` paid. -/
def OpenedBy (index : ℕ) (creator : Pubkey) (tr : Trace) : Prop :=
  ∃ later x earlier, tr = later ++ x :: earlier ∧ x.before.epochs index = none ∧
    (∃ account remaining, x.label.action = .call (.createEpoch creator account remaining)) ∧
    ∀ y ∈ later, y.before.epochs index ≠ none

/-- Each epoch was there before, with the same index and the same flag. -/
def Descends (s s' : State) : Prop :=
  ∀ index epoch', s'.epochs index = some epoch' → ∃ epoch, s.epochs index = some epoch ∧
    epoch'.epochIndex = epoch.epochIndex ∧ epoch'.hasRentReceipt = epoch.hasRentReceipt

lemma Descends.of_eq (h : s'.epochs = s.epochs) : Descends s s' := by
  intro index epoch he
  exact ⟨epoch, h ▸ he, rfl, rfl⟩

lemma Descends.of_update (he : s.epochs n = some epoch)
    (hE : s'.epochs = Function.update s.epochs n (some epoch'))
    (hkey : epoch'.epochIndex = epoch.epochIndex)
    (hflag : epoch'.hasRentReceipt = epoch.hasRentReceipt) : Descends s s' := by
  intro index x hx
  rw [hE] at hx
  by_cases hn : index = n
  · subst hn
    rw [Function.update_self] at hx
    obtain rfl := Option.some.inj hx
    exact ⟨epoch, he, hkey, hflag⟩
  · rw [Function.update_of_ne hn] at hx
    exact ⟨x, hx, rfl, rfl⟩

lemma Descends.of_remove (hE : s'.epochs = Function.update s.epochs n none) : Descends s s' := by
  intro index x hx
  rw [hE] at hx
  by_cases hn : index = n
  · subst hn
    rw [Function.update_self] at hx
    cases hx
  · rw [Function.update_of_ne hn] at hx
    exact ⟨x, hx, rfl, rfl⟩

lemma handler_descends (hc : ¬ i.IsCreateEpoch) (h : i.handler env clock s = .ok s') :
    Descends s s' := by
  by_cases hw : i.WritesEpoch
  · cases i <;> try exact hw.elim
    case createEpoch => exact absurd trivial hc
    case tallyWeights =>
      obtain ⟨_, epoch, m, w, -, he, -, -, -, hE⟩ := tallyWeights_epochs h
      exact .of_update he hE rfl rfl
    case prescribeEpoch =>
      obtain ⟨_, epoch, _, _, _, _, -, he, -, -, -, -, -, -, -, rfl⟩ := prescribeEpoch_ok h
      exact .of_update he rfl rfl rfl
    case saveObservations =>
      obtain ⟨epoch, idx, x, he, -, -, -, -, -, -, -, -, -, -, rfl⟩ := saveObservations_ok h
      rw [setObserved_eq]
      exact .of_update he rfl rfl rfl
    case distributeEpoch =>
      obtain ⟨-, epoch, done, flag, he, -, -, -, hE⟩ := distributeEpoch_written h
      exact .of_update he hE rfl rfl
    case closeObservation =>
      obtain ⟨epoch, x, he, -, -, rfl⟩ := closeObservation_ok h
      exact .of_update he rfl rfl rfl
    case closeEpoch =>
      obtain ⟨_, _, _, -, -, -, -, -, rfl⟩ := closeEpoch_ok h
      exact .of_remove rfl
    case adminCloseStaleEpoch =>
      obtain ⟨_, -, -, -, rfl⟩ := adminCloseStaleEpoch_ok h
      exact .of_remove rfl
  by_cases he : i.IsEpochOnly
  · exact .of_eq (settings_frame he hw h).1
  · have hb : ¬ i.IsBatch := by
      intro hb
      cases i <;> first | exact hb.elim | exact hw trivial
    exact .of_eq ((handler_epochFrame he h).2 hb)

lemma createEpoch_receipt {payer account : Pubkey}
    (h : createEpoch env clock payer account remaining s = .ok s') :
    ∃ settings epoch, s.epochSettings = some settings ∧
      s.epochs settings.currentEpochIndex = none ∧
      s'.epochSettings = some { settings with
        currentEpochIndex := settings.currentEpochIndex + 1 } ∧
      s'.epochs = Function.update s.epochs settings.currentEpochIndex (some epoch) ∧
      epoch.epochIndex = settings.currentEpochIndex ∧
      (epoch.hasRentReceipt = 0 ∧ s'.epochRentReceipts = s.epochRentReceipts ∨
        s'.epochRentReceipts
          = Function.update s.epochRentReceipts settings.currentEpochIndex (some ⟨payer⟩)) := by
  simp only [createEpoch, bind_eq_ok, loadEpochSettings, okOr_eq_ok, requireAbsent_eq_ok,
    require_eq_ok, exists_const] at h
  obtain ⟨settings, hset, hnone, _, -, -, -, span, -, start, -, -, _, -, finish, -, h⟩ := h
  split at h
  · rename_i hreceipt
    simp only [bind_eq_ok, add64_eq_ok, pure_eq_ok] at h
    obtain ⟨s₁, rfl, _, ⟨-, rfl⟩, rfl⟩ := h
    refine ⟨settings, _, hset, hnone, rfl, rfl, rfl, .inl ⟨?_, rfl⟩⟩
    simp only [hreceipt, Option.isSome_none, Bool.false_eq_true, if_false]
  · simp only [bind_eq_ok, add64_eq_ok, require_eq_ok, pure_eq_ok, exists_const] at h
    obtain ⟨-, -, s₁, rfl, _, ⟨-, rfl⟩, rfl⟩ := h
    exact ⟨settings, _, hset, hnone, rfl, rfl, rfl, .inr rfl⟩

lemma closeEpoch_receipt (h : closeEpoch n remaining s = .ok s') :
    ∃ epoch, s.epochs n = some epoch ∧
      (epoch.hasRentReceipt = 0 ∧ s'.epochRentReceipts = s.epochRentReceipts ∨
        epoch.hasRentReceipt ≠ 0 ∧
        s'.epochRentReceipts = Function.update s.epochRentReceipts epoch.epochIndex none ∧
        ∃ receiptInfo creatorInfo receipt, remaining[0]? = some receiptInfo ∧
          remaining[1]? = some creatorInfo ∧
          receiptInfo.address = .epochRentReceipt epoch.epochIndex ∧
          s.epochRentReceipts epoch.epochIndex = some receipt ∧
          creatorInfo.address = .other receipt.creator) := by
  simp only [closeEpoch, bind_eq_ok, loadEpochSettings, loadEpoch, okOr_eq_ok, require_eq_ok,
    exists_const] at h
  obtain ⟨settings, -, epoch, he, -, -, -, h⟩ := h
  refine ⟨epoch, he, ?_⟩
  split at h
  · rename_i hflag
    simp only [bind_eq_ok, okOr_eq_ok, require_eq_ok, pure_eq_ok, exists_const] at h
    obtain ⟨receiptInfo, h0, creatorInfo, h1, -, haddr, receipt, hrec, hcreator, rfl⟩ := h
    exact .inr ⟨hflag, rfl, receiptInfo, creatorInfo, receipt, h0, h1, haddr, hrec, hcreator⟩
  · rename_i hflag
    obtain rfl := pure_eq_ok.mp h
    exact .inl ⟨not_not.mp hflag, rfl⟩

lemma handler_receipts (hK : Keyed s) (hc : ¬ i.IsCreateEpoch) (h : i.handler env clock s = .ok s')
    (hlive : s'.epochs index ≠ none) : s'.epochRentReceipts index = s.epochRentReceipts index := by
  by_cases hw : i.WritesEpoch
  · cases i <;> try exact hw.elim
    case createEpoch => exact absurd trivial hc
    case tallyWeights => rw [(handler_epochFrame id h).1.receipts]
    case distributeEpoch => rw [(distributeEpoch_written h).1.receipts]
    case prescribeEpoch =>
      obtain ⟨_, _, _, _, _, _, -, -, -, -, -, -, -, -, -, rfl⟩ := prescribeEpoch_ok h
      rfl
    case saveObservations =>
      obtain ⟨_, _, _, -, -, -, -, -, -, -, -, -, -, -, rfl⟩ := saveObservations_ok h
      rfl
    case closeObservation =>
      obtain ⟨_, _, -, -, -, rfl⟩ := closeObservation_ok h
      rfl
    case closeEpoch n remaining =>
      obtain ⟨epoch, he, ⟨-, hR⟩ | ⟨-, hR, -⟩⟩ := closeEpoch_receipt h
      · rw [hR]
      · rw [hR, hK n epoch he, Function.update_of_ne]
        rintro rfl
        obtain ⟨_, _, _, -, -, -, -, -, rfl⟩ := closeEpoch_ok h
        exact hlive (Function.update_self _ _ _)
    case adminCloseStaleEpoch =>
      obtain ⟨_, -, -, -, rfl⟩ := adminCloseStaleEpoch_ok h
      rfl
  by_cases he : i.IsEpochOnly
  · obtain ⟨hE, -, hR⟩ := settings_frame he hw h
    by_cases horphan : i.IsOrphanClose
    · cases i <;> try exact horphan.elim
      case adminCloseOrphanedEpochRentReceipt authority n =>
        simp only [Instruction.handler, adminCloseOrphanedEpochRentReceipt, bind_eq_ok,
          require_eq_ok, pure_eq_ok, exists_const] at h
        obtain ⟨_, -, hnone, _, -, rfl⟩ := h
        -- the receipt that was closed is the one of an epoch that is gone
        refine Function.update_of_ne ?_ _ _
        rintro rfl
        exact hlive (Option.isNone_iff_eq_none.mp hnone)
    · rw [hR horphan]
  · rw [(handler_epochFrame he h).1.receipts]

/-- The accounts of the epochs say their own index, and each flagged epoch has the receipt of
whoever paid for it. -/
structure Receipted (tr : Trace) (s : State) : Prop where
  keyed : Keyed s
  paid : ∀ index epoch, s.epochs index = some epoch → epoch.hasRentReceipt ≠ 0 →
    ∃ creator, s.epochRentReceipts index = some ⟨creator⟩ ∧ OpenedBy index creator tr

lemma Receipted.descends (h : Receipted tr s) (hdesc : Descends s s')
    (hR : ∀ index, s'.epochs index ≠ none → s'.epochRentReceipts index = s.epochRentReceipts
      index) :
    Receipted (⟨s, e, s'⟩ :: tr) s' := by
  refine ⟨fun index epoch' he' => ?_, fun index epoch' he' hflag => ?_⟩
  · obtain ⟨epoch, he, hkey, -⟩ := hdesc index epoch' he'
    rw [hkey, h.keyed index epoch he]
  · obtain ⟨epoch, he, -, hsame⟩ := hdesc index epoch' he'
    obtain ⟨creator, hcreator, later, x, earlier, rfl, hx, hcall, hlive⟩ :=
      h.paid index epoch he (hsame ▸ hflag)
    have hlive' : ∀ y ∈ ⟨s, e, s'⟩ :: later, y.before.epochs index ≠ none := by
      intro y hy
      rcases List.mem_cons.mp hy with rfl | hy
      · simp only [he]
        exact Option.some_ne_none _
      · exact hlive y hy
    refine ⟨creator, ?_, _ :: later, x, earlier, rfl, hx, hcall, hlive'⟩
    rw [hR index (by rw [he']; exact Option.some_ne_none _), hcreator]

lemma Receipted.create {payer account : Pubkey} (h : Receipted tr s)
    (hc : createEpoch env clock payer account remaining s = .ok s') :
    Receipted (⟨s, ⟨clock, .call (.createEpoch payer account remaining)⟩, s'⟩ :: tr) s' := by
  obtain ⟨settings, epoch, -, hnone, -, hE, hkey, hflag⟩ := createEpoch_receipt hc
  refine ⟨h.keyed.update hkey hE, fun index x hx hne => ?_⟩
  rw [hE] at hx
  by_cases hn : index = settings.currentEpochIndex
  · subst hn
    rw [Function.update_self] at hx
    obtain rfl := Option.some.inj hx
    rcases hflag with ⟨hzero, -⟩ | hR
    · exact absurd hzero hne
    · refine ⟨payer, by rw [hR, Function.update_self], [], _, tr, rfl, hnone,
        ⟨account, remaining, rfl⟩,
        fun y hy => ?_⟩
      cases hy
  · rw [Function.update_of_ne hn] at hx
    obtain ⟨creator, hcreator, later, y, earlier, rfl, hy, hcall, hlive⟩ := h.paid index x hx hne
    have hsame : s'.epochRentReceipts index = s.epochRentReceipts index := by
      rcases hflag with ⟨-, hR⟩ | hR
      · rw [hR]
      · rw [hR, Function.update_of_ne hn]
    refine ⟨creator, hsame.trans hcreator, _ :: later, y, earlier, rfl, hy, hcall, fun z hz => ?_⟩
    rcases List.mem_cons.mp hz with rfl | hz
    · simp only [hx]
      exact Option.some_ne_none _
    · exact hlive z hz

theorem run_receipted (hfresh : Fresh env s₀) (run : Run (GarStep env) s₀ tr s) :
    Receipted tr s := by
  induction run with
  | nil =>
    refine ⟨fun index epoch he => ?_, fun index epoch he => ?_⟩ <;>
    · rw [hfresh.epochs] at he
      cases he
  | @cons tr s e s' run last ih =>
    rcases garStep_cases last with ⟨i, hi, -, h⟩ | ⟨t, rfl⟩
    · by_cases hc : i.IsCreateEpoch
      · cases i <;> try exact hc.elim
        obtain ⟨clock, action⟩ := e
        obtain rfl : action = _ := hi
        exact ih.create h
      · exact ih.descends (handler_descends hc h) fun index => handler_receipts ih.keyed hc h
    · exact ih.descends (.of_eq rfl) fun _ _ => rfl

/-! ### The counter of epochs -/

/-- No counter is above the number, and no epoch has an index from the number on. -/
structure Numbered (bound : ℕ) (s : State) : Prop where
  counter : ∀ settings, s.epochSettings = some settings → settings.currentEpochIndex ≤ bound
  epochs : ∀ index, s.epochs index ≠ none → index < bound

lemma handler_counter {bound : ℕ} (hbound : 100000 ≤ bound) (h : Numbered bound s)
    (hstep : i.handler env clock s = .ok s') :
    ∀ settings, s'.epochSettings = some settings → settings.currentEpochIndex ≤ bound + 1 := by
  intro settings hs'
  by_cases hinit : i.IsInitializeEpochs
  · cases i <;> try exact hinit.elim
    simp only [Instruction.handler, initializeEpochs, bind_eq_ok, pure_eq_ok] at hstep
    obtain ⟨_, -, _, -, _, -, _, -, rfl⟩ := hstep
    obtain rfl := Option.some.inj hs'
    exact Nat.zero_le _
  by_cases hclose : i.IsCloseEpochSettings
  · cases i <;> try exact hclose.elim
    simp only [Instruction.handler, closeEpochSettings, bind_eq_ok, pure_eq_ok] at hstep
    obtain ⟨_, -, rfl⟩ := hstep
    cases hs'
  rcases handler_settings hinit hclose hstep with hsame | ⟨old, new, hold, hnew, hadj⟩
  · exact (h.counter settings (hsame ▸ hs')).trans (Nat.le_succ _)
  · obtain rfl := Option.some.inj (hnew.symm.trans hs')
    have hle := h.counter old hold
    rcases hadj.counter with hkept | ⟨-, hmove⟩ | ⟨-, hset⟩ <;> omega

lemma Numbered.step {bound : ℕ} (hbound : 100000 ≤ bound) (h : Numbered bound s)
    (hstep : i.handler env clock s = .ok s') : Numbered (bound + 1) s' := by
  refine ⟨handler_counter hbound h hstep, fun index hlive => ?_⟩
  by_cases hc : i.IsCreateEpoch
  · cases i <;> try exact hc.elim
    obtain ⟨settings, epoch, hs, -, -, hE, -, -⟩ := createEpoch_receipt hstep
    by_cases hn : index = settings.currentEpochIndex
    · rw [hn]
      exact Nat.lt_succ_of_le (h.counter settings hs)
    · rw [hE, Function.update_of_ne hn] at hlive
      exact (h.epochs index hlive).trans (Nat.lt_succ_self _)
  · obtain ⟨epoch', he'⟩ := Option.ne_none_iff_exists'.mp hlive
    obtain ⟨epoch, he, -, -⟩ := handler_descends hc hstep index epoch' he'
    exact (h.epochs index (by rw [he]; exact Option.some_ne_none _)).trans (Nat.lt_succ_self _)

lemma Fresh.epochSettings (h : Fresh env s) : s.epochSettings = none := by
  obtain ⟨payer, mint, params, tokens, hinit⟩ := h.initialized
  simp only [initializeGar, bind_eq_ok, pure_eq_ok] at hinit
  obtain ⟨-, -, rfl⟩ := hinit
  rfl

lemma run_numbered (hfresh : Fresh env s₀) (run : Run (GarStep env) s₀ tr s) :
    Numbered (100000 + tr.length) s := by
  induction run with
  | nil =>
    refine ⟨fun settings hs => ?_, fun index hlive => ?_⟩
    · rw [hfresh.epochSettings] at hs
      cases hs
    · rw [hfresh.epochs] at hlive
      exact absurd rfl hlive
  | cons run last ih =>
    rw [List.length_cons, ← Nat.add_assoc]
    rcases garStep_cases last with ⟨i, -, -, h⟩ | ⟨t, rfl⟩
    · exact ih.step (Nat.le_add_right _ _) h
    · exact ⟨fun settings hs => (ih.counter settings hs).trans (Nat.le_succ _),
        fun index hlive => (ih.epochs index hlive).trans (Nat.lt_succ_self _)⟩

/-! ### Closing out -/

/-- What holds after a history about closing epochs out, for all accounts that a caller may pass. -/
structure CloseoutRules (tr : Trace) (s : State) : Prop where
  counted : ∀ index epoch, tr.Avoids (·.WritesOff index) → s.epochs index = some epoch →
    epoch.observationsClosed + (s.observers index).card = epoch.observationsSubmitted
  epochs : ∀ index payer remaining lamports s' lamports',
    closeEpochWithRent index payer remaining (s, lamports) = .ok (s', lamports') →
    ∃ epoch settings, s.epochs index = some epoch ∧ s.epochSettings = some settings ∧
      epoch.rewardsDistributed ≠ 0 ∧
      (tr.Avoids (·.WritesOff index) → s.observers index = ∅) ∧
      (index + 7 ≤ settings.currentEpochIndex ∨ 2 ^ 64 ≤ tr.length + 100007) ∧
      (epoch.hasRentReceipt ≠ 0 → ∃ creator, OpenedBy index creator tr ∧
        Refunded [.epoch index, .epochRentReceipt index] (.other creator) lamports lamports')
  observations : ∀ index observer refunded caller lamports s' lamports',
    closeObservationWithRent index observer refunded caller (s, lamports) = .ok (s', lamports') →
    ∃ x, s.observations (index, observer) = some x ∧ x.observer = observer ∧
      Refunded [.observation index observer] (.other x.observer) lamports lamports'

lemma closeEpochWithRent_refunds {payer : Pubkey} {lamports lamports' : Lamports}
    (hrec : Receipted tr s) (he : s.epochs index = some epoch) (hflag : epoch.hasRentReceipt ≠ 0)
    (h : closeEpochWithRent index payer remaining (s, lamports) = .ok (s', lamports')) :
    ∃ creator, OpenedBy index creator tr ∧
      Refunded [.epoch index, .epochRentReceipt index] (.other creator) lamports lamports' := by
  simp only [closeEpochWithRent, bind_eq_ok, pure_eq_ok, Prod.mk.injEq] at h
  obtain ⟨_, hclose, _, hlamports, -, rfl⟩ := h
  obtain ⟨epoch', he', hcases⟩ := closeEpoch_receipt hclose
  obtain rfl := Option.some.inj (he.symm.trans he')
  obtain ⟨-, -, receiptInfo, creatorInfo, receipt, h0, h1, haddr, hreceipt, hcreator⟩ :=
    hcases.resolve_left fun hno => hflag hno.1
  rw [hrec.keyed index epoch he] at haddr hreceipt
  obtain ⟨creator, hpaid, hopened⟩ := hrec.paid index epoch he hflag
  obtain rfl := Option.some.inj (hpaid.symm.trans hreceipt)
  simp only [closeEpochLamports, loadEpoch, he, okOr_some, ok_bind, if_pos hflag, h0, h1, haddr,
    hcreator, bind_eq_ok] at hlamports
  obtain ⟨_, hfirst, hsecond⟩ := hlamports
  have hboth := (closeAccountTo_refunds hfirst (by simp)).append
    (closeAccountTo_refunds hsecond (by simp)) (by simp) (by simp)
  exact ⟨creator, hopened, hboth⟩

/-- **Closing out.** After every history of the program with a clock that does not run backwards,
and whatever accounts a caller passes: the closed and the open reports of an epoch are all that were
submitted, an epoch is closed only when it is distributed, seven epochs old and without reports, and
the rent goes to whoever is recorded for it. -/
theorem closeout_rules (hfresh : Fresh env s₀) (run : Run (GarStep env) s₀ tr s)
    (htime : Timely tr) : CloseoutRules tr s := by
  have hlast : ∃ now, ∀ x ∈ tr, x.label.clock.unixTimestamp ≤ now := by
    cases tr with
    | nil => exact ⟨0, fun x hx => by cases hx⟩
    | cons x tr => exact ⟨x.label.clock.unixTimestamp, List.forall_mem_cons.mpr ⟨le_rfl, htime.le⟩⟩
  obtain ⟨now, hnow⟩ := hlast
  have hrec := run_receipted hfresh run
  refine ⟨fun index epoch hoff he => ((run_closeout hfresh run htime hoff hnow).books epoch
    he).balance,
    fun index payer remaining lamports s' lamports' h => ?_,
    fun index observer refunded caller lamports s' lamports' h => ?_⟩
  · have hclose := h
    simp only [closeEpochWithRent, bind_eq_ok, pure_eq_ok, Prod.mk.injEq] at hclose
    obtain ⟨s₁, hclose, -⟩ := hclose
    obtain ⟨settings, epoch, _, hs, he, hdone, hage, -, -⟩ := closeEpoch_ok hclose
    refine ⟨epoch, settings, he, hs, hdone, fun hoff =>
      ((run_closeout hfresh run htime hoff hnow).close hclose).1 rfl, ?_,
      fun hflag => closeEpochWithRent_refunds hrec he hflag h⟩
    have hindex := (run_numbered hfresh run).epochs index (by rw [he]; exact Option.some_ne_none _)
    rw [hrec.keyed index epoch he, saturatingAdd] at hage
    omega
  · simp only [closeObservationWithRent, bind_eq_ok, okOr_eq_ok, require_eq_ok, pure_eq_ok,
      Prod.mk.injEq, exists_const] at h
    obtain ⟨x, hx, rfl, _, hclose, _, hlamports, -, rfl⟩ := h
    refine ⟨x, hx, ?_, closeAccountTo_refunds hlamports (by simp)⟩
    simp only [closeObservation, bind_eq_ok, okOr_eq_ok, require_eq_ok, exists_const] at hclose
    obtain ⟨_, -, x', hx', hobserver, -⟩ := hclose
    obtain rfl := Option.some.inj (hx.symm.trans hx')
    exact hobserver

end

namespace SmallNetwork

/-- Epoch 0 has a receipt, and one report. -/
def observedEpoch : Script :=
  ⟨[join 21, call 1002 (.initializeEpochs ⟨3⟩ ⟨⟨4⟩, 86400, 50, 2, 10, 4⟩),
    call 1002 (.setEpochsEnabled ⟨4⟩ true),
    call 1002 (.createEpoch ⟨24⟩ ⟨12⟩ [⟨.epochRentReceipt 0, true⟩]), tally,
    call 1002 (.prescribeEpoch 0 [⟨.gateway ⟨21⟩, true⟩] ⟨⟨0⟩, []⟩),
    call 1003 (.saveObservations ⟨41⟩ 0 (BitVec.allOnes 3000) 1 0)], by decide +kernel⟩

/-- Epoch 0 is distributed, its report is closed, and the counter is set past it. -/
def closable : Script :=
  ⟨observedEpoch.events ++ [call 90000 distribution, call 90000 (.closeObservation 0 ⟨41⟩),
    call 90001 (.closeEpochSettings ⟨4⟩),
    call 90001 (.initializeEpochs ⟨3⟩ ⟨⟨4⟩, 86400, 50, 2, 10, 4⟩),
    call 90001 (.adminSetCurrentEpochIndex ⟨4⟩ 7)], by decide +kernel⟩

/-- Wallet 22 closes epoch 0, which wallet 24 created. -/
def closingEpoch : Except GarError (State × Lamports) :=
  closeEpochWithRent 0 ⟨22⟩ [⟨.epochRentReceipt 0, true⟩, ⟨.other ⟨24⟩, true⟩]
    (after closable.events, fun _ => 5)

end SmallNetwork

open SmallNetwork in
theorem closeout_rules_small : ∃ tr s' lamports', Run (GarStep chain) start tr
      (after closable.events) ∧
    CloseoutRules tr (after closable.events) ∧ closingEpoch = .ok (s', lamports') ∧
    (after closable.events).observers 0 = ∅ ∧
    ∃ creator, OpenedBy 0 creator tr ∧
      Refunded [.epoch 0, .epochRentReceipt 0] (.other creator) (fun _ => 5) lamports' := by
  obtain ⟨tr, run, hl⟩ := run_after closable.events closable.works
  have hrules := closeout_rules fresh run (timely_of_labels hl (by decide))
  have hclose : closingEpoch = .ok (outcome closingEpoch (start, fun _ => 0)) :=
    eq_ok_outcome (by unfold closingEpoch after; decide +kernel)
  have hreceipt : ((after closable.events).epochs 0).map (·.hasRentReceipt) = some 1 := by
    unfold after
    decide +kernel
  have havoid : tr.Avoids (·.WritesOff 0) := avoids_of_labels hl (by
    simp [closable, observedEpoch, join, call, tally, distribution, Instruction.WritesOff])
  obtain ⟨epoch, -, he, -, -, hempty, -, hrefund⟩ := hrules.epochs _ _ _ _ _ _ hclose
  have hflag : epoch.hasRentReceipt = 1 := by
    rw [he] at hreceipt
    exact Option.some.inj hreceipt
  exact ⟨tr, _, _, run, hrules, hclose, hempty havoid, hrefund (by rw [hflag]; decide)⟩

end Gar
end ArioSolana
