import ArioSolana.AntAuthority
import Mathlib.Algebra.BigOperators.Group.Finset.Piecewise
import Mathlib.Algebra.BigOperators.Intervals
import Mathlib.Data.List.Perm.Basic

/-!
# The lists of users stay exact

Every call that touches a list is a sequence of moves, each of which works on one head and at most
one page. A page never holds a pair twice, but the caller picks the page, and nothing looks at the
other pages of the user.
-/

namespace ArioSolana
namespace Ant

open Checked Solana Finset

/-! ### Swap removal -/

lemma swapRemove_perm {l : List AclEntry} {pos : ℕ} (h : pos < l.length) :
    (swapRemove l pos).Perm (l.eraseIdx pos) := by
  obtain ⟨init, last, rfl⟩ : ∃ init last, l = init ++ [last] :=
    ⟨l.dropLast, l.getLast (List.ne_nil_of_length_pos (by omega)),
      (List.dropLast_append_getLast _).symm⟩
  have hswap : swapRemove (init ++ [last]) pos = ((init ++ [last]).set pos last).dropLast := by
    simp [swapRemove]
  rw [hswap]
  by_cases hpos : pos < init.length
  · rw [List.set_append_left _ _ hpos, List.dropLast_concat,
      List.eraseIdx_append_of_lt_length hpos]
    exact (List.set_perm_cons_eraseIdx hpos last).trans (List.perm_append_singleton _ _).symm
  · have hlast : pos = init.length := by
      simp only [List.length_append, List.length_singleton] at h
      omega
    subst hlast
    rw [List.set_append_right _ _ le_rfl, List.eraseIdx_append_of_length_le le_rfl]
    simp

lemma positionOf_eq_none {page : AclPage} {entry : AclEntry} :
    (page.positionOf entry).isNone = true ↔ entry ∉ page.entries := by
  rw [AclPage.positionOf, Option.isNone_iff_eq_none, List.findIdx?_eq_none_iff]
  simp only [decide_eq_false_iff_not]
  exact ⟨fun h hmem => h entry hmem rfl, fun h e he heq => h (heq ▸ he)⟩

lemma pageSwapRemove_perm {page page' : AclPage} {entry : AclEntry}
    (h : pageSwapRemove page entry = .ok page') :
    page.entries.Perm (entry :: page'.entries) ∧
        page' = { page with entries := page'.entries } := by
  simp only [pageSwapRemove, bind_eq_ok, okOr_eq_ok, pure_eq_ok] at h
  obtain ⟨pos, hpos, rfl⟩ := h
  obtain ⟨hlt, hentry, -⟩ := List.findIdx?_eq_some_iff_getElem.mp hpos
  simp only [decide_eq_true_eq] at hentry
  refine ⟨?_, rfl⟩
  have hperm := (List.getElem_cons_eraseIdx_perm hlt).symm
  rw [hentry] at hperm
  exact hperm.trans ((swapRemove_perm hlt).symm.cons entry)

lemma resyncPageSize_eq (page : AclPage) :
    resyncPageSize page = { page with dataLen := page.currentSize } := by
  unfold resyncPageSize
  split
  · rename_i h
    rw [h]
  · rfl

/-! ### The state of a list -/

/-- A page of a user. -/
structure PageOk (user : Pubkey) (index : ℕ) (page : AclPage) : Prop where
  user : page.user = user
  index : page.pageIdx = index
  entries : page.entries.length ≤ maxAclPageEntries
  size : page.currentSize ≤ page.dataLen
  nodup : page.entries.Nodup

/-- The list of a user: the pages are those below the count. -/
structure ListOk (s : State) (user : Pubkey) : Prop where
  head : ∀ c, s.aclConfigs user = some c → c.user = user
  pages : ∀ i, (s.aclPages user i).isSome ↔ ∃ c, s.aclConfigs user = some c ∧ i < c.pageCount
  page : ∀ i p, s.aclPages user i = some p → PageOk user i p

def pageLength (s : State) (user : Pubkey) (i : ℕ) : ℕ :=
  ((s.aclPages user i).map fun p => p.entries.length).getD 0

/-- The entries on all pages of a user. -/
def listed (s : State) (user : Pubkey) : ℕ :=
  ((s.aclConfigs user).map fun c => ∑ i ∈ range c.pageCount, pageLength s user i).getD 0

/-- The head counts the entries. -/
def Counted (s : State) (user : Pubkey) : Prop :=
  ∀ c, s.aclConfigs user = some c → c.totalEntries = listed s user

/-- An entry is on a page of a user. -/
def Listed (s : State) (user : Pubkey) (index : ℕ) (entry : AclEntry) : Prop :=
  ∃ p, s.aclPages user index = some p ∧ entry ∈ p.entries

/-! ### Moves -/

/-- What can happen to a list. -/
inductive Move where
  | register (user : Pubkey)
  | closeConfig (user : Pubkey)
  | addPage (user : Pubkey)
  | closePage (user : Pubkey) (index : ℕ)
  | add (user : Pubkey) (index : ℕ) (entry : AclEntry)
  | remove (user : Pubkey) (index : ℕ) (entry : AclEntry)

def Move.exec (s : State) : Move → Except AntError State
  | .register user => registerAclConfig user s
  | .closeConfig user => closeAclConfig user s
  | .addPage user => addAclPage user s
  | .closePage user index => closeAclPage user index s
  | .add user index entry => addEntry user index entry s
  | .remove user index entry => removeEntry user index entry s

section

variable {s s' s₁ : State} {user v : Pubkey} {index i : ℕ} {entry e : AclEntry} {m : Move}
  {config config' : AclConfig} {page page' : AclPage}

/-- One page of a user and the head are written, and the number of pages stays. -/
structure Edited (s s' : State) (user : Pubkey) (index : ℕ) (config config' : AclConfig)
    (page page' : AclPage) : Prop where
  head : s.aclConfigs user = some config
  supplied : s.aclPages user index = some page
  owner : config'.user = user
  below : index < config.pageCount
  count : config'.pageCount = config.pageCount
  configs : s'.aclConfigs = Function.update s.aclConfigs user (some config')
  pages : s'.aclPages =
    Function.update s.aclPages user (Function.update (s.aclPages user) index (some page'))

namespace Edited

variable (h : Edited s s' user index config config' page page')
include h

lemma config_self : s'.aclConfigs user = some config' := by
  rw [h.configs, Function.update_self]

lemma page_self : s'.aclPages user index = some page' := by
  rw [h.pages, Function.update_self, Function.update_self]

lemma page_of_ne (hi : i ≠ index) : s'.aclPages user i = s.aclPages user i := by
  rw [h.pages, Function.update_self, Function.update_of_ne hi]

lemma other (hv : v ≠ user) : s'.aclConfigs v = s.aclConfigs v ∧ s'.aclPages v = s.aclPages v := by
  rw [h.configs, h.pages, Function.update_of_ne hv, Function.update_of_ne hv]
  exact ⟨rfl, rfl⟩

lemma listOk (hs : ListOk s user) (hp : PageOk user index page') : ListOk s' user := by
  refine ⟨?_, ?_, ?_⟩
  · intro c hc
    obtain rfl := Option.some.inj (h.config_self.symm.trans hc)
    exact h.owner
  · intro i
    have hbelow : (∃ c, s'.aclConfigs user = some c ∧ i < c.pageCount) ↔ i < config.pageCount := by
      rw [h.config_self, ← h.count]
      simp
    rw [hbelow]
    by_cases hi : i = index
    · subst hi
      rw [h.page_self]
      simpa using h.below
    · rw [h.page_of_ne hi, hs.pages, h.head]
      simp
  · intro i p hpage
    by_cases hi : i = index
    · subst hi
      obtain rfl := Option.some.inj (h.page_self.symm.trans hpage)
      exact hp
    · rw [h.page_of_ne hi] at hpage
      exact hs.page i p hpage

lemma listed_add : listed s' user + page.entries.length = listed s user + page'.entries.length := by
  have hsum : ∀ t : State, ∑ i ∈ range config.pageCount, pageLength t user i
      = pageLength t user index + ∑ i ∈ (range config.pageCount).erase index, pageLength t user i :=
    fun t => (add_sum_erase _ _ (mem_range.mpr h.below)).symm
  have hrest : ∑ i ∈ (range config.pageCount).erase index, pageLength s' user i
      = ∑ i ∈ (range config.pageCount).erase index, pageLength s user i := by
    refine sum_congr rfl fun i hi => ?_
    rw [pageLength, pageLength, h.page_of_ne (ne_of_mem_erase hi)]
  have hnew : listed s' user = ∑ i ∈ range config.pageCount, pageLength s' user i := by
    rw [listed, h.config_self, Option.map_some, Option.getD_some, h.count]
  have hold : listed s user = ∑ i ∈ range config.pageCount, pageLength s user i := by
    rw [listed, h.head, Option.map_some, Option.getD_some]
  have hpage' : pageLength s' user index = page'.entries.length := by
    rw [pageLength, h.page_self]
    rfl
  have hpage : pageLength s user index = page.entries.length := by
    rw [pageLength, h.supplied]
    rfl
  rw [hnew, hold, hsum s', hsum s, hrest, hpage', hpage]
  omega

end Edited

lemma loadAclConfig_eq_ok : loadAclConfig s user = .ok config ↔
    s.aclConfigs user = some config ∧ config.user = user := by
  simp only [loadAclConfig, bind_eq_ok, okOr_eq_ok, require_eq_ok, pure_eq_ok]
  constructor
  · rintro ⟨c, hc, -, huser, rfl⟩
    exact ⟨hc, huser⟩
  · rintro ⟨hc, huser⟩
    exact ⟨config, hc, (), huser, rfl⟩

lemma loadAclPage_eq_ok : loadAclPage s config index = .ok page ↔
    s.aclPages config.user index = some page ∧ page.pageIdx = index := by
  simp only [loadAclPage, bind_eq_ok, okOr_eq_ok, require_eq_ok, pure_eq_ok]
  constructor
  · rintro ⟨p, hp, -, hindex, rfl⟩
    exact ⟨hp, hindex⟩
  · rintro ⟨hp, hindex⟩
    exact ⟨page, hp, (), hindex, rfl⟩

lemma addEntry_edited (h : addEntry user index entry s = .ok s') : ∃ config page,
    Edited s s' user index config
      { config with totalEntries := saturatingAdd 64 config.totalEntries 1 } page
      { page with
        entries := page.entries ++ [entry]
        dataLen := AclPage.sizeFor (page.entries.length + 1) } ∧
    entry ∉ page.entries ∧ page.entries.length < maxAclPageEntries := by
  simp only [addEntry, assertPageBelongs, pagePushUnique, bind_eq_ok, loadAclConfig_eq_ok,
    loadAclPage_eq_ok, require_eq_ok, positionOf_eq_none, pure_eq_ok] at h
  obtain ⟨config, ⟨hc, rfl⟩, page, ⟨hp, hindex⟩, -, ⟨-, -, hbelow⟩, _, ⟨-, hnew, -, hroom, rfl⟩,
    rfl⟩ := h
  refine ⟨config, page, ⟨hc, hp, rfl, hindex ▸ hbelow, rfl, rfl, ?_⟩, hnew, hroom⟩
  rw [resyncPageSize_eq]
  simp [State.setAclPage, State.setAclConfig, AclPage.currentSize]

lemma removeEntry_edited (h : removeEntry user index entry s = .ok s') : ∃ config page entries,
    Edited s s' user index config
      { config with totalEntries := saturatingSub config.totalEntries 1 } page
      { page with entries } ∧ page.entries.Perm (entry :: entries) := by
  simp only [removeEntry, assertPageBelongs, bind_eq_ok, loadAclConfig_eq_ok, loadAclPage_eq_ok,
    require_eq_ok, pure_eq_ok] at h
  obtain ⟨config, ⟨hc, rfl⟩, page, ⟨hp, hindex⟩, -, ⟨-, -, hbelow⟩, page', hremove, rfl⟩ := h
  obtain ⟨hperm, hpage'⟩ := pageSwapRemove_perm hremove
  refine ⟨config, page, page'.entries, ⟨hc, hp, rfl, hindex ▸ hbelow, rfl, rfl, ?_⟩, hperm⟩
  rw [← hpage']
  rfl

/-! ### What a move does -/

/-- What a move does to the lists of all users. -/
structure MoveEffect (m : Move) (s s' : State) : Prop where
  listOk : (∀ u, ListOk s u) → ∀ u, ListOk s' u
  kept : (∀ u, ListOk s u) → ∀ u i e, Listed s u i e → Listed s' u i e ∨ m = .remove u i e
  removed : (∀ u, ListOk s u) → ∀ u i e, m = .remove u i e → ¬Listed s' u i e
  counted : (∀ u, ListOk s u) → ∀ u, Counted s u →
    (∀ i e, m = .add u i e → listed s' u < 2 ^ 64) → Counted s' u
  others : ∀ u i e, m = .remove u i e → ∀ v, v ≠ u → listed s' v = listed s v

lemma listOk_of_same (hconfig : s'.aclConfigs v = s.aclConfigs v)
    (hpages : s'.aclPages v = s.aclPages v) (h : ListOk s v) : ListOk s' v := by
  obtain ⟨hhead, hp, hpage⟩ := h
  refine ⟨by rwa [hconfig], ?_, by rwa [hpages]⟩
  rw [hpages, hconfig]
  exact hp

lemma listed_of_same (hconfig : s'.aclConfigs v = s.aclConfigs v)
    (hpages : s'.aclPages v = s.aclPages v) : listed s' v = listed s v := by
  simp only [listed, pageLength, hconfig, hpages]

lemma counted_of_same (hconfig : s'.aclConfigs v = s.aclConfigs v)
    (hpages : s'.aclPages v = s.aclPages v) (h : Counted s v) : Counted s' v := by
  intro c hc
  rw [listed_of_same hconfig hpages]
  exact h c (hconfig ▸ hc)

lemma addEntry_effect (h : addEntry user index entry s = .ok s') :
    MoveEffect (.add user index entry) s s' := by
  obtain ⟨config, page, hedit, hnew, hroom⟩ := addEntry_edited h
  refine ⟨?_, ?_, ?_, ?_, ?_⟩
  · intro hs u
    by_cases hu : u = user
    · subst hu
      have hpage := (hs u).page index page hedit.supplied
      refine hedit.listOk (hs u) ⟨hpage.user, hpage.index, ?_, ?_, ?_⟩
      · rw [List.length_append, List.length_singleton]
        exact hroom
      · exact le_of_eq (by rw [AclPage.currentSize, List.length_append, List.length_singleton])
      · exact List.nodup_append.mpr ⟨hpage.nodup, List.nodup_singleton _, fun a ha b hb hab => by
          rw [List.mem_singleton.mp hb] at hab
          exact hnew (hab ▸ ha)⟩
    · obtain ⟨hconfigs, hpages⟩ := hedit.other hu
      exact listOk_of_same hconfigs hpages (hs u)
  · rintro - u i e ⟨p, hp, he⟩
    left
    by_cases hu : u = user
    · subst hu
      by_cases hi : i = index
      · subst hi
        obtain rfl := Option.some.inj (hedit.supplied.symm.trans hp)
        exact ⟨_, hedit.page_self, List.mem_append_left _ he⟩
      · exact ⟨p, (hedit.page_of_ne hi).trans hp, he⟩
    · exact ⟨p, (congrFun (hedit.other hu).2 i).trans hp, he⟩
  · rintro - u i e hm
    cases hm
  · intro hs u hcounted hfit
    by_cases hu : u = user
    · subst hu
      intro c hc
      obtain rfl := Option.some.inj (hedit.config_self.symm.trans hc)
      have hlisted : listed s' u + page.entries.length
          = listed s u + (page.entries ++ [entry]).length := hedit.listed_add
      rw [List.length_append, List.length_singleton] at hlisted
      have hold := hcounted config hedit.head
      have hlt := hfit index entry rfl
      show saturatingAdd 64 config.totalEntries 1 = listed s' u
      rw [saturatingAdd_of_lt (by omega)]
      omega
    · obtain ⟨hconfigs, hpages⟩ := hedit.other hu
      exact counted_of_same hconfigs hpages hcounted
  · rintro u i e hm
    cases hm

lemma removeEntry_effect (h : removeEntry user index entry s = .ok s') :
    MoveEffect (.remove user index entry) s s' := by
  obtain ⟨config, page, entries, hedit, hperm⟩ := removeEntry_edited h
  have hlen : page.entries.length = entries.length + 1 := by
    rw [hperm.length_eq, List.length_cons]
  refine ⟨?_, ?_, ?_, ?_, ?_⟩
  · intro hs u
    by_cases hu : u = user
    · subst hu
      have hpage := (hs u).page index page hedit.supplied
      have hentries := hpage.entries
      have hsize := hpage.size
      simp only [AclPage.currentSize, AclPage.sizeFor, hlen] at hsize
      refine hedit.listOk (hs u) ⟨hpage.user, hpage.index, by simp only; omega, ?_, ?_⟩
      · simp only [AclPage.currentSize, AclPage.sizeFor]
        exact le_trans (Nat.add_le_add_left (Nat.mul_le_mul_right _ (Nat.le_succ _)) _) hsize
      · exact (List.nodup_cons.mp (hperm.nodup_iff.mp hpage.nodup)).2
    · obtain ⟨hconfigs, hpages⟩ := hedit.other hu
      exact listOk_of_same hconfigs hpages (hs u)
  · rintro - u i e ⟨p, hp, he⟩
    by_cases hu : u = user
    · subst hu
      by_cases hi : i = index
      · subst hi
        obtain rfl := Option.some.inj (hedit.supplied.symm.trans hp)
        rcases List.mem_cons.mp (hperm.mem_iff.mp he) with rfl | he
        · exact .inr rfl
        · exact .inl ⟨_, hedit.page_self, he⟩
      · exact .inl ⟨p, (hedit.page_of_ne hi).trans hp, he⟩
    · exact .inl ⟨p, (congrFun (hedit.other hu).2 i).trans hp, he⟩
  · rintro hs u i e hm ⟨p, hp, he⟩
    obtain ⟨rfl, rfl, rfl⟩ := Move.remove.inj hm
    obtain rfl := Option.some.inj (hedit.page_self.symm.trans hp)
    have hnodup := ((hs user).page index page hedit.supplied).nodup
    exact (List.nodup_cons.mp (hperm.nodup_iff.mp hnodup)).1 he
  · intro hs u hcounted _
    by_cases hu : u = user
    · subst hu
      intro c hc
      obtain rfl := Option.some.inj (hedit.config_self.symm.trans hc)
      have hlisted : listed s' u + page.entries.length = listed s u + entries.length :=
        hedit.listed_add
      have hold := hcounted config hedit.head
      show config.totalEntries - 1 = listed s' u
      omega
    · obtain ⟨hconfigs, hpages⟩ := hedit.other hu
      exact counted_of_same hconfigs hpages hcounted
  · rintro u i e hm v hv
    obtain ⟨rfl, rfl, rfl⟩ := Move.remove.inj hm
    obtain ⟨hconfigs, hpages⟩ := hedit.other hv
    exact listed_of_same hconfigs hpages

lemma registerAclConfig_effect (h : registerAclConfig user s = .ok s') :
    MoveEffect (.register user) s s' := by
  simp only [registerAclConfig, bind_eq_ok, require_eq_ok, pure_eq_ok,
    Option.isNone_iff_eq_none] at h
  obtain ⟨-, hnone, rfl⟩ := h
  have hself : (s.setAclConfig user (some ⟨user, 0, 0⟩)).aclConfigs user = some ⟨user, 0, 0⟩ :=
    Function.update_self _ _ _
  have hother : ∀ {u}, u ≠ user →
      (s.setAclConfig user (some ⟨user, 0, 0⟩)).aclConfigs u = s.aclConfigs u :=
    fun hu => Function.update_of_ne hu _ _
  refine ⟨?_, fun _ _ _ _ hl => .inl hl, (fun _ _ _ _ hm => absurd hm (by simp)), ?_,
    (fun _ _ _ hm => absurd hm (by simp))⟩
  · intro hs u
    by_cases hu : u = user
    · subst hu
      refine ⟨?_, ?_, (hs u).page⟩
      · intro c hc
        obtain rfl := Option.some.inj (hself.symm.trans hc)
        rfl
      · intro i
        have hold := (hs u).pages i
        rw [hnone] at hold
        show (s.aclPages u i).isSome = true ↔ _
        rw [hself]
        simpa using hold
    · exact listOk_of_same (hother hu) rfl (hs u)
  · intro hs u hcounted _
    by_cases hu : u = user
    · subst hu
      intro c hc
      obtain rfl := Option.some.inj (hself.symm.trans hc)
      rw [listed, hself]
      rfl
    · exact counted_of_same (hother hu) rfl hcounted

lemma closeAclConfig_effect (h : closeAclConfig user s = .ok s') :
    MoveEffect (.closeConfig user) s s' := by
  simp only [closeAclConfig, bind_eq_ok, loadAclConfig_eq_ok, require_eq_ok, pure_eq_ok] at h
  obtain ⟨config, ⟨hc, -⟩, -, hzero, rfl⟩ := h
  have hself : (s.setAclConfig user none).aclConfigs user = none := Function.update_self _ _ _
  have hother : ∀ {u}, u ≠ user → (s.setAclConfig user none).aclConfigs u = s.aclConfigs u :=
    fun hu => Function.update_of_ne hu _ _
  refine ⟨?_, fun _ _ _ _ hl => .inl hl, (fun _ _ _ _ hm => absurd hm (by simp)), ?_,
    (fun _ _ _ hm => absurd hm (by simp))⟩
  · intro hs u
    by_cases hu : u = user
    · subst hu
      refine ⟨?_, ?_, (hs u).page⟩
      · intro c hc'
        rw [hself] at hc'
        cases hc'
      · intro i
        have hold := (hs u).pages i
        rw [hc] at hold
        show (s.aclPages u i).isSome = true ↔ _
        rw [hself]
        simpa [hzero] using hold
    · exact listOk_of_same (hother hu) rfl (hs u)
  · intro hs u hcounted _
    by_cases hu : u = user
    · subst hu
      intro c hc'
      rw [hself] at hc'
      cases hc'
    · exact counted_of_same (hother hu) rfl hcounted

/-- A page without entries is added or taken away behind the last one. -/
structure Resized (s s' : State) (user : Pubkey) (config : AclConfig) (n : ℕ) : Prop where
  head : s.aclConfigs user = some config
  owner : config.user = user
  configs : s'.aclConfigs = Function.update s.aclConfigs user (some { config with pageCount := n })
  others : ∀ u, u ≠ user → s'.aclPages u = s.aclPages u
  pages : ∀ i, (s'.aclPages user i).isSome ↔ i < n
  kept : ∀ i p, s.aclPages user i = some p → p.entries ≠ [] → s'.aclPages user i = some p
  old : ∀ i p, s'.aclPages user i = some p → s.aclPages user i = some p ∨
    p.entries = [] ∧ PageOk user i p

lemma Resized.effect {n : ℕ} (h : Resized s s' user config n) (hadd : ∀ u i e, m ≠ .remove u i e) :
    MoveEffect m s s' := by
  have hself : s'.aclConfigs user = some { config with pageCount := n } := by
    rw [h.configs, Function.update_self]
  have hother : ∀ u, u ≠ user → s'.aclConfigs u = s.aclConfigs u := fun u hu => by
    rw [h.configs, Function.update_of_ne hu]
  refine ⟨?_, ?_, fun _ u i e hm => absurd hm (hadd u i e), ?_,
    fun u i e hm => absurd hm (hadd u i e)⟩
  · intro hs u
    by_cases hu : u = user
    · subst hu
      refine ⟨?_, ?_, ?_⟩
      · intro c hc
        obtain rfl := Option.some.inj (hself.symm.trans hc)
        exact h.owner
      · intro i
        rw [h.pages, hself]
        simp
      · intro i p hp
        rcases h.old i p hp with hold | ⟨-, hok⟩
        · exact (hs u).page i p hold
        · exact hok
    · exact listOk_of_same (hother u hu) (h.others u hu) (hs u)
  · rintro hs u i e ⟨p, hp, he⟩
    by_cases hu : u = user
    · subst hu
      exact .inl ⟨p, h.kept i p hp (List.ne_nil_of_mem he), he⟩
    · exact .inl ⟨p, (congrFun (h.others u hu) i).trans hp, he⟩
  · intro hs u hcounted _
    by_cases hu : u = user
    · subst hu
      intro c hc
      obtain rfl := Option.some.inj (hself.symm.trans hc)
      have hold := hcounted config h.head
      -- pages beyond either count are empty or absent, so both sums run over both counts
      have hlength : ∀ i, pageLength s' u i = pageLength s u i := by
        intro i
        unfold pageLength
        cases hi : s.aclPages u i with
        | some p =>
          by_cases hnil : p.entries = []
          · cases hi' : s'.aclPages u i with
            | none => simp [hnil]
            | some p' =>
              rcases h.old i p' hi' with hsame | ⟨hnil', -⟩
              · obtain rfl := Option.some.inj (hi.symm.trans hsame)
                rfl
              · simp [hnil, hnil']
          · rw [h.kept i p hi hnil]
        | none =>
          cases hi' : s'.aclPages u i with
          | none => rfl
          | some p' =>
            rcases h.old i p' hi' with hsame | ⟨hnil', -⟩
            · rw [hi] at hsame
              cases hsame
            · simp [hnil']
      have hzero : ∀ {t : State} {c : AclConfig}, ListOk t u → t.aclConfigs u = some c →
          ∀ i, c.pageCount ≤ i → pageLength t u i = 0 := by
        intro t c ht hc i hi
        have hnone : t.aclPages u i = none := by
          rw [← Option.not_isSome_iff_eq_none, ht.pages, hc]
          rintro ⟨c', hc', hlt⟩
          obtain rfl := Option.some.inj hc'
          omega
        rw [pageLength, hnone]
        rfl
      have hok' : ∀ i, n ≤ i → pageLength s' u i = 0 := by
        intro i hi
        have hnone : s'.aclPages u i = none := by
          rw [← Option.not_isSome_iff_eq_none, h.pages]
          omega
        rw [pageLength, hnone]
        rfl
      have hsum : ∑ i ∈ range n, pageLength s' u i
          = ∑ i ∈ range config.pageCount, pageLength s u i := by
        have hleft := sum_subset (range_subset_range.mpr (le_max_left n config.pageCount))
          fun i _ hi => hok' i (by simpa using hi)
        have hright := sum_subset (range_subset_range.mpr (le_max_right n config.pageCount))
          fun i _ hi => hzero (hs u) h.head i (by simpa using hi)
        rw [hleft, hright]
        exact Finset.sum_congr rfl fun i _ => hlength i
      rw [listed, h.head, Option.map_some, Option.getD_some] at hold
      rw [listed, hself, Option.map_some, Option.getD_some, hsum]
      exact hold
    · exact counted_of_same (hother u hu) (h.others u hu) hcounted

lemma addAclPage_effect (hs : ∀ u, ListOk s u) (h : addAclPage user s = .ok s') :
    MoveEffect (.addPage user) s s' := by
  simp only [addAclPage, bind_eq_ok, loadAclConfig_eq_ok, require_eq_ok, okOr_eq_ok,
    checkedAdd_eq_some, pure_eq_ok, Option.isNone_iff_eq_none] at h
  obtain ⟨config, ⟨hc, rfl⟩, -, hnone, n, ⟨-, rfl⟩, rfl⟩ := h
  have hpages : ((s.setAclPage config.user config.pageCount (some
      ⟨config.user, config.pageCount, [], aclPageMinSize⟩)).setAclConfig config.user
        (some { config with pageCount := config.pageCount + 1 })).aclPages config.user
      = Function.update (s.aclPages config.user) config.pageCount (some
        ⟨config.user, config.pageCount, [], aclPageMinSize⟩) := Function.update_self _ _ _
  refine Resized.effect ⟨hc, rfl, rfl,
    fun u hu => Function.update_of_ne hu _ _, ?_, ?_, ?_⟩ fun _ _ _ => by simp
  · intro i
    rw [hpages]
    by_cases hi : i = config.pageCount
    · subst hi
      simp
    · rw [Function.update_of_ne hi, (hs config.user).pages, hc]
      simp only [Option.some.injEq, exists_eq_left']
      omega
  · intro i p hp _
    rw [hpages, Function.update_of_ne]
    · exact hp
    · rintro rfl
      rw [hnone] at hp
      cases hp
  · intro i p hp
    rw [hpages] at hp
    by_cases hi : i = config.pageCount
    · subst hi
      rw [Function.update_self] at hp
      obtain rfl := Option.some.inj hp
      exact .inr ⟨rfl, rfl, rfl, Nat.zero_le _, le_of_eq rfl, List.nodup_nil⟩
    · rw [Function.update_of_ne hi] at hp
      exact .inl hp

lemma closeAclPage_effect (hs : ∀ u, ListOk s u) (h : closeAclPage user index s = .ok s') :
    MoveEffect (.closePage user index) s s' := by
  simp only [closeAclPage, bind_eq_ok, loadAclConfig_eq_ok, loadAclPage_eq_ok, require_eq_ok,
    pure_eq_ok] at h
  obtain ⟨config, ⟨hc, rfl⟩, page, ⟨hp, rfl⟩, -, -, -, ⟨hpos, hlast⟩, -, hnil, rfl⟩ := h
  have hpages : ((s.setAclPage config.user page.pageIdx none).setAclConfig config.user
        (some { config with pageCount := config.pageCount - 1 })).aclPages config.user
      = Function.update (s.aclPages config.user) page.pageIdx none := Function.update_self _ _ _
  refine Resized.effect ⟨hc, rfl, rfl,
    fun u hu => Function.update_of_ne hu _ _, ?_, ?_, ?_⟩ fun _ _ _ => by simp
  · intro i
    rw [hpages]
    by_cases hi : i = page.pageIdx
    · subst hi
      rw [Function.update_self]
      simp [hlast]
    · rw [Function.update_of_ne hi, (hs config.user).pages, hc]
      simp only [Option.some.injEq, exists_eq_left']
      omega
  · intro i p hp' hne
    rw [hpages, Function.update_of_ne]
    · exact hp'
    · rintro rfl
      obtain rfl := Option.some.inj (hp.symm.trans hp')
      exact hne hnil
  · intro i p hp'
    rw [hpages] at hp'
    by_cases hi : i = page.pageIdx
    · subst hi
      rw [Function.update_self] at hp'
      cases hp'
    · rw [Function.update_of_ne hi] at hp'
      exact .inl hp'

/-- **What a move does**, whatever the move. -/
theorem move_effect (hs : ∀ u, ListOk s u) (h : m.exec s = .ok s') : MoveEffect m s s' := by
  cases m with
  | register user => exact registerAclConfig_effect h
  | closeConfig user => exact closeAclConfig_effect h
  | addPage user => exact addAclPage_effect hs h
  | closePage user index => exact closeAclPage_effect hs h
  | add user index entry => exact addEntry_effect h
  | remove user index entry => exact removeEntry_effect h

/-! ### Calls as moves -/

/-- The moves that an event makes, in order. -/
def Event.moves : Event → List Move
  | .assetCall x _ (.addController controller index) => [.add controller index ⟨x, .controller⟩]
  | .assetCall x _ (.removeController controller index) =>
    [.remove controller index ⟨x, .controller⟩]
  | .assetCall x k (.transfer newOwner newIndex oldIndex) =>
    [.add newOwner newIndex ⟨x, .owner⟩, .remove k oldIndex ⟨x, .owner⟩]
  | .aclCall user .registerAclConfig => [.register user]
  | .aclCall user .closeAclConfig => [.closeConfig user]
  | .aclCall user .addAclPage => [.addPage user]
  | .aclCall user (.closeAclPage index) => [.closePage user index]
  | .aclCall user (.recordAclOwner x index) => [.add user index ⟨x, .owner⟩]
  | .aclCall user (.recordAclController x index) => [.add user index ⟨x, .controller⟩]
  | .aclCall user (.removeAclOwner x index) => [.remove user index ⟨x, .owner⟩]
  | .aclCall user (.removeAclController x index) => [.remove user index ⟨x, .controller⟩]
  | _ => []

/-- Two states with the same lists. -/
structure SameLists (s s' : State) : Prop where
  configs : s'.aclConfigs = s.aclConfigs
  pages : s'.aclPages = s.aclPages

lemma manageMetadata_lists {x k : Pubkey} {change : AntConfig → AntConfig}
    (h : manageMetadata x k change s = .ok s') : SameLists s s' := by
  simp only [manageMetadata, bind_eq_ok, pure_eq_ok] at h
  obtain ⟨a, -, -, -, rfl⟩ := h
  exact ⟨rfl, rfl⟩

lemma handler_lists {env : Env} {x k : Pubkey} {call : AssetCall}
    (h : call.handler env x k s = .ok s') (hm : Event.moves (.assetCall x k call) = []) :
    SameLists s s' := by
  cases call with
  | initializeAnt params =>
    simp only [AssetCall.handler, initializeAnt, bind_eq_ok, pure_eq_ok] at h
    obtain ⟨-, -, -, -, -, -, o, -, -, -, -, -, -, -, u, -, -, -, -, -, -, -, -, -, rfl⟩ := h
    exact ⟨rfl, rfl⟩
  | setRecord params =>
    obtain ⟨o, c, l, a, r, p, -, hw⟩ := setRecord_eq_ok.mp h
    rw [hw.wrote]
    exact ⟨rfl, rfl⟩
  | removeRecord hash withMetadata =>
    simp only [AssetCall.handler, removeRecord, bind_eq_ok, pure_eq_ok] at h
    obtain ⟨r, -, -, -, -, -, a, -, -, -, rfl⟩ := h
    cases withMetadata <;> exact ⟨rfl, rfl⟩
  | transferRecord hash newOwner =>
    obtain ⟨r, o, c, l, a, -, -, -, -, -, rfl⟩ := transferRecord_eq_ok.mp h
    exact ⟨rfl, rfl⟩
  | addController controller index => cases hm
  | removeController controller index => cases hm
  | setName name =>
    simp only [AssetCall.handler, setName, bind_eq_ok] at h
    obtain ⟨-, -, -, -, h⟩ := h
    exact manageMetadata_lists h
  | setTicker ticker =>
    simp only [AssetCall.handler, setTicker, bind_eq_ok] at h
    obtain ⟨-, -, -, -, h⟩ := h
    exact manageMetadata_lists h
  | setDescription description =>
    simp only [AssetCall.handler, setDescription, bind_eq_ok] at h
    obtain ⟨-, -, h⟩ := h
    exact manageMetadata_lists h
  | setKeywords keywords =>
    simp only [AssetCall.handler, setKeywords, bind_eq_ok] at h
    obtain ⟨-, -, h⟩ := h
    exact manageMetadata_lists h
  | setLogo logo =>
    simp only [AssetCall.handler, setLogo, bind_eq_ok] at h
    obtain ⟨-, -, h⟩ := h
    exact manageMetadata_lists h
  | transfer newOwner i j => cases hm
  | reconcile =>
    obtain ⟨o, c, l, -, -, -, ⟨-, rfl⟩ | ⟨-, rfl⟩⟩ := reconcile_eq h
    · exact ⟨rfl, rfl⟩
    · exact ⟨rfl, rfl⟩
  | setRecordMetadata params =>
    simp only [AssetCall.handler, setRecordMetadata, bind_eq_ok, pure_eq_ok] at h
    obtain ⟨r, -, -, -, -, -, -, -, -, -, -, -, a, -, -, -, -, -, rfl⟩ := h
    exact ⟨rfl, rfl⟩
  | removeRecordMetadata undername =>
    simp only [AssetCall.handler, removeRecordMetadata, bind_eq_ok, pure_eq_ok] at h
    obtain ⟨-, -, -, -, a, -, -, -, rfl⟩ := h
    exact ⟨rfl, rfl⟩
  | closeOrphanedRecordMetadata undername =>
    obtain ⟨hash, -, rfl⟩ := closeOrphanedRecordMetadata_eq h
    exact ⟨rfl, rfl⟩
  | closeAntRecord undername =>
    simp only [AssetCall.handler, closeAntRecord, bind_eq_ok, pure_eq_ok] at h
    obtain ⟨-, -, u, -, rfl⟩ := h
    exact ⟨rfl, rfl⟩
  | closeAntRecordMetadataForOwner undername =>
    simp only [AssetCall.handler, closeAntRecordMetadataForOwner, bind_eq_ok, pure_eq_ok] at h
    obtain ⟨-, -, u, -, rfl⟩ := h
    exact ⟨rfl, rfl⟩
  | closeAntControllers =>
    simp only [AssetCall.handler, closeAntControllers, bind_eq_ok, pure_eq_ok] at h
    obtain ⟨-, -, u, -, rfl⟩ := h
    exact ⟨rfl, rfl⟩
  | closeAntConfig =>
    simp only [AssetCall.handler, closeAntConfig, bind_eq_ok, pure_eq_ok] at h
    obtain ⟨-, -, u, -, rfl⟩ := h
    exact ⟨rfl, rfl⟩

/-- An event makes no move, one move, or the two of a transfer between two users. -/
lemma event_moves {env : Env} {e : Event} (h : AntStep env s e s') :
    e.moves = [] ∧ SameLists s s' ∨
    (∃ m s₁, e.moves = [m] ∧ m.exec s₁ = .ok s' ∧ SameLists s s₁) ∨
    ∃ newOwner k i j entry s₁ s₂, e.moves = [.add newOwner i entry, .remove k j entry] ∧
      newOwner ≠ k ∧ addEntry newOwner i entry s₁ = .ok s₂ ∧
      removeEntry k j entry s₂ = .ok s' ∧ SameLists s s₁ := by
  have hrefl : SameLists s s := ⟨rfl, rfl⟩
  cases e with
  | assetCall x k call =>
    by_cases hm : Event.moves (.assetCall x k call) = []
    · exact .inl ⟨hm, handler_lists h hm⟩
    · cases call with
      | addController controller index =>
        simp only [AntStep, Event.exec, AssetCall.handler, addController, bind_eq_ok] at h
        obtain ⟨a, -, -, -, -, -, -, -, h⟩ := h
        exact .inr (.inl ⟨_, _, rfl, h, rfl, rfl⟩)
      | removeController controller index =>
        simp only [AntStep, Event.exec, AssetCall.handler, removeController, bind_eq_ok] at h
        obtain ⟨a, -, -, -, -, -, h⟩ := h
        exact .inr (.inl ⟨_, _, rfl, h, rfl, rfl⟩)
      | transfer newOwner i j =>
        simp only [AntStep, Event.exec, AssetCall.handler, transfer, bind_eq_ok,
          require_eq_ok] at h
        obtain ⟨c, -, l, -, o, -, -, rfl, -, hne, s₂, h₁, h₂⟩ := h
        exact .inr (.inr ⟨newOwner, k, i, j, _, _, s₂, rfl, hne, h₁, h₂, rfl, rfl⟩)
      | _ => exact absurd rfl hm
  | aclCall user call =>
    right; left
    cases call with
    | registerAclConfig => exact ⟨_, s, rfl, h, hrefl⟩
    | closeAclConfig => exact ⟨_, s, rfl, h, hrefl⟩
    | addAclPage => exact ⟨_, s, rfl, h, hrefl⟩
    | closeAclPage index => exact ⟨_, s, rfl, h, hrefl⟩
    | recordAclOwner x index =>
      simp only [AntStep, Event.exec, AclCall.handler, recordAclOwner, bind_eq_ok] at h
      obtain ⟨-, -, o, -, -, -, h⟩ := h
      exact ⟨_, s, rfl, h, hrefl⟩
    | recordAclController x index =>
      simp only [AntStep, Event.exec, AclCall.handler, recordAclController, bind_eq_ok] at h
      obtain ⟨o, -, l, -, -, -, h⟩ := h
      exact ⟨_, s, rfl, h, hrefl⟩
    | removeAclOwner x index =>
      simp only [AntStep, Event.exec, AclCall.handler, removeAclOwner, bind_eq_ok] at h
      obtain ⟨-, -, o, -, -, -, h⟩ := h
      exact ⟨_, s, rfl, h, hrefl⟩
    | removeAclController x index =>
      simp only [AntStep, Event.exec, AclCall.handler, removeAclController, bind_eq_ok] at h
      obtain ⟨o, -, l, -, -, -, h⟩ := h
      exact ⟨_, s, rfl, h, hrefl⟩
  | mplTransfer x newOwner =>
    simp only [AntStep, Event.exec, bind_eq_ok, pure_eq_ok] at h
    obtain ⟨o, -, rfl⟩ := h
    exact .inl ⟨rfl, rfl, rfl⟩
  | mplBurn x =>
    simp only [AntStep, Event.exec, bind_eq_ok, pure_eq_ok] at h
    obtain ⟨o, -, rfl⟩ := h
    exact .inl ⟨rfl, rfl, rfl⟩

/-! ### Runs -/

lemma SameLists.listOk (h : SameLists s s') (hs : ∀ u, ListOk s u) (u : Pubkey) : ListOk s' u :=
  listOk_of_same (congrFun h.configs u) (congrFun h.pages u) (hs u)

lemma SameLists.counted (h : SameLists s s') {u : Pubkey} (hc : Counted s u) : Counted s' u :=
  counted_of_same (congrFun h.configs u) (congrFun h.pages u) hc

lemma SameLists.kept (h : SameLists s s') {u : Pubkey} (hl : Listed s u i e) : Listed s' u i e := by
  rwa [Listed, h.pages]

/-- What an event does to the lists of all users. -/
structure ListEffect (moves : List Move) (s s' : State) : Prop where
  listOk : ∀ u, ListOk s' u
  kept : ∀ u i e, Listed s u i e → Listed s' u i e ∨ .remove u i e ∈ moves
  removed : ∀ u i e, .remove u i e ∈ moves → ¬Listed s' u i e
  counted : ∀ u, Counted s u → listed s' u < 2 ^ 64 → Counted s' u

/-- **What an event does to the lists.** Entries go only where they are removed, and are gone
there. -/
theorem event_effect {env : Env} {ev : Event} (hs : ∀ u, ListOk s u) (h : AntStep env s ev s') :
    ListEffect ev.moves s s' := by
  rcases event_moves h with ⟨hm, hsame⟩ | ⟨m, s₁, hm, hexec, hsame⟩ |
    ⟨newOwner, k, i, j, entry, s₁, s₂, hm, hne, hadd, hremove, hsame⟩
  · rw [hm]
    exact ⟨hsame.listOk hs, fun u i e hl => .inl (hsame.kept hl),
      fun u i e hmem => absurd hmem List.not_mem_nil, fun u hc _ => hsame.counted hc⟩
  · rw [hm]
    have hs₁ := hsame.listOk hs
    have heff := move_effect hs₁ hexec
    refine ⟨heff.listOk hs₁, fun u i e hl => ?_, fun u i e hmem => ?_, fun u hc hfit => ?_⟩
    · exact (heff.kept hs₁ u i e (hsame.kept hl)).imp_right fun hr => by rw [hr]; simp
    · exact heff.removed hs₁ u i e (List.mem_singleton.mp hmem).symm
    · exact heff.counted hs₁ u (hsame.counted hc) fun _ _ _ => hfit
  · rw [hm]
    have hs₁ := hsame.listOk hs
    have heff₁ := addEntry_effect hadd
    have hs₂ := heff₁.listOk hs₁
    have heff₂ := removeEntry_effect hremove
    refine ⟨heff₂.listOk hs₂, fun u i e hl => ?_, fun u i e hmem => ?_, fun u hc hfit => ?_⟩
    · rcases heff₁.kept hs₁ u i e (hsame.kept hl) with hl₂ | hr
      · exact (heff₂.kept hs₂ u i e hl₂).imp_right fun hr => by rw [hr]; simp
      · cases hr
    · have hr : Move.remove u i e = .remove k j entry := by simpa using hmem
      exact heff₂.removed hs₂ u i e hr.symm
    · refine heff₂.counted hs₂ u (heff₁.counted hs₁ u (hsame.counted hc) fun i' e' hu => ?_)
        fun _ _ hu => absurd hu (by simp)
      obtain ⟨rfl, -, -⟩ := Move.add.inj hu
      rwa [← heff₂.others k j entry rfl newOwner hne]

end

/-- The lists of all users, as the head and the pages have them. -/
structure ListsExact (s : State) : Prop where
  pages : ∀ u c, s.aclConfigs u = some c → ∀ i, (s.aclPages u i).isSome ↔ i < c.pageCount
  page : ∀ u i p, s.aclPages u i = some p →
    p.entries.length ≤ maxAclPageEntries ∧ p.currentSize ≤ p.dataLen ∧ p.entries.Nodup

lemma listOk_reachable {env : Env} {s₀ s : State} {tr : Trace} (run : Run (AntStep env) s₀ tr s)
    (hs : Fresh s₀) (u : Pubkey) : ListOk s u := by
  induction run generalizing u with
  | nil =>
    refine ⟨fun c hc => ?_, fun i => ?_, fun i p hp => ?_⟩
    · rw [hs.aclConfigs] at hc
      cases hc
    · rw [hs.aclConfigs, hs.aclPages]
      simp
    · rw [hs.aclPages] at hp
      cases hp
  | cons run last ih => exact (event_effect (fun u => ih u) last).listOk u

lemma counted_reachable {env : Env} {s₀ s : State} {tr : Trace} (run : Run (AntStep env) s₀ tr s)
    (hs : Fresh s₀) {u : Pubkey} (hfit : ∀ e ∈ tr, listed e.after u < 2 ^ 64) : Counted s u := by
  induction run with
  | nil =>
    intro c hc
    rw [hs.aclConfigs] at hc
    cases hc
  | cons run last ih =>
    refine (event_effect (listOk_reachable run hs) last).counted u ?_ (hfit _ List.mem_cons_self)
    exact ih fun e he => hfit e (List.mem_cons_of_mem _ he)

/-- **The lists of users stay exact**: the pages are those below the count, none holds a pair twice
or more than it may, and the head counts the entries for as long as a word holds their number. A
step loses no entry but the ones that it removes, and those are not on their page any more. -/
theorem lists_exact {env : Env} {s₀ s : State} {tr : Trace} (run : Run (AntStep env) s₀ tr s)
    (hs : Fresh s₀) : ListsExact s ∧
    (∀ u, (∀ e ∈ tr, listed e.after u < 2 ^ 64) → Counted s u) ∧
    ∀ ev s', AntStep env s ev s' →
      (∀ u i e, Listed s u i e → Listed s' u i e ∨ .remove u i e ∈ ev.moves) ∧
      ∀ u i e, .remove u i e ∈ ev.moves → ¬Listed s' u i e := by
  have hok := listOk_reachable run hs
  refine ⟨⟨fun u c hc i => ?_, fun u i p hp => ?_⟩, fun u => counted_reachable run hs,
    fun ev s' h => ?_⟩
  · rw [(hok u).pages, hc]
    simp
  · have hpage := (hok u).page i p hp
    exact ⟨hpage.entries, hpage.size, hpage.nodup⟩
  · have heff := event_effect hok h
    exact ⟨heff.kept, heff.removed⟩

/-! ### A pair on two pages -/

namespace Small

/-- Alice's list has two pages, and her asset is put on both. -/
def listedTwice : List Event :=
  [.aclCall alice (.recordAclOwner asset 1), .aclCall alice (.recordAclOwner asset 0),
    .assetCall asset alice (.initializeAnt ⟨ascii "n", none, defaultLogo, none, [], [], []⟩),
    .aclCall alice .addAclPage, .aclCall alice .addAclPage, .aclCall alice .registerAclConfig]

/-- The asset goes to Bob, and the entry is removed from one of the pages. -/
def removedOnce : List Event :=
  .aclCall alice (.removeAclOwner asset 0) :: .mplTransfer asset bob :: listedTwice

def listedTwiceScript : Script := ⟨listedTwice, by decide +kernel⟩

def removedOnceScript : Script := ⟨removedOnce, by decide +kernel⟩

instance (s : State) (user : Pubkey) (index : ℕ) (entry : AclEntry) :
    Decidable (Listed s user index entry) :=
  match h : s.aclPages user index with
  | some p => decidable_of_iff (entry ∈ p.entries) (by simp [Listed, h])
  | none => .isFalse (by simp [Listed, h])

end Small

open Ant.Small in
/-- The same pair on two pages of a user, and still on one of them after a successful removal. -/
theorem listed_twice :
    (∃ tr s, Fresh start ∧ Run (AntStep env) start tr s ∧ Listed s alice 0 ⟨asset, .owner⟩ ∧
      Listed s alice 1 ⟨asset, .owner⟩) ∧
    ∃ tr s s', Fresh start ∧ Run (AntStep env) start tr s ∧
      AntStep env s (.aclCall alice (.removeAclOwner asset 0)) s' ∧
      s'.assets asset ≠ some alice ∧ Listed s' alice 1 ⟨asset, .owner⟩ := by
  refine ⟨⟨_, _, start_fresh, listedTwiceScript.run, by decide +kernel, by decide +kernel⟩, ?_⟩
  have hbefore : Run (AntStep env) start (history (.mplTransfer asset bob :: listedTwice))
      (after (.mplTransfer asset bob :: listedTwice)) :=
    run_traceOf (by decide +kernel)
  exact ⟨_, _, _, start_fresh, hbefore, removedOnceScript.last rfl, by decide +kernel,
    by decide +kernel⟩

open Ant.Small in
/-- After the removal the lists are exact, and a later step on Alice's list would keep them so. -/
theorem lists_exact_small : ListsExact (after removedOnce) ∧ Counted (after removedOnce) alice := by
  have hlists := lists_exact removedOnceScript.run start_fresh
  refine ⟨hlists.1, hlists.2.1 alice fun e he => ?_⟩
  have hall : ∀ n ∈ (history removedOnce).map (fun e => listed e.after alice), n < 2 ^ 64 := by
    decide +kernel
  exact hall _ (List.mem_map_of_mem he)

end Ant
end ArioSolana
