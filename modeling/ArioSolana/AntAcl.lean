import ArioSolana.AntTypes

/-!
# Who owns and controls what

For each user the program can keep a list of the assets that the user owns or controls: a head, and
pages with the entries. Anybody may bring the list into agreement with the assets and the
controllers, and the caller picks the page.
-/

namespace ArioSolana
namespace Ant

open Checked Solana

/-- A page's account without entries. -/
def aclPageMinSize : ℕ := 8 + 32 + 8 + 4 + 1 + 3

def aclEntrySize : ℕ := 32 + 1

/-- The length of the encoding of a page. -/
def AclPage.sizeFor (entryCount : ℕ) : ℕ := aclPageMinSize + entryCount * aclEntrySize

def AclPage.currentSize (page : AclPage) : ℕ := sizeFor page.entries.length

def AclPage.positionOf (page : AclPage) (entry : AclEntry) : Option ℕ :=
  page.entries.findIdx? (· = entry)

/-! ### Helpers -/

def readAssetOwner (s : State) (asset : Pubkey) : Except AntError Pubkey :=
  okOr (s.assets asset) .invalidAsset

/-- Give the account the length of its encoding. -/
def resyncPageSize (page : AclPage) : AclPage :=
  if page.currentSize = page.dataLen then page else { page with dataLen := page.currentSize }

def pagePushUnique (page : AclPage) (entry : AclEntry) : Except AntError AclPage := do
  require ((page.positionOf entry).isNone) .aclEntryAlreadyExists
  require (page.entries.length < maxAclPageEntries) .aclPageFull
  return { page with entries := page.entries ++ [entry] }

/-- Remove an element by putting the last one in its place. -/
def swapRemove (entries : List AclEntry) (pos : ℕ) : List AclEntry :=
  match entries.getLast? with
  | some last => (entries.set pos last).dropLast
  | none => []

def pageSwapRemove (page : AclPage) (entry : AclEntry) : Except AntError AclPage := do
  let pos ← okOr (page.positionOf entry) .aclEntryNotFound
  return { page with entries := swapRemove page.entries pos }

def assertPageBelongs (config : AclConfig) (page : AclPage) : Except AntError Unit := do
  require (page.user = config.user) .aclPageUserMismatch
  require (page.pageIdx < config.pageCount) .aclPageOutOfBounds

/-- The head at the address of its own user. -/
def loadAclConfig (s : State) (user : Pubkey) : Except AntError AclConfig := do
  let config ← okOr (s.aclConfigs user) .accountNotInitialized
  require (config.user = user) .constraintSeeds
  return config

/-- The page at the address of the head's user and its own index. -/
def loadAclPage (s : State) (config : AclConfig) (index : ℕ) : Except AntError AclPage := do
  let page ← okOr (s.aclPages config.user index) .accountNotInitialized
  require (page.pageIdx = index) .constraintSeeds
  return page

/-- Add an entry to a page of a user. -/
def addEntry (user : Pubkey) (index : ℕ) (entry : AclEntry) (s : State) :
    Except AntError State := do
  let config ← loadAclConfig s user
  let page ← loadAclPage s config index
  assertPageBelongs config page
  let page ← pagePushUnique page entry
  let s := s.setAclPage config.user index (some (resyncPageSize page))
  return s.setAclConfig user
    (some { config with totalEntries := saturatingAdd 64 config.totalEntries 1 })

/-- Remove an entry from a page of a user. The account keeps its length. -/
def removeEntry (user : Pubkey) (index : ℕ) (entry : AclEntry) (s : State) :
    Except AntError State := do
  let config ← loadAclConfig s user
  let page ← loadAclPage s config index
  assertPageBelongs config page
  let page ← pageSwapRemove page entry
  let s := s.setAclPage config.user index (some page)
  return s.setAclConfig user
    (some { config with totalEntries := saturatingSub config.totalEntries 1 })

/-! ### Heads and pages -/

def registerAclConfig (user : Pubkey) (s : State) : Except AntError State := do
  require ((s.aclConfigs user).isNone) .accountAlreadyInUse
  return s.setAclConfig user (some { user, pageCount := 0, totalEntries := 0 })

def closeAclConfig (user : Pubkey) (s : State) : Except AntError State := do
  let config ← loadAclConfig s user
  require (config.pageCount = 0) .aclConfigNotEmpty
  return s.setAclConfig user none

def addAclPage (user : Pubkey) (s : State) : Except AntError State := do
  let config ← loadAclConfig s user
  require ((s.aclPages config.user config.pageCount).isNone) .accountAlreadyInUse
  let pageCount ← okOr (checkedAdd 64 config.pageCount 1) .overflow
  let s := s.setAclPage config.user config.pageCount (some {
    user := config.user
    pageIdx := config.pageCount
    entries := []
    dataLen := aclPageMinSize })
  return s.setAclConfig user (some { config with pageCount })

def closeAclPage (user : Pubkey) (index : ℕ) (s : State) : Except AntError State := do
  let config ← loadAclConfig s user
  let page ← loadAclPage s config index
  require (page.user = config.user) .aclPageUserMismatch
  require (0 < config.pageCount ∧ page.pageIdx = config.pageCount - 1) .aclPageNotLast
  require (page.entries = []) .aclPageNotEmpty
  let s := s.setAclPage config.user index none
  return s.setAclConfig user (some { config with pageCount := config.pageCount - 1 })

/-! ### Entries -/

/-- The asset is one of this program. -/
def requireAnt (s : State) (asset : Pubkey) : Except AntError Unit :=
  require ((s.configs asset).isSome) .accountNotInitialized

def recordAclOwner (asset user : Pubkey) (index : ℕ) (s : State) : Except AntError State := do
  requireAnt s asset
  let nftOwner ← readAssetOwner s asset
  require (nftOwner = user) .notCurrentOwner
  addEntry user index ⟨asset, .owner⟩ s

def recordAclController (asset user : Pubkey) (index : ℕ) (s : State) : Except AntError State := do
  let _ ← readAssetOwner s asset
  let controllers ← okOr (s.controllers asset) .accountNotInitialized
  require (user ∈ controllers.controllers) .notCurrentController
  addEntry user index ⟨asset, .controller⟩ s

def removeAclOwner (asset user : Pubkey) (index : ℕ) (s : State) : Except AntError State := do
  requireAnt s asset
  let nftOwner ← readAssetOwner s asset
  require (nftOwner ≠ user) .stillCurrentOwner
  removeEntry user index ⟨asset, .owner⟩ s

def removeAclController (asset user : Pubkey) (index : ℕ) (s : State) : Except AntError State := do
  let _ ← readAssetOwner s asset
  let controllers ← okOr (s.controllers asset) .accountNotInitialized
  require (user ∉ controllers.controllers) .stillCurrentController
  removeEntry user index ⟨asset, .controller⟩ s

end Ant
end ArioSolana
