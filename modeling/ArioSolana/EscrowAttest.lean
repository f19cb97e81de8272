import ArioSolana.EscrowExits

/-!
# What an accepted attestation means

The escrow program does not verify the attestor's signature. It reads the instruction right before
its own, which the native Ed25519 program has read before, and the two must take the same bytes for
the key, the signature and the message. `verifyAttestedSignatureRaw` spells out each access to the
data and each subtraction that could stop the program; none of them ever does. -/

namespace ArioSolana
namespace Escrow

open Checked Solana Borsh

/-! ### The native program -/

/-- Where a signature, its key and its message lie. -/
structure SignatureOffsets where
  signatureOffset : ℕ
  signatureInstructionIndex : ℕ
  publicKeyOffset : ℕ
  publicKeyInstructionIndex : ℕ
  messageDataOffset : ℕ
  messageDataSize : ℕ
  messageInstructionIndex : ℕ

/-- Entry `i` of the header. -/
def signatureOffsets (data : List UInt8) (i : ℕ) : SignatureOffsets where
  signatureOffset := u16Le data (2 + 14 * i)
  signatureInstructionIndex := u16Le data (4 + 14 * i)
  publicKeyOffset := u16Le data (6 + 14 * i)
  publicKeyInstructionIndex := u16Le data (8 + 14 * i)
  messageDataOffset := u16Le data (10 + 14 * i)
  messageDataSize := u16Le data (12 + 14 * i)
  messageInstructionIndex := u16Le data (14 + 14 * i)

/-- Bytes of the instruction with the given index, or of the own one. -/
def getDataSlice (instructions : List SiblingInstruction) (data : List UInt8)
    (index offset size : ℕ) : Option (List UInt8) := do
  let source ← if index = dataInSameIx then some data else instructions[index]?.map (·.data)
  if offset + size ≤ source.length then some ((source.drop offset).take size) else none

/-- A key, a signature and a message, as the native program reads them. -/
structure SignedMessage where
  publicKey : List UInt8
  signature : List UInt8
  message : List UInt8

def readSigned (instructions : List SiblingInstruction) (data : List UInt8) (i : ℕ) :
    Option SignedMessage := do
  let offsets := signatureOffsets data i
  let signature ← getDataSlice instructions data offsets.signatureInstructionIndex
    offsets.signatureOffset 64
  let publicKey ← getDataSlice instructions data offsets.publicKeyInstructionIndex
    offsets.publicKeyOffset 32
  let message ← getDataSlice instructions data offsets.messageInstructionIndex
    offsets.messageDataOffset offsets.messageDataSize
  return { publicKey, signature, message }

/-- The number of signatures to check. -/
def numSignatures (data : List UInt8) : ℕ := (data.getD 0 0).toNat

/-- The native program accepts an instruction when each of its signatures verifies. -/
def Ed25519Accepts (verify : SignedMessage → Bool) (instructions : List SiblingInstruction)
    (data : List UInt8) : Prop :=
  ∀ i < numSignatures data, ∃ x, readSigned instructions data i = some x ∧ verify x = true

/-- In a transaction that executes, the native program accepts all its instructions. -/
def Executes (env : Env) (verify : SignedMessage → Bool) (instructions : List SiblingInstruction) :
    Prop :=
  ∀ ix ∈ instructions, ix.programId = env.ed25519ProgramId →
    Ed25519Accepts verify instructions ix.data

/-! ### Every access spelled out -/

def u16LeRaw (data : List UInt8) (offset : ℕ) : Except (Fault EscrowError) ℕ := do
  let low ← index data offset
  let high ← index data (offset + 1)
  return low.toNat + 256 * high.toNat

def verifyAttestedSignatureRaw (env : Env) (instructions : List SiblingInstruction) (current : ℕ)
    (message : List UInt8) : Except (Fault EscrowError) Unit := do
  require (0 < current) (.error .missingAttestationInstruction)
  let sigverifyIx ← okOr (checkedSub current 1) .panic
  let ix ← okOr instructions[sigverifyIx]? (.error .missingAttestationInstruction)
  require (ix.programId = env.ed25519ProgramId) (.error .missingAttestationInstruction)
  let data := ix.data
  require (16 ≤ data.length) (.error .malformedAttestationInstruction)
  let numSigs ← index data 0
  require (numSigs = 1) (.error .malformedAttestationInstruction)
  let padding ← index data 1
  require (padding = 0) (.error .malformedAttestationInstruction)
  let sigOffset ← u16LeRaw data 2
  let sigIxIndex ← u16LeRaw data 4
  let pkOffset ← u16LeRaw data 6
  let pkIxIndex ← u16LeRaw data 8
  let msgOffset ← u16LeRaw data 10
  let msgSize ← u16LeRaw data 12
  let msgIxIndex ← u16LeRaw data 14
  require (sigIxIndex = dataInSameIx ∧ pkIxIndex = dataInSameIx ∧ msgIxIndex = dataInSameIx)
    (.error .malformedAttestationInstruction)
  let pkEnd ← okOr (checkedAdd 64 pkOffset 32) (.error .malformedAttestationInstruction)
  let sigEnd ← okOr (checkedAdd 64 sigOffset 64) (.error .malformedAttestationInstruction)
  let msgEnd ← okOr (checkedAdd 64 msgOffset msgSize) (.error .malformedAttestationInstruction)
  require (pkEnd ≤ data.length ∧ sigEnd ≤ data.length ∧ msgEnd ≤ data.length)
    (.error .malformedAttestationInstruction)
  let pubkeyBytes ← slice data pkOffset pkEnd
  let messageBytes ← slice data msgOffset msgEnd
  require (pubkeyBytes = Solana.pubkeyBytes env.attestorPubkey) (.error .attestationSignerMismatch)
  require (messageBytes = message) (.error .attestationMessageMismatch)

section

variable {env : Env} {instructions : List SiblingInstruction} {current : ℕ}
  {message data : List UInt8} {α β : Type} {p : Prop} [Decidable p] {e : EscrowError}

lemma u16LeRaw_of_lt {i : ℕ} (h : i + 1 < data.length) : u16LeRaw data i = .ok (u16Le data i) := by
  rw [u16LeRaw, index_of_lt (by omega), ok_bind, index_of_lt h]
  rfl

lemma u16Le_lt (data : List UInt8) (i : ℕ) : u16Le data i < 65536 := by
  have hlow := (data.getD i 0).toNat_lt
  have hhigh := (data.getD (i + 1) 0).toNat_lt
  unfold u16Le
  omega

lemma mapError_bind (x : Except EscrowError α) (f : α → Except EscrowError β) :
    (x >>= f).mapError Fault.error = (x.mapError Fault.error >>= fun a => (f a).mapError
        Fault.error) := by
  cases x <;> rfl

lemma mapError_require : (require p e).mapError Fault.error = require p (Fault.error e) := by
  unfold require
  split <;> rfl

lemma mapError_okOr {o : Option α} : (okOr o e).mapError Fault.error = okOr o (Fault.error e) := by
  cases o <;> rfl

lemma require_bind_congr {s : Fault EscrowError} {f g : Except (Fault EscrowError) β} (h : p → f = g) :
    (require p s >>= fun _ => f) = (require p s >>= fun _ => g) := by
  by_cases hp : p
  · rw [h hp]
  · unfold require
    rw [if_neg hp]
    rfl

lemma verifyAttestedSignatureRaw_eq : verifyAttestedSignatureRaw env instructions current message
    = (verifyAttestedSignature env instructions current message).mapError Fault.error := by
  simp only [verifyAttestedSignature, verifyAttestedSignatureRaw, mapError_bind, mapError_require,
    mapError_okOr]
  refine require_bind_congr fun hcurrent => ?_
  rw [checkedSub, if_pos (show 1 ≤ current from hcurrent), okOr_some, ok_bind]
  cases instructions[current - 1]? with
  | none => rfl
  | some ix =>
    simp only [okOr_some, ok_bind]
    refine require_bind_congr fun _ => require_bind_congr fun hlength => ?_
    rw [index_of_lt (by omega), ok_bind]
    refine require_bind_congr fun _ => ?_
    rw [index_of_lt (by omega), ok_bind]
    refine require_bind_congr fun _ => ?_
    have hread (i : ℕ) (hi : i ≤ 14) : u16LeRaw ix.data i = .ok (u16Le ix.data i) :=
      u16LeRaw_of_lt (by omega)
    have hword := u16Le_lt ix.data
    rw [hread 2 (by omega), hread 4 (by omega), hread 6 (by omega), hread 8 (by omega),
      hread 10 (by omega), hread 12 (by omega), hread 14 (by omega)]
    simp only [ok_bind]
    refine require_bind_congr fun _ => ?_
    have hsig := hword 2
    have hpk := hword 6
    have hmsg := hword 10
    have hsize := hword 12
    rw [okOr_checkedAdd (by omega), okOr_checkedAdd (by omega), okOr_checkedAdd (by omega)]
    simp only [ok_bind]
    refine require_bind_congr fun hbounds => ?_
    rw [slice_of_le hbounds.1, slice_of_le hbounds.2.2]
    rfl

lemma getDataSlice_own {offset size : ℕ} (h : offset + size ≤ data.length) :
    getDataSlice instructions data dataInSameIx offset size
      = some ((data.drop offset).take size) := by
  simp [getDataSlice, h]

/-- The native program reads from the instruction what the escrow program reads. -/
lemma readSigned_of_ok {u : Unit}
    (h : verifyAttestedSignature env instructions current message = .ok u) :
    ∃ ix signature, 0 < current ∧ instructions[current - 1]? = some ix ∧
      ix.programId = env.ed25519ProgramId ∧ numSignatures ix.data = 1 ∧
      readSigned instructions ix.data 0
        = some ⟨pubkeyBytes env.attestorPubkey, signature, message⟩ := by
  simp only [verifyAttestedSignature, bind_eq_ok, require_eq_ok, okOr_eq_ok, exists_const] at h
  obtain ⟨hpos, ix, hix, hprogram, -, hcount, -, ⟨hsame, hsame', hsame''⟩, ⟨hpk, hsig, hmsg⟩, hkey,
    hmessage⟩ := h
  refine ⟨ix, (ix.data.drop (u16Le ix.data 2)).take 64, hpos, hix, hprogram, ?_, ?_⟩
  · rw [numSignatures, hcount]
    rfl
  · simp only [readSigned, signatureOffsets, Nat.mul_zero, Nat.add_zero, hsame, hsame', hsame'']
    rw [getDataSlice_own hsig, getDataSlice_own hpk, getDataSlice_own hmsg, hkey, hmessage]
    rfl

end

/-- **Attestations.** Whatever the transaction and the data of its instructions, the check never
reads outside the data and never leaves a word. If it succeeds in a transaction that executes, the
instruction right before verified exactly one signature, by the attestor over exactly the expected
message. -/
theorem attestation_verified (env : Env) (verify : SignedMessage → Bool)
    (instructions : List SiblingInstruction) (current : ℕ) (message : List UInt8) :
    (verifyAttestedSignatureRaw env instructions current message
      = (verifyAttestedSignature env instructions current message).mapError Fault.error) ∧
    (Executes env verify instructions →
      verifyAttestedSignature env instructions current message = .ok () →
      ∃ ix signature, 0 < current ∧ instructions[current - 1]? = some ix ∧
        ix.programId = env.ed25519ProgramId ∧ numSignatures ix.data = 1 ∧
        readSigned instructions ix.data 0
          = some ⟨pubkeyBytes env.attestorPubkey, signature, message⟩ ∧
        verify ⟨pubkeyBytes env.attestorPubkey, signature, message⟩ = true) := by
  refine ⟨verifyAttestedSignatureRaw_eq, fun hexec h => ?_⟩
  obtain ⟨ix, signature, hpos, hix, hprogram, hcount, hread⟩ := readSigned_of_ok h
  refine ⟨ix, signature, hpos, hix, hprogram, hcount, hread, ?_⟩
  obtain ⟨x, hx, hverified⟩ := hexec ix (List.mem_of_getElem? hix) hprogram 0 (by omega)
  obtain rfl := Option.some.inj (hread.symm.trans hx)
  exact hverified

namespace SmallChain

/-- A public key of Ed25519. -/
def attestorBytes : List UInt8 :=
  [0x3d, 0x40, 0x17, 0xc3, 0xe8, 0x43, 0x89, 0x5a, 0x92, 0xb7, 0x0a, 0xa7, 0x4d, 0x1b, 0x7e, 0xbc,
   0x9c, 0x98, 0x2c, 0xcf, 0x2e, 0xc4, 0x96, 0x8c, 0xc0, 0xcd, 0x55, 0xf1, 0x2a, 0xf4, 0x66, 0x0c]

/-- The signature of the one byte `0x72` by that key. -/
def signatureBytes : List UInt8 :=
  [0x92, 0xa0, 0x09, 0xa9, 0xf0, 0xd4, 0xca, 0xb8, 0x72, 0x0e, 0x82, 0x0b, 0x5f, 0x64, 0x25, 0x40,
   0xa2, 0xb2, 0x7b, 0x54, 0x16, 0x50, 0x3f, 0x8f, 0xb3, 0x76, 0x22, 0x23, 0xeb, 0xdb, 0x69, 0xda,
   0x08, 0x5a, 0xc1, 0xe4, 0x3e, 0x15, 0x99, 0x6e, 0x45, 0x8f, 0x36, 0x13, 0xd0, 0xf1, 0x1d, 0x8c,
   0x38, 0x7b, 0x2e, 0xae, 0xb4, 0x30, 0x2a, 0xee, 0xb0, 0x0d, 0x29, 0x16, 0x12, 0xbb, 0x0c, 0x00]

/-- A chain with that key as the attestor's. -/
def attested : Env :=
  { chain with
    attestorPubkey :=
      ⟨5609657767448528674903586191599477543993232845525898641911799861560072421437⟩ }

/-- The check of that signature: the key at 16, the signature at 48 and the message at 112. -/
def sigverify : SiblingInstruction where
  programId := attested.ed25519ProgramId
  data := [1, 0, 48, 0, 255, 255, 16, 0, 255, 255, 112, 0, 1, 0, 255, 255]
    ++ attestorBytes ++ signatureBytes ++ [0x72]

/-- Ed25519 on the inputs of that check. -/
def verify (x : SignedMessage) : Bool :=
  x.publicKey = attestorBytes ∧ x.signature = signatureBytes ∧ x.message = [0x72]

end SmallChain

open SmallChain in
theorem attestation_verified_small :
    ∃ signature, verify ⟨pubkeyBytes attested.attestorPubkey, signature, [0x72]⟩ = true := by
  have hexec : Executes attested verify [sigverify] := by
    intro ix hix _ i hi
    obtain rfl := List.mem_singleton.mp hix
    obtain rfl : i = 0 := Nat.lt_one_iff.mp hi
    refine ⟨⟨attestorBytes, signatureBytes, [0x72]⟩, ?_, by decide +kernel⟩
    rfl
  have hok : verifyAttestedSignature attested [sigverify] 1 [0x72] = .ok () := by decide +kernel
  obtain ⟨_, signature, -, -, -, -, -, hverified⟩ :=
    (attestation_verified attested verify [sigverify] 1 [0x72]).2 hexec hok
  exact ⟨signature, hverified⟩

end Escrow
end ArioSolana
