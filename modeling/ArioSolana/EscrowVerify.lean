import ArioSolana.EscrowTypes

/-!
# Who ordered the release

The message that a recipient signs is rebuilt from the escrow, never taken from the caller. An
Ethereum recipient signs it with `personal_sign`; for an Arweave recipient the attestor signs it,
and the program finds that signature in the instruction right before its own.
-/

namespace ArioSolana
namespace Escrow

open Checked Solana

/-! ### The canonical message -/

def encodeHexLowercase (bytes : List UInt8) : List UInt8 :=
  bytes.flatMap fun b => [(ascii "0123456789abcdef").getD (b.toNat / 16) 0,
    (ascii "0123456789abcdef").getD (b.toNat % 16) 0]

/-- Base64url without padding. -/
def base64urlNoPad : List UInt8 → List UInt8
  | a :: b :: c :: rest =>
    let n := a.toNat * 65536 + b.toNat * 256 + c.toNat
    digit (n / 262144) :: digit (n / 4096 % 64) :: digit (n / 64 % 64) :: digit (n % 64) ::
      base64urlNoPad rest
  | [a, b] =>
    let n := a.toNat * 65536 + b.toNat * 256
    [digit (n / 262144), digit (n / 4096 % 64), digit (n / 64 % 64)]
  | [a] =>
    let n := a.toNat * 65536
    [digit (n / 262144), digit (n / 4096 % 64)]
  | [] => []
where
  digit (i : ℕ) : UInt8 :=
    (ascii "ABCDEFGHIJKLMNOPQRSTUVWXYZabcdefghijklmnopqrstuvwxyz0123456789-_").getD i 0

def deriveRecipientId (env : Env) (recipientPubkey : List UInt8) : List UInt8 :=
  base64urlNoPad (env.sha256 recipientPubkey).toList

/-- The message whose signature releases an escrow. -/
def buildEscrowClaimMessage (env : Env) (assetType : String) (escrow : EscrowToken)
    (claimant : Pubkey) : List UInt8 :=
  ascii "ar.io escrow claim" ++ ascii "\nnetwork: " ++ env.network
    ++ ascii "\nrecipient: " ++ deriveRecipientId env escrow.recipientPubkey
    ++ ascii "\ntype: " ++ ascii assetType
    ++ ascii "\nasset: " ++ encodeHexLowercase escrow.assetId.toList
    ++ ascii "\namount: " ++ ascii (toString escrow.amount)
    ++ ascii "\nclaimant: " ++ env.base58 claimant
    ++ ascii "\nnonce: " ++ encodeHexLowercase escrow.nonce.toList

/-! ### Ethereum signatures -/

/-- The byte 25, and the text that wallets put before a message. -/
def eip191Prefix : List UInt8 := 25 :: ascii "Ethereum Signed Message:\n"

/-- Half of the order of the curve, most significant byte first. -/
def secp256k1NHalf : List UInt8 :=
  [0x7f, 0xff, 0xff, 0xff, 0xff, 0xff, 0xff, 0xff, 0xff, 0xff, 0xff, 0xff, 0xff, 0xff, 0xff, 0xff,
   0x5d, 0x57, 0x6e, 0x73, 0x57, 0xa4, 0x50, 0x1d, 0xdf, 0xe9, 0x2f, 0x46, 0x68, 0x1b, 0x20, 0xa0]

/-- The first byte that differs decides. -/
def isSLow : List UInt8 → List UInt8 → Bool
  | s :: ss, h :: hs => if s < h then true else if h < s then false else isSLow ss hs
  | _, _ => true

/-- Verify a `personal_sign` signature against an address. -/
def verifyPersonalSign (env : Env) (message signature expectedAddress : List UInt8) :
    Except EscrowError Unit := do
  require (signature.length = 65) .signatureVerificationFailed
  require (expectedAddress.length = ethereumPubkeyLen) .signatureVerificationFailed
  let hash := env.keccak256 (eip191Prefix ++ ascii (toString message.length) ++ message)
  let v := signature.getD 64 0
  let recoveryId ←
    if v = 0 ∨ v = 1 then pure v
    else if v = 27 ∨ v = 28 then pure (v - 27)
    else throw .invalidRecoveryId
  require (isSLow ((signature.drop 32).take 32) secp256k1NHalf) .ecdsaHighS
  let recovered ← okOr (env.secp256k1Recover hash recoveryId (signature.take 64))
    .signatureVerificationFailed
  require ((env.keccak256 recovered).toList.drop 12 = expectedAddress) .ethereumAddressMismatch

/-! ### Attestations -/

def u16Le (data : List UInt8) (offset : ℕ) : ℕ :=
  (data.getD offset 0).toNat + 256 * (data.getD (offset + 1) 0).toNat

/-- The data lies in the instruction itself. -/
def dataInSameIx : ℕ := 0xffff

/-- The instruction right before instruction `current` is a signature check of the native program,
of the attestor's signature of `message`. -/
def verifyAttestedSignature (env : Env) (instructions : List SiblingInstruction) (current : ℕ)
    (message : List UInt8) : Except EscrowError Unit := do
  require (0 < current) .missingAttestationInstruction
  let ix ← okOr instructions[current - 1]? .missingAttestationInstruction
  require (ix.programId = env.ed25519ProgramId) .missingAttestationInstruction
  let data := ix.data
  require (16 ≤ data.length) .malformedAttestationInstruction
  require (data.getD 0 0 = 1) .malformedAttestationInstruction
  require (data.getD 1 0 = 0) .malformedAttestationInstruction
  let sigOffset := u16Le data 2
  let sigIxIndex := u16Le data 4
  let pkOffset := u16Le data 6
  let pkIxIndex := u16Le data 8
  let msgOffset := u16Le data 10
  let msgSize := u16Le data 12
  let msgIxIndex := u16Le data 14
  require (sigIxIndex = dataInSameIx ∧ pkIxIndex = dataInSameIx ∧ msgIxIndex = dataInSameIx)
    .malformedAttestationInstruction
  require (pkOffset + 32 ≤ data.length ∧ sigOffset + 64 ≤ data.length ∧
    msgOffset + msgSize ≤ data.length) .malformedAttestationInstruction
  require ((data.drop pkOffset).take 32 = pubkeyBytes env.attestorPubkey) .attestationSignerMismatch
  require ((data.drop msgOffset).take msgSize = message) .attestationMessageMismatch

/-! ### Nonces -/

def deriveInitialNonce (env : Env) (slot : ℕ) (assetId : Bytes32) (depositor : Pubkey) : Bytes32 :=
  env.sha256 (u64Le slot ++ assetId.toList ++ pubkeyBytes depositor)

def deriveRotatedNonce (env : Env) (slot : ℕ) (assetId : Bytes32) (depositor : Pubkey)
    (oldNonce : Bytes32) : Bytes32 :=
  env.sha256 (u64Le slot ++ assetId.toList ++ pubkeyBytes depositor ++ oldNonce.toList)

end Escrow
end ArioSolana
