import ArioSolana.Base58
import ArioSolana.EscrowMessages
import ArioSolana.EscrowExits
import ArioSolana.EscrowNonces

/-!
# The canonical claim messages

The attestor builds the messages a second time, in `canonical/ant-escrow.ts`. Both sides write the
same bytes, and the bytes say all that a claim is about. On both sides keys are written in base 58
by a library; hashes are taken to tell the recipients' keys apart.

A text of the second program is the list of its UTF-8 bytes.
-/

namespace ArioSolana
namespace Escrow

open Checked Solana

/-! ### The builders of the clients -/

/-- An exception, with its message. -/
structure TsError where
  message : String
deriving DecidableEq

/-- The libraries of the clients. -/
structure TsEnv where
  /-- `@noble/hashes` -/
  sha256 : List UInt8 → List UInt8
  /-- `bs58` -/
  bs58Encode : List UInt8 → List UInt8

/-- The sign for six bits. -/
def base64urlSign (v : ℕ) : UInt8 :=
  if v < 26 then UInt8.ofNat (65 + v)
  else if v < 52 then UInt8.ofNat (97 + (v - 26))
  else if v < 62 then UInt8.ofNat (48 + (v - 52))
  else if v = 62 then 45
  else 95

/-- `Buffer.from(bytes).toString("base64url")`: each octet split between two signs. -/
def bytesToBase64UrlNoPad : List UInt8 → List UInt8
  | a :: b :: c :: rest =>
    base64urlSign (a.toNat / 4) :: base64urlSign (a.toNat % 4 * 16 + b.toNat / 16) ::
      base64urlSign (b.toNat % 16 * 4 + c.toNat / 64) :: base64urlSign (c.toNat % 64) ::
      bytesToBase64UrlNoPad rest
  | [a, b] =>
    [base64urlSign (a.toNat / 4), base64urlSign (a.toNat % 4 * 16 + b.toNat / 16),
      base64urlSign (b.toNat % 16 * 4)]
  | [a] => [base64urlSign (a.toNat / 4), base64urlSign (a.toNat % 4 * 16)]
  | [] => []

def padStart (n : ℕ) (c : UInt8) (l : List UInt8) :
    List UInt8 := List.replicate (n - l.length) c ++ l

/-- `b.toString(16).padStart(2, "0")` for each byte. -/
def hexLowercase (bytes : List UInt8) : List UInt8 :=
  bytes.flatMap fun b =>
    padStart 2 48 ((Nat.toDigits 16 b.toNat).map fun c => UInt8.ofNat c.toNat)

def deriveRecipientIdB64Url (ts : TsEnv) (recipientPubkeyActive : List UInt8) : List UInt8 :=
  bytesToBase64UrlNoPad (ts.sha256 recipientPubkeyActive)

/-- The check of a length, which names the argument. -/
def require32 (name : String) (bytes : List UInt8) : Except TsError Unit :=
  require (bytes.length = 32) ⟨name ++ " must be 32 bytes, got " ++ toString bytes.length⟩

def tsBuildAntEscrowClaimMessage (ts : TsEnv)
    (antMint claimant nonce network recipientPubkey : List UInt8) : Except TsError
    (List UInt8) := do
  require32 "antMint" antMint
  require32 "claimant" claimant
  require32 "nonce" nonce
  require (recipientPubkey.length ≠ 0) ⟨"recipientPubkey must be non-empty"⟩
  let lines := [ascii "ar.io ant-escrow claim",
    ascii "network: " ++ network,
    ascii "recipient: " ++ deriveRecipientIdB64Url ts recipientPubkey,
    ascii "ant: " ++ ts.bs58Encode antMint,
    ascii "claimant: " ++ ts.bs58Encode claimant,
    ascii "nonce: " ++ hexLowercase nonce]
  return [(10 : UInt8)].intercalate lines

/-- The types of the second shape. -/
inductive ClaimType where
  | token
  | vault
deriving DecidableEq

def ClaimType.text : ClaimType → String
  | .token => "token"
  | .vault => "vault"

def tsBuildEscrowClaimMessage (ts : TsEnv) (assetType : ClaimType) (assetId : List UInt8)
    (amount : ℤ) (claimant nonce network recipientPubkey : List UInt8) :
    Except TsError (List UInt8) := do
  require32 "assetId" assetId
  require32 "claimant" claimant
  require32 "nonce" nonce
  require (¬ (amount < 0 ∨ 0xffffffffffffffff < amount))
    ⟨"amount must fit in u64, got " ++ toString amount⟩
  require (recipientPubkey.length ≠ 0) ⟨"recipientPubkey must be non-empty"⟩
  let lines := [ascii "ar.io escrow claim",
    ascii "network: " ++ network,
    ascii "recipient: " ++ deriveRecipientIdB64Url ts recipientPubkey,
    ascii "type: " ++ ascii assetType.text,
    ascii "asset: " ++ hexLowercase assetId,
    ascii "amount: " ++ ascii (toString amount),
    ascii "claimant: " ++ ts.bs58Encode claimant,
    ascii "nonce: " ++ hexLowercase nonce]
  return [(10 : UInt8)].intercalate lines

/-! ### The encoders agree -/

section

variable {env : Env} {ts : TsEnv} {bytes : List UInt8} {k : Pubkey} {x x' : EscrowToken}
  {y y' : EscrowAnt} {c c' : Pubkey} {t t' : ClaimType}

lemma digit_eq_sign {i : ℕ} (h : i < 64) : base64urlNoPad.digit i = base64urlSign i := by
  have hall : ∀ i : Fin 64, base64urlNoPad.digit i = base64urlSign i := by decide +kernel
  exact hall ⟨i, h⟩

lemma base64_eq (bytes : List UInt8) : base64urlNoPad bytes = bytesToBase64UrlNoPad bytes := by
  fun_induction base64urlNoPad bytes with
  | case1 a b c rest n ih =>
    have ha := a.toNat_lt
    have hb := b.toNat_lt
    have hc := c.toNat_lt
    have h1 : n / 262144 = a.toNat / 4 := by omega
    have h2 : n / 4096 % 64 = a.toNat % 4 * 16 + b.toNat / 16 := by omega
    have h3 : n / 64 % 64 = b.toNat % 16 * 4 + c.toNat / 64 := by omega
    have h4 : n % 64 = c.toNat % 64 := by omega
    rw [h1, h2, h3, h4, digit_eq_sign (by omega), digit_eq_sign (by omega),
      digit_eq_sign (by omega), digit_eq_sign (by omega), ih, bytesToBase64UrlNoPad]
  | case2 a b n =>
    have ha := a.toNat_lt
    have hb := b.toNat_lt
    have h1 : n / 262144 = a.toNat / 4 := by omega
    have h2 : n / 4096 % 64 = a.toNat % 4 * 16 + b.toNat / 16 := by omega
    have h3 : n / 64 % 64 = b.toNat % 16 * 4 := by omega
    rw [h1, h2, h3, digit_eq_sign (by omega), digit_eq_sign (by omega), digit_eq_sign (by omega),
      bytesToBase64UrlNoPad]
  | case3 a n =>
    have ha := a.toNat_lt
    have h1 : n / 262144 = a.toNat / 4 := by omega
    have h2 : n / 4096 % 64 = a.toNat % 4 * 16 := by omega
    rw [h1, h2, digit_eq_sign (by omega), digit_eq_sign (by omega), bytesToBase64UrlNoPad]
  | case4 => rfl

lemma hex_eq (bytes : List UInt8) : encodeHexLowercase bytes = hexLowercase bytes := by
  have hbyte : ∀ n : Fin 256, [(ascii "0123456789abcdef").getD (n.val / 16) 0,
      (ascii "0123456789abcdef").getD (n.val % 16) 0]
      = padStart 2 48 ((Nat.toDigits 16 n.val).map fun c => UInt8.ofNat c.toNat) := by
    decide +kernel
  rw [encodeHexLowercase, hexLowercase]
  refine List.flatMap_congr fun b _ => ?_
  exact hbyte ⟨b.toNat, b.toNat_lt⟩

lemma require32_ok {name : String} (h : bytes.length = 32) : require32 name bytes = .ok () :=
  require_of h

/-- The libraries do what their documentation says: both write base 58, and both hash with
SHA-256. -/
structure Libraries (env : Env) (ts : TsEnv) : Prop where
  rust58 : ∀ k, env.base58 k = Base58.encode (pubkeyBytes k)
  bs58 : ∀ bytes, ts.bs58Encode bytes = Base58.encode bytes
  sha256 : ∀ bytes, ts.sha256 bytes = (env.sha256 bytes).toList

lemma Libraries.plain (h : Libraries env ts) (hnetwork : 10 ∉ env.network) : env.Plain where
  network := hnetwork
  base58 k k' heq := by
    rw [h.rust58, h.rust58] at heq
    exact pubkeyBytes_inj (Base58.encode_injective heq)
  base58_line k := by
    rw [h.rust58]
    exact Base58.newline_notMem_encode _

lemma Libraries.recipient (h : Libraries env ts) :
    deriveRecipientIdB64Url ts bytes = deriveRecipientId env bytes := by
  rw [deriveRecipientIdB64Url, deriveRecipientId, h.sha256, base64_eq]

lemma ClaimType.isLine (t : ClaimType) : IsLine (ascii t.text) := by
  unfold IsLine
  cases t <;> decide

lemma ClaimType.text_inj (h : ascii t.text = ascii t'.text) : t = t' := by
  revert h
  cases t <;> cases t' <;> decide

lemma Libraries.ant_eq (h : Libraries env ts) (hkey : y.recipientPubkey ≠ []) :
    tsBuildAntEscrowClaimMessage ts (pubkeyBytes y.antMint) (pubkeyBytes c) y.nonce.toList
      env.network y.recipientPubkey = .ok (buildAntEscrowClaimMessage env y c) := by
  have hlen : y.recipientPubkey.length ≠ 0 := fun hzero => hkey (List.length_eq_zero_iff.mp hzero)
  rw [tsBuildAntEscrowClaimMessage, require32_ok (pubkeyBytes_length _), ok_bind,
    require32_ok (pubkeyBytes_length _), ok_bind, require32_ok (by simp), ok_bind,
    require_of hlen, ok_bind, buildAntEscrowClaimMessage_eq]
  simp only [h.recipient, h.bs58, ← h.rust58, ← hex_eq]
  rfl

lemma Libraries.escrow_eq (h : Libraries env ts) (hkey : x.recipientPubkey ≠ [])
    (hamount : x.amount < 2 ^ 64) :
    tsBuildEscrowClaimMessage ts t x.assetId.toList x.amount (pubkeyBytes c) x.nonce.toList
      env.network x.recipientPubkey = .ok (buildEscrowClaimMessage env t.text x c) := by
  have hlen : x.recipientPubkey.length ≠ 0 := fun hzero => hkey (List.length_eq_zero_iff.mp hzero)
  have hfits : ¬ ((x.amount : ℤ) < 0 ∨ 0xffffffffffffffff < (x.amount : ℤ)) := by omega
  have hdecimal : toString (x.amount : ℤ) = toString x.amount := rfl
  rw [tsBuildEscrowClaimMessage, require32_ok (by simp), ok_bind,
    require32_ok (pubkeyBytes_length _), ok_bind, require32_ok (by simp), ok_bind,
    require_of hfits, ok_bind, require_of hlen, ok_bind, buildEscrowClaimMessage_eq]
  simp only [h.recipient, h.bs58, ← h.rust58, ← hex_eq, hdecimal]
  rfl

end

/-- **Canonical messages.** If hashes tell the recipients' keys apart and the network is one line:
each builder's message determines all of its arguments, no message of one builder is one of the
other, and none for tokens is one for a vault. For all arguments both programs write the same bytes.
-/
theorem canonical_messages (env : Env) (ts : TsEnv) (keys : Set (List UInt8))
    (hlib : Libraries env ts) (hnetwork : 10 ∉ env.network) (hsha : Set.InjOn env.sha256 keys) :
    (∀ y y' c c', y.recipientPubkey ∈ keys → y'.recipientPubkey ∈ keys →
      buildAntEscrowClaimMessage env y c = buildAntEscrowClaimMessage env y' c' →
      y.antMint = y'.antMint ∧ c = c' ∧ y.nonce = y'.nonce ∧
        y.recipientPubkey = y'.recipientPubkey) ∧
    (∀ (t t' : ClaimType) x x' c c', x.recipientPubkey ∈ keys → x'.recipientPubkey ∈ keys →
      buildEscrowClaimMessage env t.text x c = buildEscrowClaimMessage env t'.text x' c' →
      t = t' ∧ x.assetId = x'.assetId ∧ x.amount = x'.amount ∧ c = c' ∧ x.nonce = x'.nonce ∧
        x.recipientPubkey = x'.recipientPubkey) ∧
    (∀ (t : ClaimType) x y c c',
      buildEscrowClaimMessage env t.text x c ≠ buildAntEscrowClaimMessage env y c') ∧
    (∀ x x' c c', buildEscrowClaimMessage env ClaimType.token.text x c
      ≠ buildEscrowClaimMessage env ClaimType.vault.text x' c') ∧
    (∀ y c, y.recipientPubkey ≠ [] →
      tsBuildAntEscrowClaimMessage ts (pubkeyBytes y.antMint) (pubkeyBytes c) y.nonce.toList
        env.network y.recipientPubkey = .ok (buildAntEscrowClaimMessage env y c)) ∧
    (∀ (t : ClaimType) x c, x.recipientPubkey ≠ [] → x.amount < 2 ^ 64 →
      tsBuildEscrowClaimMessage ts t x.assetId.toList x.amount (pubkeyBytes c) x.nonce.toList
        env.network x.recipientPubkey = .ok (buildEscrowClaimMessage env t.text x c)) := by
  have hplain := hlib.plain hnetwork
  refine ⟨fun y y' c c' hy hy' h => ?_, fun t t' x x' c c' hx hx' h => ?_,
    fun t x y c c' => claim_shapes_differ hplain t.isLine, fun x x' c c' h => ?_,
    fun y c hkey => hlib.ant_eq hkey, fun t x c hkey hamount => hlib.escrow_eq hkey hamount⟩
  · obtain ⟨hkey, hmint, hc, hnonce⟩ := antEscrowClaim_inj hplain h
    exact ⟨hmint, hc, hnonce, hsha hy hy' hkey⟩
  · obtain ⟨hkey, ht, hasset, hamount, hc, hnonce⟩ :=
      escrowClaim_inj hplain t.isLine t'.isLine h
    exact ⟨ClaimType.text_inj ht, hasset, hamount, hc, hnonce, hsha hx hx' hkey⟩
  · obtain ⟨-, ht, -⟩ := escrowClaim_inj hplain (ClaimType.isLine .token)
      (ClaimType.isLine .vault) h
    cases ClaimType.text_inj ht

namespace SmallChain

/-- The hash of twenty zero bytes. -/
def zeroDigest : Bytes32 :=
  #v[222, 71, 201, 178, 126, 184, 211, 0, 219, 181, 242, 195, 83, 230, 50, 195, 147, 38, 44, 240,
    99, 64, 196, 250, 127, 27, 64, 196, 203, 211, 111, 144]

/-- The hash of twenty ones. -/
def oneDigest : Bytes32 :=
  #v[155, 143, 101, 96, 125, 137, 30, 188, 158, 225, 138, 221, 79, 134, 103, 72, 69, 110, 188, 226,
    216, 240, 189, 156, 154, 142, 80, 136, 113, 97, 127, 39]

/-- SHA-256 of the two keys that occur here. -/
def keyDigest (key : List UInt8) : Bytes32 :=
  if key = List.replicate 20 1 then oneDigest else zeroDigest

def textEnv : Env :=
  { chain with
    sha256 := keyDigest
    base58 := fun k => Base58.encode (pubkeyBytes k) }

def clients : TsEnv := ⟨fun key => (keyDigest key).toList, Base58.encode⟩

/-- The escrow of the second key. -/
def heldByOther : EscrowToken := { held with recipientPubkey := List.replicate 20 1 }

lemma keyDigest_injOn :
    Set.InjOn keyDigest {List.replicate 20 0, List.replicate 20 1} := by
  have hne : zeroDigest ≠ oneDigest := by decide
  have hzero : keyDigest (List.replicate 20 0) = zeroDigest := by decide
  have hone : keyDigest (List.replicate 20 1) = oneDigest := by decide
  rintro _ (rfl | rfl) _ (rfl | rfl) h
  · rfl
  · exact absurd (hzero.symm.trans (h.trans hone)) hne
  · exact absurd (hzero.symm.trans (h.symm.trans hone)) hne
  · rfl

end SmallChain

open SmallChain in
theorem canonical_messages_small :
    tsBuildEscrowClaimMessage clients .token held.assetId.toList held.amount (pubkeyBytes ⟨22⟩)
      held.nonce.toList textEnv.network (List.replicate 20 0)
      = .ok (buildEscrowClaimMessage textEnv ClaimType.token.text held ⟨22⟩) ∧
    buildEscrowClaimMessage textEnv ClaimType.token.text held ⟨22⟩
      ≠ buildEscrowClaimMessage textEnv ClaimType.vault.text held ⟨22⟩ ∧
    buildEscrowClaimMessage textEnv ClaimType.token.text held ⟨22⟩
      ≠ buildEscrowClaimMessage textEnv ClaimType.token.text heldByOther ⟨22⟩ := by
  have hlib : Libraries textEnv clients := ⟨fun _ => rfl, fun _ => rfl, fun _ => rfl⟩
  obtain ⟨-, hinj, -, hshapes, -, hclients⟩ := canonical_messages textEnv clients
    {List.replicate 20 0, List.replicate 20 1} hlib (by decide) keyDigest_injOn
  refine ⟨hclients .token held ⟨22⟩ (by decide) (by decide), hshapes _ _ _ _, fun heq => ?_⟩
  obtain ⟨-, -, -, -, -, hkey⟩ := hinj .token .token held heldByOther ⟨22⟩ ⟨22⟩ (.inl rfl)
    (.inr rfl) heq
  cases hkey

end Escrow
end ArioSolana
