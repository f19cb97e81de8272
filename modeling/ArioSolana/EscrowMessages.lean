import ArioSolana.EscrowHistory

/-!
# What a signed message says

A claim message is a list of lines. No field contains the end of a line, so the message determines
its lines, and each line its field: the recipient, the type, the asset, the amount, the claimant and
the nonce. The two shapes of message differ in their first line.

Keys are written in base 58 by code outside the program; that text is assumed to be one line, and
different for different keys.
-/

namespace ArioSolana
namespace Escrow

open Checked Solana

/-- Texts that the surroundings provide are single lines, and keys have different texts. -/
structure Env.Plain (env : Env) : Prop where
  network : 10 ∉ env.network
  base58 : Function.Injective env.base58
  base58_line : ∀ k, 10 ∉ env.base58 k

/-! ### Texts without line ends -/

/-- The text is a single line. -/
def IsLine (l : List UInt8) : Prop := 10 ∉ l

lemma IsLine.append {l l' : List UInt8} (h : IsLine l) (h' : IsLine l') : IsLine (l ++ l') := by
  simp only [IsLine, List.mem_append, not_or] at *
  exact ⟨h, h'⟩

private lemma getD_ne {l : List UInt8} (h : IsLine l) (i : ℕ) : l.getD i 0 ≠ 10 := by
  rw [List.getD_eq_getElem?_getD]
  cases hi : l[i]? with
  | none => decide
  | some x =>
    rintro rfl
    exact h (List.mem_of_getElem? hi)

lemma isLine_hex (bytes : List UInt8) : IsLine (encodeHexLowercase bytes) := by
  have hdigits : IsLine (ascii "0123456789abcdef") := by
    unfold IsLine
    decide
  intro h
  obtain ⟨b, -, hb⟩ := List.mem_flatMap.mp h
  rcases List.mem_cons.mp hb with heq | hb
  · exact getD_ne hdigits _ heq.symm
  · exact getD_ne hdigits _ (List.mem_singleton.mp hb).symm

lemma digit_ne (i : ℕ) : base64urlNoPad.digit i ≠ 10 := by
  have halphabet :
      IsLine (ascii "ABCDEFGHIJKLMNOPQRSTUVWXYZabcdefghijklmnopqrstuvwxyz0123456789-_") := by
    unfold IsLine
    decide
  exact getD_ne halphabet i

lemma isLine_base64 (bytes : List UInt8) : IsLine (base64urlNoPad bytes) := by
  unfold IsLine
  fun_induction base64urlNoPad bytes with
  | case1 a b c rest n ih =>
    simp only [List.mem_cons, not_or]
    exact ⟨(digit_ne _).symm, (digit_ne _).symm, (digit_ne _).symm, (digit_ne _).symm, ih⟩
  | case2 a b n =>
    simp only [List.mem_cons, List.not_mem_nil, or_false, not_or]
    exact ⟨(digit_ne _).symm, (digit_ne _).symm, (digit_ne _).symm⟩
  | case3 a n =>
    simp only [List.mem_cons, List.not_mem_nil, or_false, not_or]
    exact ⟨(digit_ne _).symm, (digit_ne _).symm⟩
  | case4 => exact List.not_mem_nil

/-! ### Numbers -/

lemma toList_toString (n : ℕ) : (toString n).toList = Nat.toDigits 10 n := by simp [toString]

private lemma toNat_lt_of_isDigit {c : Char} (h : c.isDigit = true) :
    48 ≤ c.toNat ∧ c.toNat < 58 := by
  simp only [Char.isDigit, Bool.and_eq_true, decide_eq_true_eq, ge_iff_le,
    UInt32.le_iff_toNat_le] at h
  have h48 : (48 : UInt32).toNat = 48 := rfl
  have h57 : (57 : UInt32).toNat = 57 := rfl
  change 48 ≤ c.val.toNat ∧ c.val.toNat < 58
  simp only [Char.reduceVal, h48, h57] at h
  omega

private lemma char_of_byte {c : Char} (h : c.isDigit = true) :
    Char.ofNat (UInt8.ofNat c.toNat).toNat = c := by
  have hlt := (toNat_lt_of_isDigit h).2
  rw [UInt8.toNat_ofNat', Nat.mod_eq_of_lt (by omega), Char.ofNat_toNat]

lemma isLine_number (n : ℕ) : IsLine (ascii (toString n)) := by
  intro h
  rw [ascii, toList_toString] at h
  obtain ⟨c, hc, heq⟩ := List.mem_map.mp h
  have hdigit := Nat.isDigit_of_mem_toDigits (by decide) (by decide) hc
  obtain ⟨hlow, hhigh⟩ := toNat_lt_of_isDigit hdigit
  have hval := congrArg UInt8.toNat heq
  rw [UInt8.toNat_ofNat', Nat.mod_eq_of_lt (by omega)] at hval
  have h10 : (10 : UInt8).toNat = 10 := rfl
  omega

lemma number_inj {m n : ℕ} (h : ascii (toString m) = ascii (toString n)) : m = n := by
  have hback : ∀ n : ℕ, (ascii (toString n)).map (fun b => Char.ofNat b.toNat) = Nat.toDigits 10
      n := by
    intro n
    rw [ascii, toList_toString, List.map_map]
    refine (List.map_congr_left fun c hc => ?_).trans (List.map_id _)
    exact char_of_byte (Nat.isDigit_of_mem_toDigits (by decide) (by decide) hc)
  have hdigits : Nat.toDigits 10 m = Nat.toDigits 10 n := by rw [← hback, ← hback, h]
  rw [← Nat.ofDigitChars_ten_toDigits (n := m), hdigits, Nat.ofDigitChars_ten_toDigits]

/-! ### Recipients -/

private lemma digit_inj {i j : ℕ} (hi : i < 64) (hj : j < 64)
    (h : base64urlNoPad.digit i = base64urlNoPad.digit j) : i = j := by
  have key : ∀ i j : Fin 64, base64urlNoPad.digit i = base64urlNoPad.digit j → i = j := by
    decide +kernel
  exact Fin.val_eq_of_eq (key ⟨i, hi⟩ ⟨j, hj⟩ h)

lemma base64_inj {l l' : List UInt8} (hlen : l.length = l'.length)
    (h : base64urlNoPad l = base64urlNoPad l') : l = l' := by
  fun_induction base64urlNoPad l generalizing l' with
  | case1 a b c rest n =>
    rename_i ih
    obtain ⟨a', b', c', rest', rfl⟩ : ∃ a' b' c' rest', l' = a' :: b' :: c' :: rest' := by
      match l', hlen with
      | a' :: b' :: c' :: rest', _ => exact ⟨a', b', c', rest', rfl⟩
    simp only [base64urlNoPad, List.cons.injEq] at h
    obtain ⟨h1, h2, h3, h4, hrest⟩ := h
    have ha := a.toNat_lt
    have hb := b.toNat_lt
    have hc := c.toNat_lt
    have ha' := a'.toNat_lt
    have hb' := b'.toNat_lt
    have hc' := c'.toNat_lt
    have d1 := digit_inj (by omega) (by omega) h1
    have d2 := digit_inj (by omega) (by omega) h2
    have d3 := digit_inj (by omega) (by omega) h3
    have d4 := digit_inj (by omega) (by omega) h4
    have hrest' := ih (by simpa using hlen) hrest
    rw [UInt8.toNat_inj.mp (by omega : a.toNat = a'.toNat),
      UInt8.toNat_inj.mp (by omega : b.toNat = b'.toNat),
      UInt8.toNat_inj.mp (by omega : c.toNat = c'.toNat), hrest']
  | case2 a b =>
    obtain ⟨a', b', rfl⟩ : ∃ a' b', l' = [a', b'] := List.length_eq_two.mp hlen.symm
    simp only [base64urlNoPad, List.cons.injEq, and_true] at h
    obtain ⟨h1, h2, h3⟩ := h
    have ha := a.toNat_lt
    have hb := b.toNat_lt
    have ha' := a'.toNat_lt
    have hb' := b'.toNat_lt
    have d1 := digit_inj (by omega) (by omega) h1
    have d2 := digit_inj (by omega) (by omega) h2
    have d3 := digit_inj (by omega) (by omega) h3
    rw [UInt8.toNat_inj.mp (by omega : a.toNat = a'.toNat),
      UInt8.toNat_inj.mp (by omega : b.toNat = b'.toNat)]
  | case3 a =>
    obtain ⟨a', rfl⟩ : ∃ a', l' = [a'] := List.length_eq_one_iff.mp hlen.symm
    simp only [base64urlNoPad, List.cons.injEq, and_true] at h
    obtain ⟨h1, h2⟩ := h
    have ha := a.toNat_lt
    have ha' := a'.toNat_lt
    have d1 := digit_inj (by omega) (by omega) h1
    have d2 := digit_inj (by omega) (by omega) h2
    rw [UInt8.toNat_inj.mp (by omega : a.toNat = a'.toNat)]
  | case4 => exact (List.length_eq_zero_iff.mp hlen.symm).symm

lemma deriveRecipientId_eq {env : Env} {k k' : List UInt8}
    (h : deriveRecipientId env k = deriveRecipientId env k') : env.sha256 k = env.sha256 k' :=
  Vector.toList_inj.mp (base64_inj (by simp) h)

/-! ### Lines -/

lemma lines_inj {ls ls' : List (List UInt8)} (h : ∀ l ∈ ls, IsLine l) (h' : ∀ l ∈ ls', IsLine l)
    (hne : ls ≠ []) (hne' : ls' ≠ [])
    (heq : [(10 : UInt8)].intercalate ls = [(10 : UInt8)].intercalate ls') : ls = ls' := by
  rw [← List.splitOn_intercalate 10 h hne, heq, List.splitOn_intercalate 10 h' hne']

/-- The lines of a claim message for tokens. -/
def escrowClaimLines (env : Env) (assetType : String) (escrow : EscrowToken) (claimant : Pubkey) :
    List (List UInt8) :=
  [ascii "ar.io escrow claim", ascii "network: " ++ env.network,
    ascii "recipient: " ++ deriveRecipientId env escrow.recipientPubkey,
    ascii "type: " ++ ascii assetType,
    ascii "asset: " ++ encodeHexLowercase escrow.assetId.toList,
    ascii "amount: " ++ ascii (toString escrow.amount),
    ascii "claimant: " ++ env.base58 claimant,
    ascii "nonce: " ++ encodeHexLowercase escrow.nonce.toList]

/-- The lines of a claim message for an asset. -/
def antEscrowClaimLines (env : Env) (escrow : EscrowAnt) (claimant : Pubkey) : List (List UInt8) :=
  [ascii "ar.io ant-escrow claim", ascii "network: " ++ env.network,
    ascii "recipient: " ++ deriveRecipientId env escrow.recipientPubkey,
    ascii "ant: " ++ env.base58 escrow.antMint,
    ascii "claimant: " ++ env.base58 claimant,
    ascii "nonce: " ++ encodeHexLowercase escrow.nonce.toList]

section

variable {env : Env} {x x' : EscrowToken} {y y' : EscrowAnt} {c c' : Pubkey} {t t' : String}

lemma buildEscrowClaimMessage_eq : buildEscrowClaimMessage env t x c
    = [(10 : UInt8)].intercalate (escrowClaimLines env t x c) := by
  have hnetwork : ascii "\nnetwork: " = 10 :: ascii "network: " := rfl
  have hrecipient : ascii "\nrecipient: " = 10 :: ascii "recipient: " := rfl
  have htype : ascii "\ntype: " = 10 :: ascii "type: " := rfl
  have hasset : ascii "\nasset: " = 10 :: ascii "asset: " := rfl
  have hamount : ascii "\namount: " = 10 :: ascii "amount: " := rfl
  have hclaimant : ascii "\nclaimant: " = 10 :: ascii "claimant: " := rfl
  have hnonce : ascii "\nnonce: " = 10 :: ascii "nonce: " := rfl
  rw [buildEscrowClaimMessage, hnetwork, hrecipient, htype, hasset, hamount, hclaimant, hnonce]
  simp [escrowClaimLines, List.intercalate]

lemma buildAntEscrowClaimMessage_eq : buildAntEscrowClaimMessage env y c
    = [(10 : UInt8)].intercalate (antEscrowClaimLines env y c) := by
  have hnetwork : ascii "\nnetwork: " = 10 :: ascii "network: " := rfl
  have hrecipient : ascii "\nrecipient: " = 10 :: ascii "recipient: " := rfl
  have hant : ascii "\nant: " = 10 :: ascii "ant: " := rfl
  have hclaimant : ascii "\nclaimant: " = 10 :: ascii "claimant: " := rfl
  have hnonce : ascii "\nnonce: " = 10 :: ascii "nonce: " := rfl
  rw [buildAntEscrowClaimMessage, hnetwork, hrecipient, hant, hclaimant, hnonce]
  simp [antEscrowClaimLines, List.intercalate]

private lemma isLine_label : ∀ l ∈ [ascii "ar.io escrow claim", ascii "ar.io ant-escrow claim",
    ascii "network: ", ascii "recipient: ", ascii "type: ", ascii "asset: ", ascii "amount: ",
    ascii "ant: ", ascii "claimant: ", ascii "nonce: "], IsLine l := by
  unfold IsLine
  decide

lemma isLine_escrowClaimLines (henv : env.Plain) (ht : IsLine (ascii t)) :
    ∀ l ∈ escrowClaimLines env t x c, IsLine l := by
  intro l hl
  simp only [escrowClaimLines, List.mem_cons, List.not_mem_nil, or_false] at hl
  rcases hl with rfl | rfl | rfl | rfl | rfl | rfl | rfl | rfl
  · exact isLine_label _ (by simp)
  · exact (isLine_label _ (by simp)).append henv.network
  · exact (isLine_label _ (by simp)).append (isLine_base64 _)
  · exact (isLine_label _ (by simp)).append ht
  · exact (isLine_label _ (by simp)).append (isLine_hex _)
  · exact (isLine_label _ (by simp)).append (isLine_number _)
  · exact (isLine_label _ (by simp)).append (henv.base58_line c)
  · exact (isLine_label _ (by simp)).append (isLine_hex _)

lemma isLine_antEscrowClaimLines (henv : env.Plain) :
    ∀ l ∈ antEscrowClaimLines env y c, IsLine l := by
  intro l hl
  simp only [antEscrowClaimLines, List.mem_cons, List.not_mem_nil, or_false] at hl
  rcases hl with rfl | rfl | rfl | rfl | rfl | rfl
  · exact isLine_label _ (by simp)
  · exact (isLine_label _ (by simp)).append henv.network
  · exact (isLine_label _ (by simp)).append (isLine_base64 _)
  · exact (isLine_label _ (by simp)).append (henv.base58_line _)
  · exact (isLine_label _ (by simp)).append (henv.base58_line c)
  · exact (isLine_label _ (by simp)).append (isLine_hex _)

private lemma hex_inj {n n' : Bytes32}
    (h : encodeHexLowercase n.toList = encodeHexLowercase n'.toList) : n = n' :=
  Vector.toList_inj.mp (encodeHexLowercase_injective h)

/-- **A claim message says all that it is about**: the recipient, the type, the asset, the amount,
the claimant and the nonce. -/
theorem escrowClaim_inj (henv : env.Plain) (ht : IsLine (ascii t)) (ht' : IsLine (ascii t'))
    (h : buildEscrowClaimMessage env t x c = buildEscrowClaimMessage env t' x' c') :
    env.sha256 x.recipientPubkey = env.sha256 x'.recipientPubkey ∧ ascii t = ascii t' ∧
      x.assetId = x'.assetId ∧ x.amount = x'.amount ∧ c = c' ∧ x.nonce = x'.nonce := by
  rw [buildEscrowClaimMessage_eq, buildEscrowClaimMessage_eq] at h
  have hlines := lines_inj (isLine_escrowClaimLines henv ht) (isLine_escrowClaimLines henv ht')
    (by simp [escrowClaimLines]) (by simp [escrowClaimLines]) h
  simp only [escrowClaimLines, List.cons.injEq, List.append_cancel_left_eq, true_and,
    and_true] at hlines
  obtain ⟨hrecipient, htype, hasset, hamount, hclaimant, hnonce⟩ := hlines
  exact ⟨deriveRecipientId_eq hrecipient, htype, hex_inj hasset, number_inj hamount,
    henv.base58 hclaimant, hex_inj hnonce⟩

/-- The same for the message of an asset. -/
theorem antEscrowClaim_inj (henv : env.Plain)
    (h : buildAntEscrowClaimMessage env y c = buildAntEscrowClaimMessage env y' c') :
    env.sha256 y.recipientPubkey = env.sha256 y'.recipientPubkey ∧ y.antMint = y'.antMint ∧
      c = c' ∧ y.nonce = y'.nonce := by
  rw [buildAntEscrowClaimMessage_eq, buildAntEscrowClaimMessage_eq] at h
  have hlines := lines_inj (isLine_antEscrowClaimLines henv) (isLine_antEscrowClaimLines henv)
    (by simp [antEscrowClaimLines]) (by simp [antEscrowClaimLines]) h
  simp only [antEscrowClaimLines, List.cons.injEq, List.append_cancel_left_eq, true_and,
    and_true] at hlines
  obtain ⟨hrecipient, hmint, hclaimant, hnonce⟩ := hlines
  exact ⟨deriveRecipientId_eq hrecipient, henv.base58 hmint, henv.base58 hclaimant, hex_inj hnonce⟩

/-- The two shapes have different first lines. -/
theorem claim_shapes_differ (henv : env.Plain) (ht : IsLine (ascii t)) :
    buildEscrowClaimMessage env t x c ≠ buildAntEscrowClaimMessage env y c' := by
  intro h
  rw [buildEscrowClaimMessage_eq, buildAntEscrowClaimMessage_eq] at h
  have hlines := lines_inj (isLine_escrowClaimLines henv ht) (isLine_antEscrowClaimLines henv)
    (by simp [escrowClaimLines]) (by simp [antEscrowClaimLines]) h
  have hlength := congrArg List.length hlines
  simp [escrowClaimLines, antEscrowClaimLines] at hlength

end

end Escrow
end ArioSolana
