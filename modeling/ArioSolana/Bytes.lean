import ArioSolana.Borsh
import ArioSolana.Solana

/-!
# Bytes of texts, keys and words
-/

namespace ArioSolana
namespace Solana

open Borsh

/-- 32 bytes: a digest, a nonce, or the id of an asset. -/
abbrev Bytes32 := Vector UInt8 32

/-- The bytes of an ASCII text. -/
def ascii (text : String) : List UInt8 := text.toList.map fun c => UInt8.ofNat c.toNat

/-- Bytes of a key. -/
def pubkeyBytes (k : Pubkey) : List UInt8 := leBytes 32 k.bytes.val

/-- A word of 64 bits, least significant byte first. -/
def u64Le (n : ℕ) : List UInt8 := leBytes 8 n

lemma u64Le_length (n : ℕ) : (u64Le n).length = 8 := leBytes_length 8 n

lemma pubkeyBytes_length (k : Pubkey) : (pubkeyBytes k).length = 32 := leBytes_length 32 _

end Solana
end ArioSolana
