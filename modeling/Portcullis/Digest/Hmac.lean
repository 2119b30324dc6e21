/-
# Digests and keyed digests

The hash functions in use, and the message authentication code that is built from each of them.
-/
import Portcullis.Digest.Sha1
import Portcullis.Digest.Sha2

namespace Portcullis

/-- The hash functions in use. -/
inductive Hash where
  | sha1
  | sha256
  | sha384
  | sha512
deriving DecidableEq

namespace Hash

/-- The digest of a message. -/
def digest : Hash → Bytes → Bytes
  | .sha1, m => Sha1.digest m
  | .sha256, m => Sha2.sha256.digest m
  | .sha384, m => Sha2.sha384.digest m
  | .sha512, m => Sha2.sha512.digest m

/-- Octets of a block. -/
def blockBytes : Hash → Nat
  | .sha1 | .sha256 => 64
  | .sha384 | .sha512 => 128

/-- Octets of a digest. -/
def size : Hash → Nat
  | .sha1 => 20
  | .sha256 => 32
  | .sha384 => 48
  | .sha512 => 64

/-- The key as one block: a long key is hashed first, and zeros fill the block. -/
def keyBlock (h : Hash) (key : Bytes) : Bytes :=
  let short := if key.length > h.blockBytes then h.digest key else key
  short ++ List.replicate (h.blockBytes - short.length) 0

/-- The authentication code of a message under a key. -/
def hmac (h : Hash) (key message : Bytes) : Bytes :=
  let block := h.keyBlock key
  let inner := h.digest (block.map (· ^^^ 0x36) ++ message)
  h.digest (block.map (· ^^^ 0x5C) ++ inner)

end Hash

end Portcullis
