import SmartAccount.BigEndian
/-!
# SHA-256

The hash that the nonce of a signature is drawn from. A message is padded to blocks of 64 bytes;
each block is stretched to 64 words, which are mixed one by one into eight registers.
-/

namespace SmartAccount.Sha256

/-- The word mixed in with each word of a block. -/
def constants : List UInt32 := [
  0x428a2f98, 0x71374491, 0xb5c0fbcf, 0xe9b5dba5, 0x3956c25b, 0x59f111f1,
  0x923f82a4, 0xab1c5ed5, 0xd807aa98, 0x12835b01, 0x243185be, 0x550c7dc3,
  0x72be5d74, 0x80deb1fe, 0x9bdc06a7, 0xc19bf174, 0xe49b69c1, 0xefbe4786,
  0x0fc19dc6, 0x240ca1cc, 0x2de92c6f, 0x4a7484aa, 0x5cb0a9dc, 0x76f988da,
  0x983e5152, 0xa831c66d, 0xb00327c8, 0xbf597fc7, 0xc6e00bf3, 0xd5a79147,
  0x06ca6351, 0x14292967, 0x27b70a85, 0x2e1b2138, 0x4d2c6dfc, 0x53380d13,
  0x650a7354, 0x766a0abb, 0x81c2c92e, 0x92722c85, 0xa2bfe8a1, 0xa81a664b,
  0xc24b8b70, 0xc76c51a3, 0xd192e819, 0xd6990624, 0xf40e3585, 0x106aa070,
  0x19a4c116, 0x1e376c08, 0x2748774c, 0x34b0bcb5, 0x391c0cb3, 0x4ed8aa4a,
  0x5b9cca4f, 0x682e6ff3, 0x748f82ee, 0x78a5636f, 0x84c87814, 0x8cc70208,
  0x90befffa, 0xa4506ceb, 0xbef9a3f7, 0xc67178f2]

/-- The registers before the first block. -/
def start : List UInt32 :=
  [0x6a09e667, 0xbb67ae85, 0x3c6ef372, 0xa54ff53a, 0x510e527f, 0x9b05688c, 0x1f83d9ab, 0x5be0cd19]

def rotate (word places : UInt32) : UInt32 := (word >>> places) ||| (word <<< (32 - places))

/-- The message, a one bit, zeros, and the length of the message in bits. -/
def pad (message : Bytes) : Bytes :=
  let zeros := (119 - message.length % 64) % 64
  message ++ 0x80 :: List.replicate zeros 0 ++ BigEndian.encode 8 (8 * message.length)

/-- Groups of four bytes as words. -/
def words : Bytes → List UInt32
  | a :: b :: c :: d :: rest => UInt32.ofNat (BigEndian.decode [a, b, c, d]) :: words rest
  | _ => []

/-- The next word of a stretched block, from the last sixteen, newest first. -/
def nextWord (newest : List UInt32) : UInt32 :=
  let word (i : Nat) : UInt32 := newest.getD i 0
  let early := word 14
  let late := word 1
  let a := rotate early 7 ^^^ rotate early 18 ^^^ (early >>> 3)
  let b := rotate late 17 ^^^ rotate late 19 ^^^ (late >>> 10)
  word 15 + a + word 6 + b

/-- As many more words in front of the newest ones. -/
def stretch : (count : Nat) → (newest : List UInt32) → List UInt32
  | 0, newest => newest
  | count + 1, newest => stretch count (nextWord newest :: newest)

/-- Mixes one word and its constant into the registers. -/
def mix (registers : List UInt32) (word : UInt32) : List UInt32 :=
  match registers with
  | [a, b, c, d, e, f, g, h] =>
    let turned := rotate e 6 ^^^ rotate e 11 ^^^ rotate e 25
    let chosen := (e &&& f) ^^^ (~~~e &&& g)
    let first := h + turned + chosen + word
    let spun := rotate a 2 ^^^ rotate a 13 ^^^ rotate a 22
    let majority := (a &&& b) ^^^ (a &&& c) ^^^ (b &&& c)
    [first + (spun + majority), a, b, c, d + first, e, f, g]
  | _ => registers

/-- The registers after a block of sixteen words. -/
def absorb (registers : List UInt32) (block : List UInt32) : List UInt32 :=
  let stretched := (stretch 48 block.reverse).reverse
  let mixed := (List.zipWith (· + ·) stretched constants).foldl mix registers
  List.zipWith (· + ·) registers mixed

/-- The registers after as many blocks. -/
def absorbAll : (blocks : Nat) → List UInt32 → (registers : List UInt32) → List UInt32
  | 0, _, registers => registers
  | blocks + 1, ws, registers => absorbAll blocks (ws.drop 16) (absorb registers (ws.take 16))

/-- The digest of a message, 32 bytes. -/
def hash (message : Bytes) : Bytes :=
  let padded := pad message
  (absorbAll (padded.length / 64) (words padded) start).flatMap fun w =>
    BigEndian.encode 4 w.toNat

/-- The keyed digest of a message: an outer and an inner hash, each behind a block made of the
key. Keys are at most 64 bytes long here. -/
def keyed (key message : Bytes) : Bytes :=
  let block := key ++ List.replicate (64 - key.length) 0
  hash (block.map (· ^^^ 0x5c) ++ hash (block.map (· ^^^ 0x36) ++ message))

end SmartAccount.Sha256
