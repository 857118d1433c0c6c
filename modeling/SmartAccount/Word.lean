import SmartAccount.Hex
import SmartAccount.Digest.Keccak
/-!
# Words, hashes and addresses

The machine of the chain computes on words of 256 bits; a hash is such a word and an address
is 160 bits. Addresses are written in lower-case hex, or in the checksummed form whose capitals
are chosen by the hash of the lower-case digits.
-/

namespace SmartAccount

/-- A machine word. Its arithmetic wraps at `2 ^ 256`. -/
abbrev Word := BitVec 256

/-- A 32-byte hash. -/
abbrev Hash := Word

/-- The address of an account on the chain. -/
abbrev Address := BitVec 160

/-- The bytes of a bit string whose width is `8 * size`, most significant first. -/
def bytesOfBits (size : Nat) (value : BitVec (8 * size)) : Bytes :=
  BigEndian.encode size value.toNat

/-- The 32 bytes of a word. -/
def Word.bytes (w : Word) : Bytes := bytesOfBits 32 w

/-- The word that at most 32 bytes write. -/
def Word.ofBytes (bytes : Bytes) : Word := BitVec.ofNat 256 (BigEndian.decode bytes)

/-- The full hex text of a word, 64 digits. -/
def Word.text (w : Word) : String := Hex.text w.bytes

/-- A word from exactly 64 hex digits, with or without the marker. -/
def Hash.parse? (s : String) : Option Hash := (Hex.parseFixed? 32 s).map Word.ofBytes

/-- The Keccak-256 digest as a word. -/
def Hash.of (message : Bytes) : Hash := Word.ofBytes (Keccak.hash message)

/-- The UTF-8 bytes of a text. -/
def textBytes (s : String) : Bytes := s.toUTF8.data.toList

namespace Address

/-- The 20 bytes of an address. -/
def bytes (a : Address) : Bytes := bytesOfBits 20 a

/-- The address that 20 bytes write. -/
def ofBytes (bytes : Bytes) : Address := BitVec.ofNat 160 (BigEndian.decode bytes)

/-- The low 160 bits of a word. -/
def ofWord (w : Word) : Address := w.setWidth 160

/-- The lower-case text of an address. -/
def text (a : Address) : String := Hex.text a.bytes

/-- The checksummed text: a letter is a capital where the digest of the lower-case digits has
a hex digit of at least eight at the same place. -/
def checksummed (a : Address) : String :=
  let digits := Hex.encode a.bytes
  let digest := Hex.encode (Keccak.hash (digits.map fun c => UInt8.ofNat c.toNat))
  let capital (c d : Char) : Char := if '8' ≤ d then c.toUpper else c
  String.ofList ('0' :: 'x' :: List.zipWith capital digits digest)

/-- An address from exactly 40 hex digits of either case, with or without the marker. The
capitals are not checked. -/
def parse? (s : String) : Option Address := (Hex.parseFixed? 20 s).map ofBytes

end Address

end SmartAccount
