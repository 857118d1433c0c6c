import SmartAccount.Proofs.Abi.Layout
import SmartAccount.Proofs.UserOperation.Commitment
import SmartAccount.Proofs.UserOperation.Unpacking
/-!
# The hash off the chain is the hash of the entry point

The entry point never sees an operation as it is off the chain. It hashes the packed form: first
256 bytes, in which the fields of variable length stand as their digests, then 96 bytes with that
digest, its own address and the chain. Both byte strings are what the contract ABI writes for a
tuple of values that take a word each (`innerDigested_eq_encode`, `outerDigested_eq_encode`), so
there are no offsets in them: a bit string of fewer than 256 bits has zeros in front
(`Word.bytes_setWidth`), and a digest stands as it is.

`hash_of_unpack` says that an operation off the chain has that hash. What was unpacked packs
to what it came from, so nothing about the way in which it was cut apart enters the hash.
-/

namespace SmartAccount

/-! ## Shorter bit strings as words -/

/-- Zero in any number of places. -/
theorem BigEndian.encode_zero (width : Nat) : encode width 0 = List.replicate width 0 := by
  induction width with
  | zero => rfl
  | succ width ih =>
    rw [encode, ih, Nat.zero_shiftRight, List.replicate_succ]
    rfl

/-- A bit string of fewer bytes stands at the low end of a word, behind zeros. -/
theorem Word.bytes_setWidth (size : Nat) (hsize : size ≤ 32) (value : BitVec (8 * size)) :
    bytes (value.setWidth 256) = List.replicate (32 - size) 0 ++ bytesOfBits size value := by
  have hlt := value.isLt
  rw [two_pow_eight_mul] at hlt
  have htoNat : (value.setWidth 256).toNat = value.toNat :=
    BitVec.toNat_setWidth_of_le (by omega)
  have hsplit := BigEndian.encode_add (32 - size) size value.toNat
  rw [Nat.sub_add_cancel hsize, Nat.div_eq_of_lt hlt, BigEndian.encode_zero] at hsplit
  unfold bytes bytesOfBits
  rw [htoNat, hsplit]

/-- The bytes of a digest as a word are the digest. -/
theorem Hash.bytes_of (message : Bytes) : Word.bytes (of message) = Keccak.hash message :=
  Word.bytes_ofBytes (Keccak.length_hash message)

namespace Abi

/-! ## Tuples of words -/

/-- Whether each of the fields takes one word. -/
def Fields.areWords : Fields → Bool
  | .nil => true
  | .cons _ _ (.word _) rest => rest.areWords
  | .cons _ _ _ _ => false

/-- The words of those fields that take one word. -/
def Fields.words : (fields : Fields) → fields.Value → List Word
  | .nil, _ => []
  | .cons _ _ (.word t) rest, (v, vs) => t.toWord v :: rest.words vs
  | .cons _ _ _ rest, (_, vs) => rest.words vs

/-- A word in front of a tuple without offsets stands in front of its encoding. -/
theorem Fields.encode_cons_word (name declared : String) (t : WordTy) {rest : Fields}
    (hrest : rest.isDynamic = false) (v : t.Value) (vs : rest.Value) :
    (Fields.cons name declared (.word t) rest).encode (v, vs)
      = (t.toWord v).bytes ++ rest.encode vs := by
  have hstatic := (Fields.cons name declared (.word t) rest).parts_of_static (v, vs) hrest
  rw [encode, layout_of_static hstatic 0, parts_cons, heads_cons, heads_singleton,
    ← layout_of_static (rest.parts_of_static vs hrest)]
  rfl

/-- **A tuple of words is encoded as the words, one after the other.** -/
theorem Fields.encode_of_areWords : (fields : Fields) → fields.areWords = true →
    (v : fields.Value) →
    fields.isDynamic = false ∧ fields.encode v = wordBytes (fields.words v)
  | .nil, _, _ => ⟨rfl, rfl⟩
  | .cons name declared (.word t) rest, h, (v, vs) => by
    obtain ⟨hrest, hencode⟩ := rest.encode_of_areWords h vs
    refine ⟨hrest, ?_⟩
    rw [encode_cons_word name declared t hrest, hencode]
    rfl

theorem WordTy.toWord_uint256 (w : Word) : (WordTy.uint 256).toWord w = w := BitVec.setWidth_eq w

/-- A byte string of 32 bytes fills its word. -/
theorem WordTy.toWord_bytes32 (w : Word) : (WordTy.fixedBytes 32).toWord w = w := by
  show w.setWidth 256 <<< 0 = w
  rw [BitVec.setWidth_eq, BitVec.shiftLeft_zero]

end Abi

namespace PackedUserOperation

/-! ## What the entry point digests -/

/-- The 256 bytes of the inner digest: every field but the signature takes 32 of them. -/
def innerDigested (p : PackedUserOperation) : Bytes :=
  List.replicate 12 0 ++ p.sender.bytes ++ p.nonce.bytes ++ Keccak.hash p.initCode
    ++ Keccak.hash p.callData ++ p.accountGasLimits.bytes ++ p.preVerificationGas.bytes
    ++ p.gasFees.bytes ++ Keccak.hash p.paymasterAndData

/-- The 96 bytes of the outer digest: the inner digest, the entry point and the chain. -/
def outerDigested (p : PackedUserOperation) (entryPoint : Address) (chainId : BitVec 64) : Bytes :=
  Keccak.hash p.innerDigested ++ (List.replicate 12 0 ++ entryPoint.bytes)
    ++ BigEndian.encode 32 chainId.toNat

theorem length_innerDigested (p : PackedUserOperation) : p.innerDigested.length = 256 := by
  unfold innerDigested
  simp only [List.length_append, List.length_replicate, Address.length_bytes, Word.length_bytes,
    Keccak.length_hash]

theorem length_outerDigested (p : PackedUserOperation) (entryPoint : Address)
    (chainId : BitVec 64) : (p.outerDigested entryPoint chainId).length = 96 := by
  unfold outerDigested
  simp only [List.length_append, List.length_replicate, Address.length_bytes,
    BigEndian.length_encode, Keccak.length_hash]

/-- The words of the inner digest are its 256 bytes. -/
theorem innerEncoding_eq (p : PackedUserOperation) : p.innerEncoding = p.innerDigested := by
  have hsender := Word.bytes_setWidth 20 (by omega) p.sender
  unfold innerEncoding innerDigested hashedWords wordBytes
  simp only [List.flatMap_cons, List.flatMap_nil, List.append_nil, List.append_assoc,
    Hash.bytes_of]
  rw [hsender, List.append_assoc]
  rfl

/-- The words of the outer digest are its 96 bytes. -/
theorem outerEncoding_eq (p : PackedUserOperation) (entryPoint : Address) (chainId : BitVec 64) :
    p.outerEncoding entryPoint chainId = p.outerDigested entryPoint chainId := by
  have hentryPoint := Word.bytes_setWidth 20 (by omega) entryPoint
  have hchain : Word.bytes (chainId.setWidth 256) = BigEndian.encode 32 chainId.toNat := by
    unfold Word.bytes bytesOfBits
    rw [BitVec.toNat_setWidth_of_le (by omega)]
  unfold outerEncoding outerDigested wordBytes
  simp only [List.flatMap_cons, List.flatMap_nil, List.append_nil, List.append_assoc,
    Hash.bytes_of]
  rw [hentryPoint, hchain, innerEncoding_eq, List.append_assoc]
  rfl

theorem bytes_hash (p : PackedUserOperation) (entryPoint : Address) (chainId : BitVec 64) :
    (p.hash entryPoint chainId).bytes = Keccak.hash (p.outerDigested entryPoint chainId) := by
  rw [hash_eq, Hash.bytes_of, outerEncoding_eq]

/-! ## The same bytes by the contract ABI -/

/-- The tuple of the inner digest. -/
def innerFields : Abi.Fields := .ofList
  [("sender", .address), ("nonce", .uint256), ("initCodeHash", .bytes32),
    ("callDataHash", .bytes32), ("accountGasLimits", .bytes32), ("preVerificationGas", .uint256),
    ("gasFees", .bytes32), ("paymasterAndDataHash", .bytes32)]

def innerValue (p : PackedUserOperation) : innerFields.Value :=
  (p.sender, p.nonce, Hash.of p.initCode, Hash.of p.callData, p.accountGasLimits,
    p.preVerificationGas, p.gasFees, Hash.of p.paymasterAndData, ())

/-- The tuple of the outer digest. -/
def outerFields : Abi.Fields := .ofList
  [("operationHash", .bytes32), ("entryPoint", .address), ("chainId", .uint256)]

def outerValue (p : PackedUserOperation) (entryPoint : Address) (chainId : BitVec 64) :
    outerFields.Value :=
  (Hash.of p.innerDigested, entryPoint, chainId.setWidth 256, ())

/-- The 256 bytes are the encoding of the inner tuple. -/
theorem innerDigested_eq_encode (p : PackedUserOperation) :
    p.innerDigested = innerFields.encode p.innerValue := by
  have hwords : innerFields.words p.innerValue = p.hashedWords := by
    show [p.sender.setWidth 256, (Abi.WordTy.uint 256).toWord p.nonce,
      (Abi.WordTy.fixedBytes 32).toWord (Hash.of p.initCode),
      (Abi.WordTy.fixedBytes 32).toWord (Hash.of p.callData),
      (Abi.WordTy.fixedBytes 32).toWord p.accountGasLimits,
      (Abi.WordTy.uint 256).toWord p.preVerificationGas,
      (Abi.WordTy.fixedBytes 32).toWord p.gasFees,
      (Abi.WordTy.fixedBytes 32).toWord (Hash.of p.paymasterAndData)] = p.hashedWords
    simp only [Abi.WordTy.toWord_uint256, Abi.WordTy.toWord_bytes32]
    rfl
  rw [(innerFields.encode_of_areWords (by decide) p.innerValue).2, hwords, ← innerEncoding_eq,
    innerEncoding]

/-- The 96 bytes are the encoding of the outer tuple. -/
theorem outerDigested_eq_encode (p : PackedUserOperation) (entryPoint : Address)
    (chainId : BitVec 64) :
    p.outerDigested entryPoint chainId = outerFields.encode (p.outerValue entryPoint chainId) := by
  have hwords : outerFields.words (p.outerValue entryPoint chainId)
      = [Hash.of p.innerEncoding, entryPoint.setWidth 256, chainId.setWidth 256] := by
    show [(Abi.WordTy.fixedBytes 32).toWord (Hash.of p.innerDigested), entryPoint.setWidth 256,
      (Abi.WordTy.uint 256).toWord (chainId.setWidth 256)]
        = [Hash.of p.innerEncoding, entryPoint.setWidth 256, chainId.setWidth 256]
    rw [Abi.WordTy.toWord_uint256, Abi.WordTy.toWord_bytes32, innerEncoding_eq]
  rw [(outerFields.encode_of_areWords (by decide) _).2, hwords, ← outerEncoding_eq,
    outerEncoding]

end PackedUserOperation

namespace UserOperation

/-- **The hash off the chain is the hash of the entry point.** An operation that was unpacked has
the hash that the entry point computes of what it was unpacked from: the digest of 96 bytes, which
hold the digest of 256 bytes, the entry point and the chain, and both byte strings are encodings of
tuples by the contract ABI. Any other operation that packs to the same, up to the signature, has
the same hash. -/
theorem hash_of_unpack {p : PackedUserOperation} {op : UserOperation}
    (hop : unpack p = .ok op) (entryPoint : Address) (chainId : BitVec 64) :
    (op.hash entryPoint chainId).bytes = Keccak.hash (p.outerDigested entryPoint chainId)
      ∧ p.innerDigested.length = 256 ∧ (p.outerDigested entryPoint chainId).length = 96
      ∧ p.innerDigested = PackedUserOperation.innerFields.encode p.innerValue
      ∧ p.outerDigested entryPoint chainId
        = PackedUserOperation.outerFields.encode (p.outerValue entryPoint chainId)
      ∧ ∀ other : UserOperation, other.pack.unsigned = p.unsigned →
          other.hash entryPoint chainId = op.hash entryPoint chainId := by
  have hpack : op.pack = p := (unpack_eq_ok_iff.mp hop).2
  refine ⟨?_, p.length_innerDigested, p.length_outerDigested entryPoint chainId,
    p.innerDigested_eq_encode, p.outerDigested_eq_encode entryPoint chainId, ?_⟩
  · rw [hash, hpack, PackedUserOperation.bytes_hash]
  · intro other hother
    rw [hash, hash, hpack, ← PackedUserOperation.hash_unsigned, hother,
      PackedUserOperation.hash_unsigned]

/-- A packed operation with a factory and a paymaster, both with data. -/
def packedWithBoth : PackedUserOperation where
  sender := 0xa11ce
  nonce := 7
  initCode := List.replicate 19 0 ++ [0xfa, 1, 2]
  callData := [0xb6, 0x1d]
  accountGasLimits := Gas.join 200000 100000
  preVerificationGas := 50000
  gasFees := Gas.join 1 30
  paymasterAndData := List.replicate 51 0 ++ [9, 8]
  signature := [3]

/-- It can be unpacked, and without its signature it still has the same hash. -/
theorem hash_of_unpack_packedWithBoth :
    ∃ op other, unpack packedWithBoth = .ok op ∧ other.pack.unsigned = packedWithBoth.unsigned
      ∧ other ≠ op
      ∧ (op.hash 7 31337).bytes = Keccak.hash (packedWithBoth.outerDigested 7 31337)
      ∧ other.hash 7 31337 = op.hash 7 31337 := by
  obtain ⟨op, hop⟩ : ∃ op, unpack packedWithBoth = .ok op := ⟨_, rfl⟩
  have hpack : op.pack = packedWithBoth := (unpack_eq_ok_iff.mp hop).2
  have hsignature : op.signature = [3] := congrArg PackedUserOperation.signature hpack
  have hother : ({ op with signature := [] } : UserOperation).pack.unsigned
      = packedWithBoth.unsigned := by
    rw [← hpack]
    rfl
  have hhash := hash_of_unpack hop 7 31337
  refine ⟨op, _, hop, hother, ?_, hhash.1, hhash.2.2.2.2.2 _ hother⟩
  intro h
  have := congrArg UserOperation.signature h
  rw [hsignature] at this
  cases this

end UserOperation

end SmartAccount
