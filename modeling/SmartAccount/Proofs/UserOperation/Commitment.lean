import SmartAccount.Proofs.UserOperation.Packing
/-!
# The hash commits to all but the signature

The hash of an operation is taken in two levels. The inner level digests eight words, among them
the digests of the three fields of variable length; the outer one digests the inner digest, the
entry point and the chain. Two operations have the same hash if they `Agree`, that is, if they
differ in nothing but the signature and what hangs on an absent factory or paymaster.

The way back goes down the levels: at each, either the bytes that were digested are the same, or
two different byte strings have the same digest. So equal hashes leave only two possibilities,
agreement or a `Collision` in one of the five pairs of digested byte strings. Nothing is assumed
of the digest.
-/

namespace SmartAccount

/-! ## Words side by side -/

/-- As many words, run together, can be told apart. -/
theorem wordBytes_inj : ∀ {xs ys : List Word}, xs.length = ys.length →
    wordBytes xs = wordBytes ys → xs = ys
  | [], [], _, _ => rfl
  | x :: xs, y :: ys, hlength, h => by
    -- every word takes the same 32 places, so the first ones end together
    have hsplit : x.bytes ++ wordBytes xs = y.bytes ++ wordBytes ys := h
    obtain ⟨hfirst, hrest⟩ := List.append_inj hsplit (by rw [Word.length_bytes, Word.length_bytes])
    rw [Word.bytes_inj hfirst, wordBytes_inj (Nat.succ.inj hlength) hrest]

theorem Gas.join_inj {a b c d : Gas} (h : join a b = join c d) : a = c ∧ b = d := by
  constructor
  · rw [← high_join a b, h, high_join]
  · rw [← low_join a b, h, low_join]

/-! ## Collisions -/

/-- Two different byte strings of one of the pairs have the same digest. -/
def Collision (pairs : List (Bytes × Bytes)) : Prop :=
  ∃ x y, (x, y) ∈ pairs ∧ x ≠ y ∧ Hash.of x = Hash.of y

/-- Without a collision, the digests of a pair tell its byte strings apart. -/
theorem eq_of_digest_eq {pairs : List (Bytes × Bytes)} (hnone : ¬Collision pairs) {x y : Bytes}
    (hmem : (x, y) ∈ pairs) (h : Hash.of x = Hash.of y) : x = y := by
  by_cases heq : x = y
  · exact heq
  · exact absurd ⟨x, y, hmem, heq, h⟩ hnone

namespace PackedUserOperation

/-- The operation without its signature. -/
def unsigned (p : PackedUserOperation) : PackedUserOperation := { p with signature := [] }

/-- What the inner digest is taken of. -/
def innerEncoding (p : PackedUserOperation) : Bytes := wordBytes p.hashedWords

/-- What the outer digest is taken of. -/
def outerEncoding (p : PackedUserOperation) (entryPoint : Address) (chainId : BitVec 64) :
    Bytes :=
  wordBytes [Hash.of p.innerEncoding, entryPoint.setWidth 256, chainId.setWidth 256]

/-- All byte strings of which a digest is taken on the way to the hash. -/
def digested (p : PackedUserOperation) (entryPoint : Address) (chainId : BitVec 64) :
    List Bytes :=
  [p.initCode, p.callData, p.paymasterAndData, p.innerEncoding,
    p.outerEncoding entryPoint chainId]

theorem length_hashedWords (p : PackedUserOperation) : p.hashedWords.length = 8 := rfl

theorem hash_eq (p : PackedUserOperation) (entryPoint : Address) (chainId : BitVec 64) :
    p.hash entryPoint chainId = Hash.of (p.outerEncoding entryPoint chainId) := rfl

/-- The signature is not part of what is hashed. -/
theorem hash_unsigned (p : PackedUserOperation) (entryPoint : Address) (chainId : BitVec 64) :
    p.unsigned.hash entryPoint chainId = p.hash entryPoint chainId := rfl

/-- The eight words tell the other fields apart. -/
theorem unsigned_eq_of_hashedWords_eq {p q : PackedUserOperation}
    {pairs : List (Bytes × Bytes)} (hnone : ¬Collision pairs)
    (hinit : (p.initCode, q.initCode) ∈ pairs) (hcall : (p.callData, q.callData) ∈ pairs)
    (hpaymaster : (p.paymasterAndData, q.paymasterAndData) ∈ pairs)
    (h : p.hashedWords = q.hashedWords) : p.unsigned = q.unsigned := by
  unfold hashedWords at h
  simp only [List.cons.injEq, and_true] at h
  obtain ⟨hsender, hnonce, hinitDigest, hcallDigest, hlimits, hgas, hfees, hpaymasterDigest⟩ := h
  unfold unsigned
  rw [Word.setWidth_inj (by omega) hsender, hnonce, eq_of_digest_eq hnone hinit hinitDigest,
    eq_of_digest_eq hnone hcall hcallDigest, hlimits, hgas, hfees,
    eq_of_digest_eq hnone hpaymaster hpaymasterDigest]

/-- Equal hashes of packed operations, peeled from the outside. -/
theorem eq_or_collision_of_hash_eq {p q : PackedUserOperation} {e f : Address}
    {m n : BitVec 64} (h : p.hash e m = q.hash f n) :
    (p.unsigned = q.unsigned ∧ e = f ∧ m = n)
      ∨ Collision ((p.digested e m).zip (q.digested f n)) := by
  by_cases hcollision : Collision ((p.digested e m).zip (q.digested f n))
  · exact .inr hcollision
  · refine .inl ?_
    rw [hash_eq, hash_eq] at h
    have houter : p.outerEncoding e m = q.outerEncoding f n := by
      refine eq_of_digest_eq hcollision ?_ h
      simp [digested]
    -- not by `rfl`: comparing the words themselves would start to compute their digests
    unfold outerEncoding at houter
    have hwords := wordBytes_inj (by simp only [List.length_cons]) houter
    simp only [List.cons.injEq, and_true] at hwords
    obtain ⟨hinnerDigest, hentryPoint, hchain⟩ := hwords
    have hinner : p.innerEncoding = q.innerEncoding := by
      refine eq_of_digest_eq hcollision ?_ hinnerDigest
      simp [digested]
    refine ⟨?_, Word.setWidth_inj (by omega) hentryPoint, Word.setWidth_inj (by omega) hchain⟩
    have hwords : p.hashedWords = q.hashedWords :=
      wordBytes_inj (by rw [length_hashedWords, length_hashedWords]) hinner
    refine unsigned_eq_of_hashedWords_eq hcollision ?_ ?_ ?_ hwords
    · simp [digested]
    · simp [digested]
    · simp [digested]

end PackedUserOperation

namespace UserOperation

/-! ## Agreement -/

/-- Two operations that ask for the same: their signatures may differ, and so may what hangs on
an absent factory or an absent paymaster. -/
structure Agrees (a b : UserOperation) : Prop where
  sender : a.sender = b.sender
  nonce : a.nonce = b.nonce
  callData : a.callData = b.callData
  callGasLimit : a.callGasLimit = b.callGasLimit
  verificationGasLimit : a.verificationGasLimit = b.verificationGasLimit
  preVerificationGas : a.preVerificationGas = b.preVerificationGas
  maxPriorityFeePerGas : a.maxPriorityFeePerGas = b.maxPriorityFeePerGas
  maxFeePerGas : a.maxFeePerGas = b.maxFeePerGas
  factory : a.factory = b.factory
  factoryData : a.factory.isSome → a.factoryData = b.factoryData
  paymaster : a.paymaster = b.paymaster
  paymasterVerificationGasLimit : a.paymaster.isSome →
    a.paymasterVerificationGasLimit = b.paymasterVerificationGasLimit
  paymasterPostOpGasLimit : a.paymaster.isSome →
    a.paymasterPostOpGasLimit = b.paymasterPostOpGasLimit
  paymasterData : a.paymaster.isSome → a.paymasterData = b.paymasterData

/-- Operations that agree are packed the same, up to the signature. -/
theorem Agrees.unsigned_eq {a b : UserOperation} (h : a.Agrees b) :
    a.pack.unsigned = b.pack.unsigned := by
  have hinit : a.initCode = b.initCode := by
    have hdata := h.factoryData
    unfold initCode
    rw [← h.factory]
    cases ha : a.factory with
    | none => rfl
    | some factory =>
      rw [ha] at hdata
      show factory.bytes ++ a.factoryData = factory.bytes ++ b.factoryData
      rw [hdata rfl]
  have hpaymaster : a.paymasterAndData = b.paymasterAndData := by
    have hverification := h.paymasterVerificationGasLimit
    have hpostOp := h.paymasterPostOpGasLimit
    have hdata := h.paymasterData
    unfold paymasterAndData
    rw [← h.paymaster]
    cases ha : a.paymaster with
    | none => rfl
    | some paymaster =>
      rw [ha] at hverification hpostOp hdata
      rw [hverification rfl, hpostOp rfl, hdata rfl]
  unfold pack PackedUserOperation.unsigned
  rw [h.sender, h.nonce, hinit, h.callData, h.verificationGasLimit, h.callGasLimit,
    h.preVerificationGas, h.maxPriorityFeePerGas, h.maxFeePerGas, hpaymaster]

/-- Packing keeps operations apart that do not agree. -/
theorem agrees_of_unsigned_eq {a b : UserOperation} (h : a.pack.unsigned = b.pack.unsigned) :
    a.Agrees b := by
  have hinit : a.initCode = b.initCode := congrArg PackedUserOperation.initCode h
  have hpaymaster : a.paymasterAndData = b.paymasterAndData :=
    congrArg PackedUserOperation.paymasterAndData h
  obtain ⟨hverification, hcallGas⟩ :=
    Gas.join_inj (congrArg PackedUserOperation.accountGasLimits h)
  obtain ⟨hpriority, hmaxFee⟩ := Gas.join_inj (congrArg PackedUserOperation.gasFees h)
  -- the parts of the two joined fields can be read back from them
  have hsplitInit := a.splitInitCode_initCode
  rw [hinit, splitInitCode_initCode, Except.ok.injEq, Prod.mk.injEq] at hsplitInit
  obtain ⟨hfactory, hfactoryData⟩ := hsplitInit
  have hsplitPaymaster := a.splitPaymasterAndData_paymasterAndData
  rw [hpaymaster, splitPaymasterAndData_paymasterAndData, Except.ok.injEq, Prod.mk.injEq,
    Prod.mk.injEq, Prod.mk.injEq] at hsplitPaymaster
  obtain ⟨hpaymaster, hpaymasterVerification, hpostOp, hpaymasterData⟩ := hsplitPaymaster
  rw [hfactory] at hfactoryData
  rw [hpaymaster] at hpaymasterVerification hpostOp hpaymasterData
  refine ⟨congrArg PackedUserOperation.sender h, congrArg PackedUserOperation.nonce h,
    congrArg PackedUserOperation.callData h, hcallGas, hverification,
    congrArg PackedUserOperation.preVerificationGas h, hpriority, hmaxFee,
    hfactory.symm, ?_, hpaymaster.symm, ?_, ?_, ?_⟩
  · intro hsome
    rw [if_pos hsome, if_pos hsome] at hfactoryData
    exact hfactoryData.symm
  · intro hsome
    rw [if_pos hsome, if_pos hsome] at hpaymasterVerification
    exact hpaymasterVerification.symm
  · intro hsome
    rw [if_pos hsome, if_pos hsome] at hpostOp
    exact hpostOp.symm
  · intro hsome
    rw [if_pos hsome, if_pos hsome] at hpaymasterData
    exact hpaymasterData.symm

/-- **The hash commits to everything but the signature.** Operations that agree have the same
hash for the same entry point and chain. If two hashes are the same, then the operations agree
and are meant for the same entry point and chain, or two different byte strings collide that
stand in the same place on the two ways to the hash. -/
theorem hash_commits (a b : UserOperation) (e f : Address) (m n : BitVec 64) :
    (a.Agrees b ∧ e = f ∧ m = n → a.hash e m = b.hash f n)
      ∧ (a.hash e m = b.hash f n →
          (a.Agrees b ∧ e = f ∧ m = n)
            ∨ Collision ((a.pack.digested e m).zip (b.pack.digested f n))) := by
  constructor
  · rintro ⟨hagrees, rfl, rfl⟩
    show a.pack.hash e m = b.pack.hash e m
    rw [← PackedUserOperation.hash_unsigned a.pack, hagrees.unsigned_eq,
      PackedUserOperation.hash_unsigned]
  · intro h
    rcases PackedUserOperation.eq_or_collision_of_hash_eq h with ⟨hpack, he, hm⟩ | hcollision
    · exact .inl ⟨agrees_of_unsigned_eq hpack, he, hm⟩
    · exact .inr hcollision

/-- A signature, and the data of a factory that is not there, can be replaced. -/
theorem hash_commits_replaced :
    let op := ofRequired ⟨1, 5, [], 100000, 200000, 50000, 1, 30, [0]⟩
    let replaced := { op with factoryData := [1, 2], signature := [3] }
    op ≠ replaced ∧ op.hash 7 31337 = replaced.hash 7 31337 := by
  intro op replaced
  refine ⟨by decide, (hash_commits op replaced 7 7 31337 31337).1 ⟨?_, rfl, rfl⟩⟩
  refine ⟨rfl, rfl, rfl, rfl, rfl, rfl, rfl, rfl, rfl, ?_, rfl, ?_, ?_, ?_⟩
  all_goals
    intro hsome
    cases hsome

end UserOperation

end SmartAccount
