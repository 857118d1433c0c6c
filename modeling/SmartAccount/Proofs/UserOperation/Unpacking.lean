import SmartAccount.Proofs.UserOperation.Packing
/-!
# Which packed operations can be unpacked

A field that starts with an address is either empty or long enough for all of its fixed part;
`IsWellFormed` says so of both such fields. `unpack_cases` is everything that unpacking can do: a
field that is cut short is reported with its length, the init code before the other, and a
well-formed operation gives one that packs to the very bytes it came from.

The other half is that no cut misses. `unpackChecked` unpacks with cuts that fail where a place
does not exist or a piece does not have the size of what is read from it. It never fails that way
(`unpackChecked_eq`): the comparisons with the two lengths guard every cut.
-/

namespace SmartAccount

/-! ## Checked cuts -/

/-- The bytes from `start` up to `stop`, if these places exist. -/
def slice? (bytes : Bytes) (start stop : Nat) : Option Bytes :=
  if start ≤ stop ∧ stop ≤ bytes.length then some ((bytes.drop start).take (stop - start))
  else none

/-- The same, if there are exactly `size` bytes. -/
def cut? (size : Nat) (bytes : Bytes) (start stop : Nat) : Option Bytes :=
  (slice? bytes start stop).filter (·.length = size)

theorem slice?_of_le {bytes : Bytes} {start stop : Nat} (hstart : start ≤ stop)
    (hstop : stop ≤ bytes.length) :
    slice? bytes start stop = some ((bytes.drop start).take (stop - start)) :=
  if_pos ⟨hstart, hstop⟩

/-- What stands behind a place, up to the end. -/
theorem slice?_length {bytes : Bytes} {start : Nat} (hstart : start ≤ bytes.length) :
    slice? bytes start bytes.length = some (bytes.drop start) := by
  rw [slice?_of_le hstart (Nat.le_refl _), List.take_of_length_le]
  rw [List.length_drop]

theorem cut?_of_le {size : Nat} {bytes : Bytes} {start stop : Nat} (hstart : start + size = stop)
    (hstop : stop ≤ bytes.length) :
    cut? size bytes start stop = some ((bytes.drop start).take size) := by
  have hsize : stop - start = size := by omega
  have hlength : ((bytes.drop start).take size).length = size := by
    rw [List.length_take, List.length_drop]
    omega
  unfold cut?
  rw [slice?_of_le (by omega) hstop, hsize]
  simp only [Option.filter, hlength, decide_true, if_true]

namespace Gas

/-- The high and the low half of a word, cut out of its bytes. -/
def halvesChecked (w : Word) : Option (Gas × Gas) := do
  let high ← cut? 16 w.bytes 0 16
  let low ← cut? 16 w.bytes 16 32
  return (ofBytes high, ofBytes low)

/-- The halves of the bytes are the halves of the word. -/
theorem halvesChecked_eq (w : Word) : halvesChecked w = some (high w, low w) := by
  have hlength : w.bytes.length = 32 := w.length_bytes
  have hhigh : (w.bytes.drop 0).take 16 = (high w).bytes := by
    rw [List.drop_zero, bytes_word, List.take_left' (length_bytes _)]
  have hlow : (w.bytes.drop 16).take 16 = (low w).bytes := by
    rw [bytes_word, List.drop_left' (length_bytes _), List.take_of_length_le]
    rw [length_bytes]
  unfold halvesChecked
  rw [cut?_of_le (by omega) (by omega), cut?_of_le (by omega) (by omega), hhigh, hlow]
  show some (ofBytes (high w).bytes, ofBytes (low w).bytes) = some (high w, low w)
  rw [ofBytes_bytes, ofBytes_bytes]

end Gas

/-- Both fields that start with an address are empty or long enough for their fixed part. -/
structure PackedUserOperation.IsWellFormed (p : PackedUserOperation) : Prop where
  initCode : p.initCode.length = 0 ∨ 20 ≤ p.initCode.length
  paymasterAndData : p.paymasterAndData.length = 0 ∨ 52 ≤ p.paymasterAndData.length

namespace UserOperation

/-- `splitInitCode` with its cuts checked. -/
def splitInitCodeChecked (initCode : Bytes) :
    ExceptT UnpackError Option (Option Address × Bytes) :=
  if initCode.isEmpty then return (none, [])
  else if initCode.length < addressLength then throw (.initCodeTooShort initCode.length)
  else do
    let factory ← cut? 20 initCode 0 addressLength
    let data ← slice? initCode addressLength initCode.length
    return (some (Address.ofBytes factory), data)

/-- `splitPaymasterAndData` with its cuts checked. -/
def splitPaymasterAndDataChecked (field : Bytes) :
    ExceptT UnpackError Option (Option Address × Gas × Gas × Bytes) :=
  if field.isEmpty then return (none, 0, 0, [])
  else if field.length < paymasterHeadLength then
    throw (.paymasterAndDataTooShort field.length)
  else do
    let paymaster ← cut? 20 field 0 20
    let verificationLimit ← cut? 16 field 20 36
    let postOpLimit ← cut? 16 field 36 paymasterHeadLength
    let data ← slice? field paymasterHeadLength field.length
    return (some (Address.ofBytes paymaster), Gas.ofBytes verificationLimit,
      Gas.ofBytes postOpLimit, data)

/-- Unpacking with every cut checked, in the order in which they are made. The failure of a cut
is `none`, apart from the errors that unpacking reports. -/
def unpackChecked (p : PackedUserOperation) : ExceptT UnpackError Option UserOperation := do
  let (factory, factoryData) ← splitInitCodeChecked p.initCode
  let (verificationGasLimit, callGasLimit) ← Gas.halvesChecked p.accountGasLimits
  let (maxPriorityFeePerGas, maxFeePerGas) ← Gas.halvesChecked p.gasFees
  let (paymaster, verificationLimit, postOpLimit, paymasterData) ←
    splitPaymasterAndDataChecked p.paymasterAndData
  return {
    sender := p.sender
    nonce := p.nonce
    factory := factory
    factoryData := factoryData
    callData := p.callData
    callGasLimit := callGasLimit
    verificationGasLimit := verificationGasLimit
    preVerificationGas := p.preVerificationGas
    maxPriorityFeePerGas := maxPriorityFeePerGas
    maxFeePerGas := maxFeePerGas
    paymaster := paymaster
    paymasterVerificationGasLimit := verificationLimit
    paymasterPostOpGasLimit := postOpLimit
    paymasterData := paymasterData
    signature := p.signature }

theorem splitInitCodeChecked_eq (initCode : Bytes) :
    (splitInitCodeChecked initCode).run = some (splitInitCode initCode) := by
  unfold splitInitCodeChecked splitInitCode
  split
  next => rfl
  next =>
    split
    next => rfl
    next hlong =>
      unfold addressLength at hlong ⊢
      rw [cut?_of_le (by omega) (by omega), slice?_length (by omega)]
      rfl

theorem splitPaymasterAndDataChecked_eq (field : Bytes) :
    (splitPaymasterAndDataChecked field).run = some (splitPaymasterAndData field) := by
  unfold splitPaymasterAndDataChecked splitPaymasterAndData
  split
  next => rfl
  next =>
    split
    next => rfl
    next hlong =>
      unfold paymasterHeadLength at hlong ⊢
      rw [cut?_of_le (by omega) (by omega), cut?_of_le (by omega) (by omega),
        cut?_of_le (by omega) (by omega), slice?_length (by omega)]
      rfl

/-- **No cut misses**: with its cuts checked, unpacking does the same. -/
theorem unpackChecked_eq (p : PackedUserOperation) :
    (unpackChecked p).run = some (unpack p) := by
  have hinit : splitInitCodeChecked p.initCode = ExceptT.mk (some (splitInitCode p.initCode)) :=
    splitInitCodeChecked_eq p.initCode
  have hpaymaster : splitPaymasterAndDataChecked p.paymasterAndData
      = ExceptT.mk (some (splitPaymasterAndData p.paymasterAndData)) :=
    splitPaymasterAndDataChecked_eq p.paymasterAndData
  unfold unpackChecked unpack
  rw [hinit, hpaymaster, Gas.halvesChecked_eq, Gas.halvesChecked_eq]
  cases splitInitCode p.initCode with
  | error e => rfl
  | ok factory =>
    cases splitPaymasterAndData p.paymasterAndData with
    | error e => rfl
    | ok paymaster => rfl

/-! ## What unpacking can do -/

/-- An init code is too short, or every operation with the factory and the data it is split into
has it for its init code. -/
theorem splitInitCode_cases (initCode : Bytes) :
    (1 ≤ initCode.length ∧ initCode.length ≤ 19
        ∧ splitInitCode initCode = .error (.initCodeTooShort initCode.length))
      ∨ ((initCode.length = 0 ∨ 20 ≤ initCode.length) ∧ ∃ factory data,
          splitInitCode initCode = .ok (factory, data)
            ∧ ∀ op : UserOperation, op.factory = factory → op.factoryData = data →
                op.initCode = initCode) := by
  rcases Nat.eq_zero_or_pos initCode.length with hempty | hpos
  · refine .inr ⟨.inl hempty, none, [], ?_, ?_⟩
    · rw [List.length_eq_zero_iff.mp hempty]
      rfl
    · intro op hfactory _
      rw [List.length_eq_zero_iff.mp hempty]
      unfold UserOperation.initCode
      rw [hfactory]
  · have hnonempty : ¬initCode.isEmpty := by
      rw [List.isEmpty_iff, ← List.length_eq_zero_iff]
      omega
    by_cases hshort : initCode.length < 20
    · refine .inl ⟨hpos, by omega, ?_⟩
      unfold splitInitCode addressLength
      rw [if_neg hnonempty, if_pos hshort]
    · refine .inr ⟨.inr (by omega), some (Address.ofBytes (initCode.take 20)),
        initCode.drop 20, ?_, ?_⟩
      · unfold splitInitCode addressLength
        rw [if_neg hnonempty, if_neg hshort]
      · intro op hfactory hdata
        have hlength : (initCode.take 20).length = 20 := by
          rw [List.length_take]
          omega
        unfold UserOperation.initCode
        rw [hfactory, hdata]
        show (Address.ofBytes (initCode.take 20)).bytes ++ initCode.drop 20 = initCode
        rw [Address.bytes_ofBytes hlength, List.take_append_drop]

/-- The four parts at the front of a field are all of it. -/
theorem append_cuts (field : Bytes) :
    field.take 20 ++ (field.drop 20).take 16 ++ (field.drop 36).take 16 ++ field.drop 52
      = field := by
  -- each cut continues where the one before it ended
  have hfiftyTwo : field.drop 52 = (field.drop 36).drop 16 := by rw [List.drop_drop]
  have hthirtySix : field.drop 36 = (field.drop 20).drop 16 := by rw [List.drop_drop]
  rw [hfiftyTwo, List.append_assoc, List.take_append_drop, hthirtySix, List.append_assoc,
    List.take_append_drop, List.take_append_drop]

/-- A field of a paymaster is too short, or every operation with the parts it is split into has
it for its field. -/
theorem splitPaymasterAndData_cases (field : Bytes) :
    (1 ≤ field.length ∧ field.length ≤ 51
        ∧ splitPaymasterAndData field = .error (.paymasterAndDataTooShort field.length))
      ∨ ((field.length = 0 ∨ 52 ≤ field.length) ∧
          ∃ paymaster verificationLimit postOpLimit data,
            splitPaymasterAndData field
                = .ok (paymaster, verificationLimit, postOpLimit, data)
              ∧ ∀ op : UserOperation, op.paymaster = paymaster →
                  op.paymasterVerificationGasLimit = verificationLimit →
                  op.paymasterPostOpGasLimit = postOpLimit → op.paymasterData = data →
                  op.paymasterAndData = field) := by
  rcases Nat.eq_zero_or_pos field.length with hempty | hpos
  · refine .inr ⟨.inl hempty, none, 0, 0, [], ?_, ?_⟩
    · rw [List.length_eq_zero_iff.mp hempty]
      rfl
    · intro op hpaymaster _ _ _
      rw [List.length_eq_zero_iff.mp hempty]
      unfold paymasterAndData
      rw [hpaymaster]
  · have hnonempty : ¬field.isEmpty := by
      rw [List.isEmpty_iff, ← List.length_eq_zero_iff]
      omega
    by_cases hshort : field.length < 52
    · refine .inl ⟨hpos, by omega, ?_⟩
      unfold splitPaymasterAndData paymasterHeadLength
      rw [if_neg hnonempty, if_pos hshort]
    · refine .inr ⟨.inr (by omega), some (Address.ofBytes (field.take 20)),
        Gas.ofBytes ((field.drop 20).take 16), Gas.ofBytes ((field.drop 36).take 16),
        field.drop 52, ?_, ?_⟩
      · unfold splitPaymasterAndData paymasterHeadLength
        rw [if_neg hnonempty, if_neg hshort]
      · intro op hpaymaster hverification hpostOp hdata
        have hlength (start size : Nat) (hfits : start + size ≤ 52) :
            ((field.drop start).take size).length = size := by
          rw [List.length_take, List.length_drop]
          omega
        have haddress : (field.take 20).length = 20 := hlength 0 20 (by omega)
        unfold paymasterAndData
        rw [hpaymaster, hverification, hpostOp, hdata]
        show (Address.ofBytes (field.take 20)).bytes
          ++ (Gas.ofBytes ((field.drop 20).take 16)).bytes
          ++ (Gas.ofBytes ((field.drop 36).take 16)).bytes ++ field.drop 52 = field
        rw [Address.bytes_ofBytes haddress, Gas.bytes_ofBytes (hlength 20 16 (by omega)),
          Gas.bytes_ofBytes (hlength 36 16 (by omega))]
        exact append_cuts field

/-- **Everything unpacking can do**: it names the first field that is too short, or it gives an
operation that packs to what was unpacked. -/
theorem unpack_cases (p : PackedUserOperation) :
    (1 ≤ p.initCode.length ∧ p.initCode.length ≤ 19
        ∧ unpack p = .error (.initCodeTooShort p.initCode.length))
      ∨ ((p.initCode.length = 0 ∨ 20 ≤ p.initCode.length)
          ∧ 1 ≤ p.paymasterAndData.length ∧ p.paymasterAndData.length ≤ 51
          ∧ unpack p = .error (.paymasterAndDataTooShort p.paymasterAndData.length))
      ∨ (p.IsWellFormed ∧ ∃ op, unpack p = .ok op ∧ op.pack = p) := by
  rcases splitInitCode_cases p.initCode with
    ⟨hlow, hhigh, hinit⟩ | ⟨hinitLength, factory, factoryData, hinit, hinitCode⟩
  · refine .inl ⟨hlow, hhigh, ?_⟩
    unfold unpack
    rw [hinit]
    rfl
  · rcases splitPaymasterAndData_cases p.paymasterAndData with
      ⟨hlow, hhigh, hpaymaster⟩
        | ⟨hlength, paymaster, verificationLimit, postOpLimit, data, hpaymaster, hfield⟩
    · refine .inr (.inl ⟨hinitLength, hlow, hhigh, ?_⟩)
      unfold unpack
      rw [hinit, hpaymaster]
      rfl
    · refine .inr (.inr ⟨⟨hinitLength, hlength⟩, ?_⟩)
      unfold unpack
      rw [hinit, hpaymaster]
      refine ⟨_, rfl, ?_⟩
      unfold pack
      rw [hinitCode _ rfl rfl, hfield _ rfl rfl rfl rfl, Gas.join_high_low, Gas.join_high_low]

/-- A short init code is reported whatever the other fields hold. -/
theorem unpack_eq_initCodeTooShort_iff {p : PackedUserOperation} {n : Nat} :
    unpack p = .error (.initCodeTooShort n) ↔ n = p.initCode.length ∧ 1 ≤ n ∧ n ≤ 19 := by
  rcases unpack_cases p with
    ⟨hlow, hhigh, hunpack⟩ | ⟨hinit, hlow, hhigh, hunpack⟩ | ⟨hformed, op, hunpack, -⟩
  · rw [hunpack, Except.error.injEq, UnpackError.initCodeTooShort.injEq]
    omega
  · rw [hunpack]
    simp only [Except.error.injEq, reduceCtorEq, false_iff]
    omega
  · have hinit := hformed.initCode
    rw [hunpack]
    simp only [reduceCtorEq, false_iff]
    omega

/-- A short field of a paymaster is reported behind an init code that is not short. -/
theorem unpack_eq_paymasterAndDataTooShort_iff {p : PackedUserOperation} {m : Nat} :
    unpack p = .error (.paymasterAndDataTooShort m)
      ↔ ¬(1 ≤ p.initCode.length ∧ p.initCode.length ≤ 19)
        ∧ m = p.paymasterAndData.length ∧ 1 ≤ m ∧ m ≤ 51 := by
  rcases unpack_cases p with
    ⟨hlow, hhigh, hunpack⟩ | ⟨hinit, hlow, hhigh, hunpack⟩ | ⟨hformed, op, hunpack, -⟩
  · rw [hunpack]
    simp only [Except.error.injEq, reduceCtorEq, false_iff]
    omega
  · rw [hunpack, Except.error.injEq, UnpackError.paymasterAndDataTooShort.injEq]
    omega
  · have hfield := hformed.paymasterAndData
    rw [hunpack]
    simp only [reduceCtorEq, false_iff]
    omega

/-- Where neither is reported there is a result, and it packs to what was unpacked. -/
theorem isWellFormed_iff {p : PackedUserOperation} :
    p.IsWellFormed ↔ ∃ op, unpack p = .ok op ∧ op.pack = p := by
  constructor
  · rintro ⟨hinit, hfield⟩
    rcases unpack_cases p with ⟨hlow, hhigh, -⟩ | ⟨-, hlow, hhigh, -⟩ | ⟨-, hresult⟩
    · omega
    · omega
    · exact hresult
  · rintro ⟨op, hop, -⟩
    rcases unpack_cases p with ⟨-, -, hunpack⟩ | ⟨-, -, -, hunpack⟩ | ⟨hformed, -⟩
    · rw [hop] at hunpack
      cases hunpack
    · rw [hop] at hunpack
      cases hunpack
    · exact hformed

/-- Packed and unpacked operations correspond one to one, as long as nothing hangs on an absent
factory or paymaster. -/
theorem unpack_eq_ok_iff {p : PackedUserOperation} {op : UserOperation} :
    unpack p = .ok op ↔ op.IsNormal ∧ op.pack = p := by
  constructor
  · intro hop
    rcases unpack_cases p with ⟨-, -, herror⟩ | ⟨-, -, -, herror⟩ | ⟨-, op', hop', hpack⟩
    · rw [hop] at herror
      cases herror
    · rw [hop] at herror
      cases herror
    · rw [hop, Except.ok.injEq] at hop'
      subst hop'
      have hnormalize : unpack op.pack = .ok op.normalize := unpack_pack op
      rw [hpack, hop, Except.ok.injEq] at hnormalize
      exact ⟨normalize_eq_iff.mp hnormalize.symm, hpack⟩
  · rintro ⟨hnormal, hpack⟩
    rw [← hpack, unpack_pack, hnormal.normalize_eq_self]

/-- **Unpacking accepts exactly the well-formed operations, and undoing it gives the same bytes.**
An init code of 1 to 19 bytes is reported whatever the paymaster's field holds; else that field is
reported if it has 1 to 51 bytes; else unpacking succeeds and packing its result gives back what
was unpacked. All of this with every cut inside the bytes it is taken from. -/
theorem unpack_spec (p : PackedUserOperation) :
    (∀ n, unpack p = .error (.initCodeTooShort n)
        ↔ n = p.initCode.length ∧ 1 ≤ n ∧ n ≤ 19)
      ∧ (∀ m, unpack p = .error (.paymasterAndDataTooShort m)
          ↔ ¬(1 ≤ p.initCode.length ∧ p.initCode.length ≤ 19)
            ∧ m = p.paymasterAndData.length ∧ 1 ≤ m ∧ m ≤ 51)
      ∧ (p.IsWellFormed ↔ ∃ op, unpack p = .ok op ∧ op.pack = p)
      ∧ (∀ op, unpack p = .ok op ↔ op.IsNormal ∧ op.pack = p)
      ∧ (unpackChecked p).run = some (unpack p) := by
  refine ⟨?_, ?_, isWellFormed_iff, ?_, unpackChecked_eq p⟩
  · intro n
    exact unpack_eq_initCodeTooShort_iff
  · intro m
    exact unpack_eq_paymasterAndDataTooShort_iff
  · intro op
    exact unpack_eq_ok_iff

end UserOperation

end SmartAccount
