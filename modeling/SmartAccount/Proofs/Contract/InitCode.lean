import SmartAccount.Proofs.Contract.Requests
import SmartAccount.Proofs.UserOperation.Unpacking
/-!
# The init code of the factory

The init code of an account is put together in two places: by the factory, which knows how its
accounts are created, and by packing an operation that names a factory and some data for it. Both
put the address in front, so they agree once the data is the call data of the factory
(`initCode_of_factory`, `initCode_build`).

The way back goes through both of them as well. Unpacking cuts the address off
(`exists_unpack_of_initCode`), and what is left is call data, which the contract decodes to the
creation of the account (`decode_createAccountCallData`). As no step on this way is told more than
the init code, it names the factory, the owner and the salt (`initCode_inj`).
-/

namespace SmartAccount

open Contract

namespace UserOperation

/-- An operation with a factory has it in front of its init code. -/
theorem initCode_of_factory {op : UserOperation} {factory : Address}
    (h : op.factory = some factory) : op.pack.initCode = factory.bytes ++ op.factoryData := by
  show op.initCode = _
  unfold initCode
  rw [h]

/-- The last factory that the steps of a build name is the one in the init code. -/
theorem initCode_build (r : RequiredFields) (before after : List BuildStep) (factory : Address)
    (data : Bytes) (hafter : ∀ step ∈ after, step.factory? = none) :
    (build r (before ++ .factory factory data :: after)).pack.initCode = factory.bytes ++ data := by
  have hlast : lastFactory (before ++ .factory factory data :: after) = some (factory, data) := by
    have hnone : after.filterMap BuildStep.factory? = [] :=
      List.filterMap_eq_nil_iff.mpr hafter
    unfold lastFactory
    rw [List.filterMap_append, List.filterMap_cons, hnone]
    exact List.getLast?_concat
  have hfactory : (build r (before ++ .factory factory data :: after)).factory = some factory := by
    rw [build_eq, hlast]
    rfl
  have hdata : (build r (before ++ .factory factory data :: after)).factoryData = data := by
    rw [build_eq, hlast]
    rfl
  rw [initCode_of_factory hfactory, hdata]

/-- Behind a factory in the init code stands its data. -/
theorem exists_unpack_of_initCode {p : PackedUserOperation} {factory : Address} {data : Bytes}
    (hinit : p.initCode = factory.bytes ++ data)
    (hfield : p.paymasterAndData.length = 0 ∨ 52 ≤ p.paymasterAndData.length) :
    ∃ op, unpack p = .ok op ∧ op.factory = some factory ∧ op.factoryData = data := by
  have hlength : 20 ≤ p.initCode.length := by
    rw [hinit, List.length_append, Address.length_bytes]
    omega
  obtain ⟨op, hop, hpack⟩ := isWellFormed_iff.mp ⟨.inr hlength, hfield⟩
  -- the init code is split in one way only, so it has to be the one of this operation
  have hsplit := splitInitCode_initCode op
  have hsame : op.initCode = factory.bytes ++ data := by
    rw [← hinit, ← hpack]
    rfl
  rw [hsame, splitInitCode_append, Except.ok.injEq, Prod.mk.injEq] at hsplit
  obtain ⟨hfactory, hdata⟩ := hsplit
  rw [← hfactory] at hdata
  exact ⟨op, hop, hfactory.symm, hdata.symm⟩

end UserOperation

namespace Factory

/-- The contract decodes the call data to the creation of the account. -/
theorem decode_createAccountCallData (f : Factory) (owner : Address) (salt : Word)
    (validate : Bool) :
    Invocation.decode accountManager.functions validate (f.createAccountCallData owner salt)
      = .ok ⟨.createAccount, (owner, salt, ())⟩ := by
  have hmem : Function.createAccount ∈ Kind.accountManager.interface.functions := by decide
  exact Kind.accountManager.decode_encode ⟨.createAccount, (owner, salt, ())⟩ hmem
    (length_encodeCall hmem _) validate

theorem initCode_inj {f f' : Factory} {owner owner' : Address} {salt salt' : Word}
    (h : f.initCode owner salt = f'.initCode owner' salt') :
    f = f' ∧ owner = owner' ∧ salt = salt' := by
  have hlength : f.address.bytes.length = f'.address.bytes.length := by
    rw [Address.length_bytes, Address.length_bytes]
  obtain ⟨haddress, hdata⟩ := List.append_inj h hlength
  have hfactory : f = f' := by
    obtain ⟨address⟩ := f
    obtain ⟨address'⟩ := f'
    exact congrArg mk (bytesOfBits_inj 20 haddress)
  -- one call data is not decoded in two ways
  have hdecode := f.decode_createAccountCallData owner salt false
  rw [hdata, f'.decode_createAccountCallData owner' salt' false] at hdecode
  obtain ⟨-, hargs⟩ := Invocation.mk.inj (Except.ok.inj hdecode)
  obtain ⟨howner, hrest⟩ := Prod.mk.inj (eq_of_heq hargs)
  exact ⟨hfactory, howner.symm, (Prod.mk.inj hrest).1.symm⟩

/-- **The init code of the factory is the one that a packed operation carries.** An operation that
is given the factory and its call data to create an account has the init code of the factory when
it is packed, whatever else it holds; and so has every operation that is built with these, as long
as no other factory is named later.

Unpacking an operation with that init code gives the factory and data that the contract decodes to
the creation of the account, with this owner and this salt. So no two factories, owners or salts
have the same init code. -/
theorem init_code_carried (f : Factory) (owner : Address) (salt : Word) :
    (∀ op : UserOperation,
        (op.apply (.factory f.address (f.createAccountCallData owner salt))).pack.initCode
          = f.initCode owner salt)
      ∧ (∀ r before after,
        (∀ step ∈ after, UserOperation.BuildStep.factory? step = none) →
        (UserOperation.build r (before
          ++ .factory f.address (f.createAccountCallData owner salt) :: after)).pack.initCode
          = f.initCode owner salt)
      ∧ (∀ p : PackedUserOperation, p.initCode = f.initCode owner salt →
        (p.paymasterAndData.length = 0 ∨ 52 ≤ p.paymasterAndData.length) →
        ∃ op, UserOperation.unpack p = .ok op ∧ op.factory = some f.address
          ∧ ∀ validate, Invocation.decode accountManager.functions validate op.factoryData
            = .ok ⟨.createAccount, (owner, salt, ())⟩)
      ∧ ∀ f' owner' salt', Factory.initCode f' owner' salt' = f.initCode owner salt
        ↔ f' = f ∧ owner' = owner ∧ salt' = salt := by
  refine ⟨?_, ?_, ?_, ?_⟩
  · intro op
    exact UserOperation.initCode_of_factory rfl
  · intro r before after hafter
    exact UserOperation.initCode_build r before after f.address _ hafter
  · intro p hinit hfield
    obtain ⟨op, hop, hfactory, hdata⟩ := UserOperation.exists_unpack_of_initCode hinit hfield
    refine ⟨op, hop, hfactory, fun validate => ?_⟩
    rw [hdata]
    exact f.decode_createAccountCallData owner salt validate
  · intro f' owner' salt'
    refine ⟨initCode_inj, ?_⟩
    rintro ⟨rfl, rfl, rfl⟩
    rfl

/-- A packed operation that has its sender deployed and is sponsored. -/
def deploying : PackedUserOperation where
  sender := 0xa11ce
  nonce := 7
  initCode := initCode ⟨0xfac70⟩ 0xb2 3
  callData := [0xb6, 0x1d]
  accountGasLimits := Gas.join 200000 100000
  preVerificationGas := 50000
  gasFees := Gas.join 1 30
  paymasterAndData := List.replicate 51 0 ++ [9, 8]
  signature := [3]

/-- A build that names a factory, then another one, and then a paymaster; and unpacking. -/
theorem init_code_carried_deploying :
    (∀ step ∈ [UserOperation.BuildStep.paymaster 9 2 4 [7]], step.factory? = none)
      ∧ (UserOperation.build ⟨0xa11ce, 7, [], 100000, 200000, 50000, 1, 30, [3]⟩
          ([.factory 5 [1]] ++ .factory 0xfac70 (createAccountCallData ⟨0xfac70⟩ 0xb2 3)
            :: [.paymaster 9 2 4 [7]])).pack.initCode = initCode ⟨0xfac70⟩ 0xb2 3
      ∧ deploying.initCode = initCode ⟨0xfac70⟩ 0xb2 3
      ∧ (deploying.paymasterAndData.length = 0 ∨ 52 ≤ deploying.paymasterAndData.length)
      ∧ ∃ op, UserOperation.unpack deploying = .ok op ∧ op.factory = some 0xfac70
        ∧ ∀ validate, Invocation.decode accountManager.functions validate op.factoryData
          = .ok ⟨.createAccount, ((0xb2 : Address), (3 : Word), ())⟩ := by
  obtain ⟨-, hbuild, hunpack, -⟩ := init_code_carried ⟨0xfac70⟩ 0xb2 3
  have hafter : ∀ step ∈ [UserOperation.BuildStep.paymaster 9 2 4 [7]], step.factory? = none := by
    intro step hstep
    rw [List.mem_singleton.mp hstep]
    rfl
  have hfield : deploying.paymasterAndData.length = 0
      ∨ 52 ≤ deploying.paymasterAndData.length := .inr (by decide)
  exact ⟨hafter, hbuild _ _ _ hafter, rfl, hfield, hunpack deploying rfl hfield⟩

end Factory

end SmartAccount
