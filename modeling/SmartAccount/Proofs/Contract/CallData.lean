import Mathlib.Data.List.Nodup
import SmartAccount.Contract.Interface
import SmartAccount.Proofs.Abi.RoundTrip
/-!
# Call data read back

Call data of any list of functions whose selectors differ is decoded to the function and the
arguments that it was made of (`Invocation.decode_encode`): the selector finds the function, and
what follows is the encoding of its arguments.

The three contracts declare twenty functions between them. That their selectors differ is a fact
about hashes, so it is computed, and only once for each function: `selectorNumbers` is what the
hashes come out as, and the numbers in it are compared instead of the hashes.
-/

namespace SmartAccount.Contract

open Abi

/-! ## Lists of functions -/

/-- Where no two items have the same key, the key of an item finds the item. -/
theorem find?_key {α κ : Type} [DecidableEq κ] {key : α → κ} {items : List α}
    (hkey : ∀ a ∈ items, ∀ b ∈ items, key a = key b → a = b) {a : α} (ha : a ∈ items) :
    items.find? (key · = key a) = some a := by
  obtain ⟨b, hb⟩ : ∃ b, items.find? (key · = key a) = some b := by
    rw [← Option.isSome_iff_exists, List.find?_isSome]
    exact ⟨a, ha, decide_eq_true rfl⟩
  have hmem : b ∈ items := List.mem_of_find?_eq_some hb
  have hsame : key b = key a := of_decide_eq_true (List.find?_some hb :)
  rw [hb, hkey b hmem a ha hsame]

@[simp] theorem Function.length_selector (f : Function) : f.selector.length = 4 := by
  unfold selector
  rw [List.length_take, Keccak.length_hash]
  rfl

section Decode

variable {functions : List Function}
  (hselector : ∀ f ∈ functions, ∀ g ∈ functions, f.selector = g.selector → f = g)
include hselector

/-- Call data is decoded to what it was made of. -/
theorem Invocation.decode_encode (i : Invocation) (hmem : i.function ∈ functions)
    (hregular : i.function.inputs.isRegular = true) (hlength : i.encode.length < 2 ^ 64)
    (validate : Bool) : Invocation.decode functions validate i.encode = .ok i := by
  have hdata : i.encode.length = 4 + (i.function.inputs.encode i.args).length := by
    rw [encode, Function.encodeCall, List.length_append, Function.length_selector]
  have htake : i.encode.take 4 = i.function.selector :=
    List.take_left' i.function.length_selector
  have hdrop : i.encode.drop 4 = i.function.inputs.encode i.args :=
    List.drop_left' i.function.length_selector
  have hargs := Fields.decode_encode hregular i.args (by omega) validate
  rw [decode, if_neg (by omega), htake, find?_key hselector hmem]
  simp only [hdrop, hargs]
  rfl

end Decode

/-! ## The three contracts -/

/-- The functions that the contracts declare, each once. -/
def allFunctions : List Function :=
  aAccount.functions ++ [.transferOwnership, .accountImplementation, .createAccount, .getAddress,
    .isAccount, .addStake, .unlockStake, .withdrawStake]

/-- Their selectors as numbers. -/
def selectorNumbers : List Nat :=
  [0xb0d691fe, 0x8da5cb5b, 0xd087d288, 0xc399ec88, 0xc4d66de8, 0xb61d27f6, 0x34fcd5be, 0x19822f7c,
    0x4a58db19, 0x4d44560d, 0x1626ba7e, 0x01ffc9a7, 0xf2fde38b, 0x11464fbe, 0x5fbfb9cf, 0x8cb84e18,
    0x25ca4c9c, 0x0396cb60, 0xbb9fe6bf, 0xc23a5cea]

theorem decode_selector :
    allFunctions.map (fun f => BigEndian.decode f.selector) = selectorNumbers := by
  simp only [allFunctions, aAccount, selectorNumbers, List.cons_append, List.nil_append,
    List.map_cons, List.map_nil, List.cons.injEq]
  -- one hash at a time: computing all of them at once takes ten times the memory
  and_intros
  all_goals decide +kernel

/-- No two functions have the same selector. -/
theorem selector_inj : ∀ f ∈ allFunctions, ∀ g ∈ allFunctions, f.selector = g.selector → f = g := by
  have hnumbers : selectorNumbers.Nodup := by decide
  rw [← decode_selector] at hnumbers
  intro f hf g hg h
  exact List.inj_on_of_nodup_map hnumbers hf hg (congrArg BigEndian.decode h)

namespace Kind

theorem functions_subset (k : Kind) : ∀ f ∈ k.interface.functions, f ∈ allFunctions := by
  cases k <;> decide

theorem isRegular_inputs (k : Kind) : ∀ f ∈ k.interface.functions, f.inputs.isRegular = true := by
  cases k <;> decide

/-- Call data of a function of a contract is decoded to the function with its arguments. -/
theorem decode_encode (k : Kind) (i : Invocation) (hmem : i.function ∈ k.interface.functions)
    (hlength : i.encode.length < 2 ^ 64) (validate : Bool) :
    Invocation.decode k.interface.functions validate i.encode = .ok i :=
  i.decode_encode
    (fun f hf g hg => selector_inj f (k.functions_subset f hf) g (k.functions_subset g hg)) hmem
    (k.isRegular_inputs _ hmem) hlength validate

/-- Two invocations of one contract with the same call data are the same. -/
theorem encode_inj (k : Kind) {i j : Invocation} (hi : i.function ∈ k.interface.functions)
    (hj : j.function ∈ k.interface.functions) (hlength : i.encode.length < 2 ^ 64)
    (h : i.encode = j.encode) : i = j := by
  have hdecode := k.decode_encode j hj (h ▸ hlength) false
  rw [← h, k.decode_encode i hi hlength false] at hdecode
  exact Except.ok.inj hdecode

end Kind

/-- For each function of each contract and all arguments: the contract as a whole encodes the call
as the function does, decodes that call data to the same function with the same arguments, with or
without validation, and has no other call with that call data.

The bound on the length is that of a byte string in memory, which has a length of 64 bits. -/
theorem call_data_round_trip (k : Kind) {f : Function} (hf : f ∈ k.interface.functions)
    (args : f.inputs.Value) (hlength : (f.encodeCall args).length < 2 ^ 64) :
    Invocation.encode ⟨f, args⟩ = f.encodeCall args
      ∧ (∀ validate, Invocation.decode k.interface.functions validate (f.encodeCall args)
          = .ok ⟨f, args⟩)
      ∧ ∀ g ∈ k.interface.functions, ∀ others : g.inputs.Value,
          g.encodeCall others = f.encodeCall args →
          (⟨g, others⟩ : Invocation) = ⟨f, args⟩ := by
  refine ⟨rfl, ?_, ?_⟩
  · intro validate
    exact k.decode_encode ⟨f, args⟩ hf hlength validate
  · intro g hg others h
    have hlength' : (g.encodeCall others).length < 2 ^ 64 := by rwa [h]
    exact k.encode_inj (i := ⟨g, others⟩) (j := ⟨f, args⟩) hg hf hlength' h

/-- The arguments of a batch of two calls, one with more data than a word holds and one with
none. -/
def twoCalls : Function.executeBatch.inputs.Value :=
  ([callValue ⟨0xd8da6bf26964af9d7eed9e03e53415d37aa96045, 1, List.replicate 33 0xab⟩,
    callValue ⟨0x1234, BitVec.allOnes 256, []⟩], ())

theorem call_data_round_trip_twoCalls :
    Function.executeBatch ∈ Kind.aAccount.interface.functions
      ∧ (Function.executeBatch.encodeCall twoCalls).length < 2 ^ 64
      ∧ ∀ validate, Invocation.decode Kind.aAccount.interface.functions validate
          (Function.executeBatch.encodeCall twoCalls) = .ok ⟨.executeBatch, twoCalls⟩ := by
  have hmem : Function.executeBatch ∈ Kind.aAccount.interface.functions := by decide
  have hlength : (Function.executeBatch.encodeCall twoCalls).length < 2 ^ 64 := by decide +kernel
  exact ⟨hmem, hlength, (call_data_round_trip .aAccount hmem twoCalls hlength).2.1⟩

end SmartAccount.Contract
