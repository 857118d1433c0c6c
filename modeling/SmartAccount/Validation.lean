import SmartAccount.Word
/-!
# Validation data

The word that an account returns when it validates an operation: the aggregator in the low 160
bits, above it the last and the first second of validity, 48 bits each. The aggregator one
stands for a signature that is not valid, and the last second zero for no end.
-/

namespace SmartAccount

/-- What a validation word says. -/
structure ValidationData where
  /-- The aggregator field as it stands in the word. -/
  authorizer : Address
  /-- The first second at which the operation is valid. -/
  validAfter : BitVec 64
  /-- The last second at which the operation is valid. -/
  validUntil : BitVec 64
  deriving DecidableEq, Repr

namespace ValidationData

/-- The aggregator that marks a signature as not valid. -/
def signatureFailed : Address := 1

/-- A last second that never comes. -/
def unbounded : BitVec 64 := BitVec.allOnes 64

/-- Reads a validation word. -/
def ofWord (w : Word) : ValidationData :=
  let last : BitVec 64 := (w.extractLsb' 160 48).setWidth 64
  { authorizer := w.setWidth 160
    validAfter := (w.extractLsb' 208 48).setWidth 64
    validUntil := if last = 0 then unbounded else last }

def signatureValid (v : ValidationData) : Bool := v.authorizer ≠ signatureFailed

/-- The aggregator, if there is one. -/
def aggregator (v : ValidationData) : Option Address :=
  if v.authorizer = signatureFailed ∨ v.authorizer = 0 then none else some v.authorizer

end ValidationData

end SmartAccount
