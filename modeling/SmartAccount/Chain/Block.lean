import SmartAccount.Json.Scalar
/-!
# Blocks

Which block a question is about: a block number, a named block such as the latest one, or the
block with a given hash.
-/

namespace SmartAccount

/-- The number of a block. -/
abbrev BlockNumber := BitVec 64

/-- A way to name a block. -/
inductive BlockId where
  | number (n : BlockNumber)
  /-- `latest`, `pending`, `earliest`, `finalized` or `safe`. -/
  | tag (name : String)
  | hash (h : Hash)

/-- The tags of blocks. -/
def BlockId.tags : List String := ["latest", "finalized", "safe", "earliest", "pending"]

/-- A block as a parameter of a request. -/
def BlockId.toJson : BlockId → Json
  | .number n => .quantity n
  | .tag name => .string name
  | .hash h => .record [("blockHash", .word h)]

/-- The number of a block in decimal digits, or in hex digits after `0x`. -/
def BlockNumber.parse? (text : String) : Option BlockNumber :=
  match text.toList with
  | '0' :: 'x' :: c :: rest =>
    (c :: rest).foldlM (fun n d => (Numeral.digit? 16 d).map (16 * n + ·)) 0 >>= Numeral.fit? 64
  | _ => Numeral.plainBounded? 64 text

/-- A block from its text: a tag in letters of either case, a number, or a hash. -/
def BlockId.parse? (text : String) : Option BlockId :=
  if text.toLower ∈ tags then some (.tag text.toLower)
  else if text.length = 66 then (Hash.parse? text).map .hash
  else (BlockNumber.parse? text).map .number <|> (Hash.parse? text).map .hash

end SmartAccount
