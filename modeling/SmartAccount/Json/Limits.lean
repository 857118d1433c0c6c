import SmartAccount.Json.Number
/-!
# Limits of values that are read as a whole

Where a value is kept before it is known what it is for, it has to be one that can be kept:
strings and keys that stand for strings, numbers that stand for numbers, and no more than 127
levels of arrays and objects.
-/

namespace SmartAccount.Json

/-- How many levels a text may nest. -/
def maxDepth : Nat := 127

mutual

/-- Whether a value can be kept below `depth` further levels. -/
def isKeepable : (depth : Nat) → Json → Bool
  | _, .null => true
  | _, .bool _ => true
  | _, .number literal => (Number.ofLiteral? literal).isSome
  | _, .str s => s.isSome
  | 0, .array _ => false
  | 0, .object _ => false
  | depth + 1, .array items => areKeepable depth items
  | depth + 1, .object members => areKeepableMembers depth members

def areKeepable (depth : Nat) : List Json → Bool
  | [] => true
  | item :: rest => isKeepable depth item && areKeepable depth rest

def areKeepableMembers (depth : Nat) : List (Option String × Json) → Bool
  | [] => true
  | (key, value) :: rest => key.isSome && isKeepable depth value && areKeepableMembers depth rest

end

end SmartAccount.Json
