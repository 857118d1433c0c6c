import SmartAccount.BigEndian
/-!
# Keccak-256

The hash of the chain: function selectors, event topics, user operation hashes, addresses of
keys and the capitals of a checksummed address all come from it. The state is five sheets of
five 64-bit lanes, and each step of a round is a map over the sheets.
-/

namespace SmartAccount.Keccak

/-- A state: lane `y` of sheet `x` is the `y`-th entry of the `x`-th list. -/
abbrev State := List (List UInt64)

/-- The state of zeros that absorbing starts from. -/
def State.zero : State := List.replicate 5 (List.replicate 5 0)

def rotate (lane : UInt64) (places : UInt64) : UInt64 :=
  (lane <<< places) ||| (lane >>> (64 - places))

/-- How far each lane turns, sheet by sheet. -/
def turns : List (List UInt64) :=
  [[0, 36, 3, 41, 18], [1, 44, 10, 45, 2], [62, 6, 43, 15, 61], [28, 55, 25, 21, 56],
   [27, 20, 39, 8, 14]]

/-- The constant mixed into the first lane in each of the 24 rounds. -/
def roundConstants : List UInt64 :=
  [0x0000000000000001, 0x0000000000008082, 0x800000000000808a, 0x8000000080008000,
   0x000000000000808b, 0x0000000080000001, 0x8000000080008081, 0x8000000000008009,
   0x000000000000008a, 0x0000000000000088, 0x0000000080008009, 0x000000008000000a,
   0x000000008000808b, 0x800000000000008b, 0x8000000000008089, 0x8000000000008003,
   0x8000000000008002, 0x8000000000000080, 0x000000000000800a, 0x800000008000000a,
   0x8000000080008081, 0x8000000000008080, 0x0000000080000001, 0x8000000080008008]

/-- The list turned left by one place. -/
def cycle {α : Type} : List α → List α
  | [] => []
  | a :: rest => rest ++ [a]

/-- Adds to each lane the parities of two neighbouring sheets. -/
def diffuse (s : State) : State :=
  let parities := s.map (·.foldl (· ^^^ ·) 0)
  let before := cycle (cycle (cycle (cycle parities)))
  let after := (cycle parities).map (rotate · 1)
  List.zipWith (fun sheet d => sheet.map (· ^^^ d)) s (List.zipWith (· ^^^ ·) before after)

/-- Turns each lane by its own amount. -/
def turn (s : State) : State :=
  List.zipWith (List.zipWith rotate) s turns

/-- Moves the lanes about: lane `y` of sheet `x` comes from lane `x` of sheet `x + 3 y`. -/
def shuffle (s : State) : State :=
  (List.range 5).map fun x =>
    (List.range 5).map fun y => (s.getD ((x + 3 * y) % 5) []).getD x 0

/-- Mixes each lane with those of the next two sheets; the only step that is not linear. -/
def mix (s : State) : State :=
  List.zipWith (fun a bc => List.zipWith (· ^^^ ·) a bc) s
    (List.zipWith (List.zipWith fun b c => ~~~b &&& c) (cycle s) (cycle (cycle s)))

/-- Adds the constant of the round to the first lane. -/
def mark (constant : UInt64) : State → State
  | (lane :: lanes) :: sheets => ((lane ^^^ constant) :: lanes) :: sheets
  | s => s

def round (s : State) (constant : UInt64) : State :=
  mark constant (mix (shuffle (turn (diffuse s))))

def permute (s : State) : State :=
  roundConstants.foldl round s

/-- How many bytes one permutation absorbs. -/
def rate : Nat := 136

/-- The 64-bit lanes that a byte string writes, each with its least significant byte first. -/
def lanes : Nat → Bytes → List UInt64
  | 0, _ => []
  | n + 1, bytes =>
    UInt64.ofNat (BigEndian.decode (bytes.take 8).reverse) :: lanes n (bytes.drop 8)

/-- Adds a block to the first 17 lanes, which go through the sheets row by row. -/
def absorb (s : State) (block : Bytes) : State :=
  let input := lanes 17 block
  permute <| (List.range 5).map fun x =>
    (List.range 5).map fun y => (s.getD x []).getD y 0 ^^^ input.getD (x + 5 * y) 0

/-- The message with its end marked, filled up to whole blocks. -/
def pad (message : Bytes) : Bytes :=
  let gap := rate - message.length % rate
  if gap = 1 then message ++ [0x81]
  else message ++ 0x01 :: List.replicate (gap - 2) 0 ++ [0x80]

def absorbBlocks : (count : Nat) → State → Bytes → State
  | 0, s, _ => s
  | count + 1, s, bytes => absorbBlocks count (absorb s (bytes.take rate)) (bytes.drop rate)

/-- The first lane of each of the first four sheets, least significant byte first. -/
def squeeze (s : State) : Bytes :=
  (s.take 4).flatMap fun sheet => (BigEndian.encode 8 (sheet.getD 0 0).toNat).reverse

/-- The Keccak-256 digest of a message, 32 bytes. -/
def hash (message : Bytes) : Bytes :=
  squeeze (absorbBlocks (message.length / rate + 1) State.zero (pad message))

/-! ## Lengths -/

@[simp] theorem length_cycle {α : Type} (l : List α) : (cycle l).length = l.length := by
  cases l <;> simp [cycle]

@[simp] theorem length_mark (constant : UInt64) (s : State) :
    (mark constant s).length = s.length := by
  unfold mark
  split <;> rfl

/-- A round leaves five sheets, whatever it starts from. -/
theorem length_round (s : State) (constant : UInt64) : (round s constant).length = 5 := by
  simp [round, mix, shuffle]

theorem length_foldl_round (constants : List UInt64) (s : State) (h : s.length = 5) :
    (constants.foldl round s).length = 5 := by
  induction constants generalizing s with
  | nil => exact h
  | cons constant rest ih => exact ih _ (length_round s constant)

theorem length_absorb (s : State) (block : Bytes) : (absorb s block).length = 5 := by
  unfold absorb permute
  exact length_foldl_round _ _ (by simp)

theorem length_absorbBlocks (count : Nat) (s : State) (bytes : Bytes) (h : s.length = 5) :
    (absorbBlocks count s bytes).length = 5 := by
  induction count generalizing s bytes with
  | zero => exact h
  | succ count ih => exact ih _ _ (length_absorb s _)

theorem length_squeeze (s : State) (h : s.length = 5) : (squeeze s).length = 32 := by
  simp [squeeze, List.length_flatMap, List.map_const', h]

/-- A digest has 32 bytes. -/
theorem length_hash (message : Bytes) : (hash message).length = 32 :=
  length_squeeze _ (length_absorbBlocks _ _ _ rfl)

end SmartAccount.Keccak
