import SmartAccount.Abi.Codec
import SmartAccount.Proofs.WordBytes
/-!
# How contract values lie in their encoding

The encoding of a tuple is what stands in place for its parts, followed by the encodings of the
parts that are reached through an offset. Two facts about it are what reading needs.

How much stands in place for a value depends on its type alone (`headLength_parts`), and a value
without an offset is nothing but what stands in place for it (`layout_of_static`).

`Placed` says of any data that some parts lie in it in this way, with what stands in place from one
position on and the rest from another one. A layout places its parts (`HoldsAt.placed`), and where
parts are placed the first of them is, and so are the others (`Placed.head`, `Placed.tail`): the
order in which a tuple is read.
-/

namespace SmartAccount.Abi

/-! ## Parts -/

/-- A value as a part of a tuple. -/
def Ty.part (t : Ty) (v : t.Value) : Part := ⟨t.isDynamic, t.encode v⟩

@[simp] theorem Ty.part_isDynamic (t : Ty) (v : t.Value) : (t.part v).isDynamic = t.isDynamic := rfl

@[simp] theorem Ty.part_body (t : Ty) (v : t.Value) : (t.part v).body = t.encode v := rfl

theorem Ty.encode_tuple (name : String) (fields : Fields) (v : fields.Value) :
    (Ty.tuple name fields).encode v = layout (fields.parts v) := rfl

@[simp] theorem Fields.parts_cons (name declared : String) (type : Ty) (rest : Fields)
    (v : type.Value) (vs : rest.Value) :
    (Fields.cons name declared type rest).parts (v, vs) = type.part v :: rest.parts vs := rfl

@[simp] theorem length_lengthWord (n : Nat) : (lengthWord n).length = 32 := Word.length_bytes _

@[simp] theorem heads_nil (offset : Nat) : heads offset [] = [] := rfl

@[simp] theorem tails_nil : tails [] = [] := rfl

@[simp] theorem headLength_nil : headLength [] = 0 := rfl

/-- What stands in place for one part. -/
theorem heads_singleton (offset : Nat) (p : Part) :
    heads offset [p] = if p.isDynamic then lengthWord offset else p.body := by
  unfold heads
  split <;> simp [lengthWord]

theorem tails_singleton (p : Part) : tails [p] = if p.isDynamic then p.body else [] := by
  unfold tails
  split <;> simp

theorem headLength_cons (p : Part) (rest : List Part) :
    headLength (p :: rest) = headLength [p] + headLength rest := rfl

/-- What stands in place for the first part, and what for the others. -/
theorem heads_cons (offset : Nat) (p : Part) (rest : List Part) :
    heads offset (p :: rest)
      = heads offset [p] ++ heads (offset + (tails [p]).length) rest := by
  rw [heads_singleton, tails_singleton, heads]
  split <;> rfl

theorem tails_cons (p : Part) (rest : List Part) :
    tails (p :: rest) = tails [p] ++ tails rest := by
  rw [tails_singleton, tails]
  split <;> rfl

@[simp] theorem length_heads (offset : Nat) (parts : List Part) :
    (heads offset parts).length = headLength parts := by
  induction parts generalizing offset with
  | nil => rfl
  | cons p rest ih =>
    rw [heads_cons, List.length_append, ih, headLength_cons, heads_singleton]
    congr 1
    unfold headLength
    split <;> simp

theorem length_layout (parts : List Part) :
    (layout parts).length = headLength parts + (tails parts).length := by
  rw [layout, List.length_append, length_heads]

/-! ## Values without an offset -/

section Static

variable {parts : List Part} (hstatic : ∀ p ∈ parts, p.isDynamic = false)
include hstatic

theorem tails_of_static : tails parts = [] := by
  induction parts with
  | nil => rfl
  | cons p rest ih =>
    rw [tails_cons, tails_singleton, hstatic p List.mem_cons_self, if_neg Bool.false_ne_true,
      ih fun q hq => hstatic q (List.mem_cons_of_mem p hq), List.append_nil]

theorem heads_of_static (offset offset' : Nat) : heads offset parts = heads offset' parts := by
  induction parts generalizing offset offset' with
  | nil => rfl
  | cons p rest ih =>
    have hp := hstatic p List.mem_cons_self
    rw [heads_cons, heads_cons offset', heads_singleton, heads_singleton, hp]
    exact congrArg (p.body ++ ·) (ih (fun q hq => hstatic q (List.mem_cons_of_mem p hq)) _ _)

/-- A tuple without an offset is what stands in place for its parts, wherever it stands. -/
theorem layout_of_static (offset : Nat) : layout parts = heads offset parts := by
  rw [layout, tails_of_static hstatic, List.append_nil, heads_of_static hstatic]

end Static

theorem Fields.parts_of_static : (fields : Fields) → (v : fields.Value) →
    fields.isDynamic = false → ∀ p ∈ fields.parts v, p.isDynamic = false
  | .nil, _, _ => nofun
  | .cons _ _ type rest, (v, vs), h => by
    rw [Fields.isDynamic, Bool.or_eq_false_iff] at h
    intro p hp
    rcases List.mem_cons.mp hp with rfl | hp
    · exact h.1
    · exact Fields.parts_of_static rest vs h.2 p hp

mutual

/-- How much stands in place for a value is a matter of its type. -/
theorem Ty.headLength_part : (t : Ty) → (v : t.Value) → headLength [t.part v] = t.headSize
  | .word t, v => by
    unfold headLength Ty.headSize
    rw [Ty.part_isDynamic, Ty.part_body, Ty.isDynamic, Ty.encode, Word.length_bytes]
    rfl
  | .bytes, _ => rfl
  | .array _, _ => rfl
  | .tuple _ fields, v => by
    unfold headLength Ty.headSize
    rw [Ty.part_isDynamic, Ty.part_body, Ty.encode_tuple, Ty.isDynamic]
    by_cases hdynamic : fields.isDynamic = true
    · rw [if_pos hdynamic, if_pos hdynamic]
      rfl
    · have hstatic := fields.parts_of_static v (Bool.not_eq_true _ ▸ hdynamic)
      rw [if_neg hdynamic, if_neg hdynamic, layout_of_static hstatic 0, length_heads,
        Fields.headLength_parts fields v]
      rfl

theorem Fields.headLength_parts : (fields : Fields) → (v : fields.Value) →
    headLength (fields.parts v) = fields.headSize
  | .nil, _ => rfl
  | .cons _ _ type rest, (v, vs) => by
    rw [Fields.parts_cons, headLength_cons, Ty.headLength_part type v,
      Fields.headLength_parts rest vs, Fields.headSize]

end

/-- Values that are not reached through an offset have one length. -/
theorem Fields.length_encode_of_static {fields : Fields} (v : fields.Value)
    (h : fields.isDynamic = false) : (fields.encode v).length = fields.headSize := by
  rw [Fields.encode, length_layout, tails_of_static (fields.parts_of_static v h),
    Fields.headLength_parts fields v, List.length_nil, Nat.add_zero]

theorem Ty.headLength_map_part (t : Ty) (vs : List t.Value) :
    headLength (vs.map t.part) = vs.length * t.headSize := by
  induction vs with
  | nil => rw [List.map_nil, headLength_nil, List.length_nil, Nat.zero_mul]
  | cons v rest ih =>
    rw [List.map_cons, headLength_cons, t.headLength_part v, ih, List.length_cons, Nat.succ_mul,
      Nat.add_comm]

/-! ## Parts in data -/

/-- The bytes stand in the data from a position on. -/
def HoldsAt (data : Bytes) (position : Nat) (bytes : Bytes) : Prop :=
  bytes <+: data.drop position

section HoldsAt

variable {data bytes a b : Bytes} {position : Nat}

theorem HoldsAt.left (h : HoldsAt data position (a ++ b)) : HoldsAt data position a :=
  (List.prefix_append a b).trans h

theorem HoldsAt.right (h : HoldsAt data position (a ++ b)) :
    HoldsAt data (position + a.length) b := by
  obtain ⟨rest, hrest⟩ := h
  refine ⟨rest, ?_⟩
  rw [← List.drop_drop, ← hrest, List.append_assoc, List.drop_left]

theorem HoldsAt.drop (h : HoldsAt data position bytes) : HoldsAt (data.drop position) 0 bytes := h

theorem HoldsAt.take_eq (h : HoldsAt data position bytes) :
    (data.drop position).take bytes.length = bytes :=
  (List.prefix_iff_eq_take.mp h).symm

/-- What stands in the data fits into it. -/
theorem HoldsAt.length_le (h : HoldsAt data position bytes) :
    bytes.length ≤ (data.drop position).length :=
  List.IsPrefix.length_le h

end HoldsAt

/-- The parts lie in the data: what stands in place for them from `position` on, and the encodings
of those that are reached through an offset from `offset` on. -/
structure Placed (data : Bytes) (position offset : Nat) (parts : List Part) : Prop where
  heads : HoldsAt data position (heads offset parts)
  tails : HoldsAt data offset (tails parts)
  offset_le : offset ≤ data.length

section Placed

variable {data : Bytes} {position offset : Nat} {p : Part} {parts : List Part}

/-- A layout places its parts. -/
theorem HoldsAt.placed (h : HoldsAt data position (layout parts)) :
    Placed (data.drop position) 0 (headLength parts) parts where
  heads := HoldsAt.left h
  tails := by
    have := HoldsAt.right h.drop
    rwa [length_heads, Nat.zero_add] at this
  offset_le := by
    have := h.length_le
    rw [length_layout] at this
    omega

theorem Placed.head (h : Placed data position offset (p :: parts)) :
    Placed data position offset [p] where
  heads := by
    have := h.heads
    rw [heads_cons] at this
    exact this.left
  tails := by
    have := h.tails
    rw [tails_cons] at this
    exact this.left
  offset_le := h.offset_le

/-- The other parts lie behind what stands in place for the first and behind its encoding. -/
theorem Placed.tail (h : Placed data position offset (p :: parts)) :
    Placed data (position + headLength [p]) (offset + (Abi.tails [p]).length) parts where
  heads := by
    have := h.heads
    rw [heads_cons] at this
    rw [← length_heads offset [p]]
    exact this.right
  tails := by
    have := h.tails
    rw [tails_cons] at this
    exact this.right
  offset_le := by
    have := h.head.tails.length_le
    have := h.offset_le
    rw [List.length_drop] at *
    omega

/-- A tuple without an offset stands in place, and so do its parts. -/
theorem Placed.of_static {body : List Part} (hstatic : ∀ q ∈ body, q.isDynamic = false)
    (h : Placed data position offset [⟨false, layout body⟩]) :
    Placed data position offset body where
  heads := by
    have := h.heads
    rwa [heads_singleton, if_neg Bool.false_ne_true, layout_of_static hstatic offset] at this
  tails := by
    rw [tails_of_static hstatic]
    exact List.nil_prefix
  offset_le := h.offset_le

end Placed

end SmartAccount.Abi
