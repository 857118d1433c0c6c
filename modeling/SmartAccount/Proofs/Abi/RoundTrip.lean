import SmartAccount.Proofs.Abi.Layout
/-!
# Reading back what was encoded

Where a value lies in some data as a part of a tuple, reading its type there gives the value, with
no word that holds more than it should, and goes on right behind it (`Ty.read_part`,
`Fields.read_parts`). The reader follows an offset into the rest of the data and never learns where
a value ends there, so the statement is about any data in which the part is placed, and what comes
behind it does not matter. The induction is on the type: a list is read by reading its items in
turn, a tuple by reading its fields.

Two things can keep a value from being read back. Its type can ask for more than a word has or for
items that take no place, which `Ty.isRegular` excludes. And a count or an offset can be too large
to be read as one, which takes data of `2 ^ 64` bytes or more.
-/

namespace SmartAccount.Abi

/-! ## Regular types -/

/-- Whether a word has room for the values of the type. -/
def WordTy.fits : WordTy → Bool
  | .address => true
  | .bool => true
  | .uint bits => bits ≤ 256
  | .fixedBytes size => size ≤ 32

mutual

/-- Whether each word of a value has room for it, and each item of a list takes a word in place or
more. -/
def Ty.isRegular : Ty → Bool
  | .word t => t.fits
  | .bytes => true
  | .array item => item.isRegular && decide (32 ≤ item.headSize)
  | .tuple _ fields => fields.isRegular

def Fields.isRegular : Fields → Bool
  | .nil => true
  | .cons _ _ type rest => type.isRegular && rest.isRegular

end

/-- Moving a bit string to the high end of a word and back. -/
theorem shiftRight_shiftLeft_setWidth {width : Nat} (hwidth : width ≤ 256) (b : BitVec width) :
    ((b.setWidth 256 <<< (256 - width)) >>> (256 - width)).setWidth width = b := by
  have hlt : b.toNat * 2 ^ (256 - width) < 2 ^ 256 := by
    calc b.toNat * 2 ^ (256 - width)
        < 2 ^ width * 2 ^ (256 - width) := Nat.mul_lt_mul_of_pos_right b.isLt (Nat.two_pow_pos _)
      _ = 2 ^ 256 := by rw [← Nat.pow_add, Nat.add_sub_cancel' hwidth]
  apply BitVec.eq_of_toNat_eq
  rw [BitVec.toNat_setWidth, BitVec.toNat_ushiftRight, BitVec.toNat_shiftLeft,
    BitVec.toNat_setWidth_of_le hwidth, Nat.shiftLeft_eq, Nat.mod_eq_of_lt hlt,
    Nat.shiftRight_eq_div_pow, Nat.mul_div_cancel _ (Nat.two_pow_pos _),
    Nat.mod_eq_of_lt b.isLt]

/-- A word gives back the value that it was made of. -/
theorem WordTy.ofWord_toWord (t : WordTy) (ht : t.fits = true) (v : t.Value) :
    t.ofWord (t.toWord v) = v := by
  cases t with
  | address => exact (BitVec.setWidth_setWidth_of_le v (by decide)).trans (BitVec.setWidth_eq v)
  | bool => cases v <;> rfl
  | uint bits =>
    have hbits : bits ≤ 256 := of_decide_eq_true ht
    exact (BitVec.setWidth_setWidth_of_le v hbits).trans (BitVec.setWidth_eq v)
  | fixedBytes size =>
    have hsize : size ≤ 32 := of_decide_eq_true ht
    exact shiftRight_shiftLeft_setWidth (by omega) v

theorem WordTy.isClean_toWord (t : WordTy) (ht : t.fits = true) (v : t.Value) :
    t.isClean (t.toWord v) = true := by
  rw [isClean, t.ofWord_toWord ht, decide_eq_true rfl]

/-! ## Words and offsets -/

section Words

variable {data : Bytes} {position offset : Nat}

theorem wordAt_eq_ok {w : Word} (h : HoldsAt data position w.bytes) :
    wordAt data position = .ok w := by
  have htake : (data.drop position).take 32 = w.bytes := by
    have := h.take_eq
    rwa [Word.length_bytes] at this
  simp only [wordAt, htake, Word.length_bytes, if_true, Word.ofBytes_bytes]

theorem lengthAt_eq_ok {n : Nat} (hn : n < 2 ^ 64) (h : HoldsAt data position (lengthWord n)) :
    lengthAt data position = .ok n := by
  have htoNat : (BitVec.ofNat 256 n).toNat = n := Nat.mod_eq_of_lt (by omega)
  have hhigh : BitVec.ofNat 256 n >>> 64 = 0 := by
    apply BitVec.eq_of_toNat_eq
    rw [BitVec.toNat_ushiftRight, htoNat, Nat.shiftRight_eq_div_pow, Nat.div_eq_of_lt hn]
    rfl
  unfold lengthAt
  rw [wordAt_eq_ok h]
  simp only [bind, Except.bind, hhigh, if_true, htoNat]
  rfl

/-- An offset leads to the encoding that is reached through it. -/
theorem follow_eq_ok (hlength : data.length < 2 ^ 64) {body : Bytes}
    (h : Placed data position offset [⟨true, body⟩]) :
    follow data position = .ok (data.drop offset) := by
  have hoffset := h.offset_le
  have hhead := h.heads
  rw [heads_singleton, if_pos rfl] at hhead
  unfold follow
  rw [lengthAt_eq_ok (by omega) hhead]
  exact if_pos hoffset

theorem Placed.holdsAt {body : Bytes} (h : Placed data position offset [⟨true, body⟩]) :
    HoldsAt (data.drop offset) 0 body := by
  have := h.tails
  rw [tails_singleton, if_pos rfl] at this
  exact this.drop

/-- What stands behind a length or a count at the start of the data. -/
theorem HoldsAt.behind_length {n : Nat} {body : Bytes}
    (h : HoldsAt data 0 (lengthWord n ++ body)) : HoldsAt data 32 body := by
  have := h.right
  rwa [Nat.zero_add, length_lengthWord] at this

end Words

/-! ## Values -/

/-- Items that are placed one after the other are read one after the other. -/
theorem readMany_parts {t : Ty} {data : Bytes}
    {read : Nat → Except DecodeError (Reading t.Value)}
    (hread : ∀ (v : t.Value) (position offset : Nat), Placed data position offset [t.part v] →
      read position = .ok ⟨v, true, position + t.headSize⟩) (vs : List t.Value) :
    ∀ (position offset : Nat), Placed data position offset (vs.map t.part) →
      readMany read vs.length position = .ok ⟨vs, true, position + vs.length * t.headSize⟩ := by
  induction vs with
  | nil =>
    intro position _ _
    rw [List.length_nil, Nat.zero_mul]
    rfl
  | cons v rest ih =>
    intro position offset h
    have hrest := h.tail
    rw [t.headLength_part v] at hrest
    rw [List.length_cons, readMany, hread v position offset h.head]
    simp only [bind, Except.bind, ih _ _ hrest, Nat.succ_mul, Nat.add_assoc,
      Nat.add_comm t.headSize]
    rfl

/-- What is left of some data stays below any bound on its length. -/
theorem length_drop_lt {data : Bytes} {bound : Nat} (hlength : data.length < bound) (n : Nat) :
    (data.drop n).length < bound := by
  rw [List.length_drop]
  omega

mutual

/-- A value that lies in the data as a part of a tuple is read back, and reading goes on right
behind what stands in place for it. -/
theorem Ty.read_part : (t : Ty) → t.isRegular = true → {data : Bytes} → data.length < 2 ^ 64 →
    (v : t.Value) → (position offset : Nat) → Placed data position offset [t.part v] →
    t.read data position = .ok ⟨v, true, position + t.headSize⟩
  | .word t, ht, data, _, v, position, offset, h => by
    have hhead : HoldsAt data position (t.toWord v).bytes := h.heads.left
    rw [Ty.read, wordAt_eq_ok hhead]
    simp only [bind, Except.bind, t.ofWord_toWord ht, t.isClean_toWord ht]
    rfl
  | .bytes, _, data, hlength, v, position, offset, h => by
    have hbody : HoldsAt (data.drop offset) 0 (lengthWord v.length ++ fill v) := h.holdsAt
    -- the filling is behind the bytes, and nobody looks at it
    have hcontent : HoldsAt (data.drop offset) 32 v := hbody.behind_length.left
    have hroom := hcontent.length_le
    have hlt := length_drop_lt (length_drop_lt hlength offset) 32
    rw [Ty.read, follow_eq_ok hlength h]
    simp only [bind, Except.bind, lengthAt_eq_ok (Nat.lt_of_le_of_lt hroom hlt) hbody.left,
      if_pos hroom, hcontent.take_eq]
    rfl
  | .array item, ht, data, hlength, vs, position, offset, h => by
    rw [Ty.isRegular, Bool.and_eq_true, decide_eq_true_eq] at ht
    obtain ⟨hitem, hsize⟩ := ht
    have hbody : HoldsAt (data.drop offset) 0
        (lengthWord vs.length ++ layout (vs.map item.part)) := h.holdsAt
    have hitems := hbody.behind_length
    have hlt := length_drop_lt (length_drop_lt hlength offset) 32
    -- each item takes a word in place or more, so as many words as items are there
    have hcount : vs.length ≤ ((data.drop offset).drop 32).length / 32 := by
      have hroom := hitems.length_le
      rw [length_layout, item.headLength_map_part] at hroom
      have := Nat.mul_le_mul_left vs.length hsize
      omega
    have hread := readMany_parts (item.read_part hitem hlt) vs 0 _ hitems.placed
    rw [Ty.read, follow_eq_ok hlength h]
    simp only [bind, Except.bind, lengthAt_eq_ok (by omega) hbody.left, if_pos hcount, hread]
    rfl
  | .tuple name fields, ht, data, hlength, v, position, offset, h => by
    by_cases hdynamic : fields.isDynamic = true
    · have hpart : (Ty.tuple name fields).part v = ⟨true, layout (fields.parts v)⟩ := by
        rw [Ty.part, Ty.encode_tuple, Ty.isDynamic, hdynamic]
      rw [hpart] at h
      have hread := fields.read_parts ht (length_drop_lt hlength offset) v 0 _ h.holdsAt.placed
      rw [Ty.read, if_pos hdynamic, follow_eq_ok hlength h]
      simp only [bind, Except.bind, hread, Ty.headSize, if_pos hdynamic]
      rfl
    · have hfields : fields.isDynamic = false := Bool.not_eq_true _ ▸ hdynamic
      have hpart : (Ty.tuple name fields).part v = ⟨false, layout (fields.parts v)⟩ := by
        rw [Ty.part, Ty.encode_tuple, Ty.isDynamic, hfields]
      have hstatic := fields.parts_of_static v hfields
      rw [hpart] at h
      rw [Ty.read, if_neg hdynamic, Ty.headSize, if_neg hdynamic]
      exact fields.read_parts ht hlength v position offset (h.of_static hstatic)

theorem Fields.read_parts : (fields : Fields) → fields.isRegular = true → {data : Bytes} →
    data.length < 2 ^ 64 → (v : fields.Value) → (position offset : Nat) →
    Placed data position offset (fields.parts v) →
    fields.read data position = .ok ⟨v, true, position + fields.headSize⟩
  | .nil, _, _, _, _, _, _, _ => rfl
  | .cons _ _ type rest, ht, data, hlength, (v, vs), position, offset, h => by
    rw [Fields.isRegular, Bool.and_eq_true] at ht
    rw [Fields.parts_cons] at h
    have hrest := h.tail
    rw [type.headLength_part v] at hrest
    have hread := type.read_part ht.1 hlength v position offset h.head
    have hreads := rest.read_parts ht.2 hlength vs _ _ hrest
    rw [Fields.read, hread]
    simp only [bind, Except.bind, hreads, Fields.headSize, Nat.add_assoc]
    rfl

end

/-- Decoding an encoded list of arguments gives the arguments, and finds no word that holds more
than it should. -/
theorem Fields.decode_encode {fields : Fields} (hregular : fields.isRegular = true)
    (v : fields.Value) (hlength : (fields.encode v).length < 2 ^ 64) (validate : Bool) :
    fields.decode validate (fields.encode v) = .ok v := by
  have hwhole : HoldsAt (fields.encode v) 0 (layout (fields.parts v)) := List.prefix_refl _
  have hread := fields.read_parts hregular (length_drop_lt hlength 0) v 0 _ hwhole.placed
  rw [List.drop_zero] at hread
  rw [Fields.decode, hread]
  cases validate <;> rfl

end SmartAccount.Abi
