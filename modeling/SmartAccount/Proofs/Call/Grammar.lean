import SmartAccount.Proofs.Call
import SmartAccount.Proofs.Hex
/-!
# The grammar of a call's text

`Reads` says what comes of a text without saying how it is read: too many parts are reported
whatever they hold, then the first part that is not what it should be, and a text without a fault
stands for the call whose fields its parts write. `parse_eq_iff` is the theorem: the parser comes
to exactly that, for every text.

A part that is missing is read as an empty one, so the parser has one case for all texts with few
enough parts (`parse_of_parts`). What is left is one part at a time: each of the three readers
accepts what the grammar of its part says (`Address.parse?_eq_some_iff`, `valueOf?_eq_some_iff`,
`dataOf?_eq_some_iff`) and refuses the rest (`Address.parse?_eq_none_iff`, `valueOf?_eq_none_iff`,
`dataOf?_eq_none_iff`).
-/

namespace SmartAccount

theorem Address.parse?_eq_none_iff {text : String} :
    parse? text = none ↔ ¬ Hex.HasDigits text 40 := by
  rw [← exists_writes_iff, not_exists, Option.eq_none_iff_forall_ne_some]
  exact forall_congr' fun a => not_congr parse?_eq_some_iff

namespace Call

/-! ## Parts -/

/-- The parts of a text between its colons. -/
def parts (text : String) : List String := (text.toList.splitOn ':').map String.ofList

theorem segments_eq_splitOn (cs : List Char) : segments cs = cs.splitOn ':' := by
  induction cs with
  | nil => rfl
  | cons c cs ih =>
    obtain ⟨part, more, hparts⟩ := List.exists_cons_of_ne_nil (segments_ne_nil cs)
    rw [List.splitOn_cons_eq_if_modifyHead, ← ih, segments, hparts]
    by_cases hc : c = ':'
    · rw [if_pos (beq_iff_eq.mpr hc)]
      exact if_pos hc
    · rw [if_neg (by rwa [beq_iff_eq])]
      exact if_neg hc

theorem parts_of_not_mem {part : String} (h : ':' ∉ part.toList) : parts part = [part] := by
  rw [parts, List.splitOn_eq_singleton h, List.map_singleton, String.ofList_toList]

/-- A part without a colon is the first one of a text that goes on with a colon. -/
theorem parts_append {part : String} (h : ':' ∉ part.toList) (rest : String) :
    parts (part ++ ":" ++ rest) = part :: parts rest := by
  have htext : (part ++ ":" ++ rest).toList = part.toList ++ ':' :: rest.toList := by
    rw [String.toList_append, String.toList_append, List.append_assoc]
    rfl
  rw [parts, htext, List.splitOn_append_cons_self, List.splitOn_eq_singleton h, List.map_append,
    List.map_singleton, String.ofList_toList]
  rfl

/-- Parts that are missing are read as empty ones. -/
theorem parse_of_parts {text target : String} {rest : List String}
    (hparts : parts text = target :: rest) (hfew : rest.length ≤ 2) :
    parse text = ofParts target (rest[0]?.getD "") (rest[1]?.getD "") := by
  unfold parse
  rw [segments_eq_splitOn, show (text.toList.splitOn ':').map String.ofList = _ from hparts]
  match rest, hfew with
  | [], _ => rfl
  | [_], _ => rfl
  | [_, _], _ => rfl

theorem parse_of_many {text : String} (hmany : 3 < (parts text).length) :
    parse text = .error (.format text) := by
  unfold parse
  rw [segments_eq_splitOn]
  change 3 < ((text.toList.splitOn ':').map String.ofList).length at hmany
  match (text.toList.splitOn ':').map String.ofList, hmany with
  | _ :: _ :: _ :: _ :: _, _ => rfl

/-! ## The value and the data -/

/-- What a part says that may be left out: one that is missing or empty says `nothing`. -/
inductive Says {α : Type} (nothing : α) (writes : String → α → Prop) : Option String → α → Prop
  | missing : Says nothing writes none nothing
  | empty : Says nothing writes (some "") nothing
  | written {part : String} {a : α} (h : writes part a) : Says nothing writes (some part) a

/-- The part writes the value, if need be zero. -/
def WritesValue : Option String → Word → Prop :=
  Says 0 fun part value => Numeral.IsLiteral part.toList value.toNat

/-- The part writes the data, if need be no bytes. -/
def WritesData : Option String → Bytes → Prop := Says [] Hex.Writes

/-- A reader that finds nothing in an empty text reads what the part says. -/
theorem read_eq_some_iff {α : Type} {nothing : α} {writes : String → α → Prop}
    {read : String → Option α} (hread : ∀ part a, read part = some a ↔ writes part a)
    (hempty : read "" = some nothing) {part : Option String} {a : α} :
    read (part.getD "") = some a ↔ Says nothing writes part a := by
  constructor
  · intro h
    match part with
    | none =>
      rw [Option.getD_none, hempty] at h
      cases h
      exact .missing
    | some part => exact .written ((hread part a).mp h)
  · intro h
    cases h with
    | missing => exact hempty
    | empty => exact hempty
    | written h => exact (hread _ a).mpr h

/-- No digits write zero, so the empty value is no case of its own. -/
theorem valueOf?_eq (part : String) : valueOf? part = Numeral.bounded? 256 part := by
  unfold valueOf?
  split
  · next hempty =>
    rw [String.isEmpty_iff.mp hempty]
    rfl
  · rfl

/-- No digits write no bytes, so the empty data are no case of their own. -/
theorem dataOf?_eq (part : String) : dataOf? part = Hex.parse? part := by
  unfold dataOf?
  split
  · next hempty =>
    rw [String.isEmpty_iff.mp hempty]
    rfl
  · rfl

theorem valueOf?_eq_some_iff {part : Option String} {value : Word} :
    valueOf? (part.getD "") = some value ↔ WritesValue part value := by
  have hread (part : String) (value : Word) :
      valueOf? part = some value ↔ Numeral.IsLiteral part.toList value.toNat := by
    rw [valueOf?_eq, Numeral.bounded?_eq_some_iff]
  exact read_eq_some_iff hread rfl

theorem dataOf?_eq_some_iff {part : Option String} {data : Bytes} :
    dataOf? (part.getD "") = some data ↔ WritesData part data := by
  have hread (part : String) (data : Bytes) :
      dataOf? part = some data ↔ Hex.Writes part data := by
    rw [dataOf?_eq, Hex.parse?_eq_some_iff]
  exact read_eq_some_iff hread rfl

theorem valueOf?_eq_none_iff {part : String} :
    valueOf? part = none ↔ ¬ ∃ n < 2 ^ 256, Numeral.IsLiteral part.toList n := by
  rw [valueOf?_eq, Option.eq_none_iff_forall_ne_some]
  refine ⟨fun h => ?_, fun h value hvalue => ?_⟩
  · rintro ⟨n, hn, hliteral⟩
    refine h (BitVec.ofNat 256 n) (Numeral.bounded?_eq_some_iff.mpr ?_)
    rwa [BitVec.toNat_ofNat, Nat.mod_eq_of_lt hn]
  · exact h ⟨value.toNat, value.isLt, Numeral.bounded?_eq_some_iff.mp hvalue⟩

theorem dataOf?_eq_none_iff {part : String} :
    dataOf? part = none ↔ ¬ ∃ size, Hex.HasDigits part (2 * size) := by
  rw [dataOf?_eq, Option.eq_none_iff_forall_ne_some]
  refine ⟨fun h => ?_, fun h data hdata => ?_⟩
  · rintro ⟨size, hdigits⟩
    obtain ⟨data, -, hwrites⟩ := Hex.exists_writes_iff.mpr hdigits
    exact h data (Hex.parse?_eq_some_iff.mpr hwrites)
  · exact h ⟨data.length, Hex.exists_writes_iff.mp ⟨data, rfl, Hex.parse?_eq_some_iff.mp hdata⟩⟩

/-! ## The whole text -/

/-- What comes of a text: the call that it writes, or its first fault. -/
inductive Reads (text : String) : Except ParseError Call → Prop
  | format (h : 3 < (parts text).length) : Reads text (.error (.format text))
  | target {target : String} {rest : List String} (hparts : parts text = target :: rest)
    (hfew : rest.length ≤ 2) (h : ¬ Hex.HasDigits target 40) :
    Reads text (.error (.target target))
  | value {target value : String} {rest : List String}
    (hparts : parts text = target :: value :: rest) (hfew : rest.length ≤ 1)
    (htarget : Hex.HasDigits target 40) (hsome : value ≠ "")
    (h : ¬ ∃ n < 2 ^ 256, Numeral.IsLiteral value.toList n) : Reads text (.error (.value value))
  | data {target value data : String} (hparts : parts text = [target, value, data])
    (htarget : Hex.HasDigits target 40)
    (hvalue : value = "" ∨ ∃ n < 2 ^ 256, Numeral.IsLiteral value.toList n) (hsome : data ≠ "")
    (h : ¬ ∃ size, Hex.HasDigits data (2 * size)) : Reads text (.error (.data data))
  | call {target : String} {rest : List String} {call : Call}
    (hparts : parts text = target :: rest) (hfew : rest.length ≤ 2)
    (htarget : Hex.Writes target call.target.bytes) (hvalue : WritesValue rest[0]? call.value)
    (hdata : WritesData rest[1]? call.data) : Reads text (.ok call)

/-- The parser finds the first fault, or the call. -/
theorem reads_parse (text : String) : Reads text (parse text) := by
  obtain ⟨target, rest, hparts⟩ : ∃ target rest, parts text = target :: rest := by
    rw [parts, ← segments_eq_splitOn]
    obtain ⟨part, more, hsegments⟩ := List.exists_cons_of_ne_nil (segments_ne_nil text.toList)
    exact ⟨_, _, congrArg _ hsegments⟩
  by_cases hfew : rest.length ≤ 2
  · rw [parse_of_parts hparts hfew]
    unfold ofParts
    cases htarget : Address.parse? target with
    | none => exact .target hparts hfew (Address.parse?_eq_none_iff.mp htarget)
    | some t =>
      have hwrites := Address.parse?_eq_some_iff.mp htarget
      have hdigits := Address.exists_writes_iff.mp ⟨t, hwrites⟩
      cases hvalue : valueOf? (rest[0]?.getD "") with
      | none =>
        -- a part that is refused is there
        match rest, hfew with
        | value :: more, hfew =>
          have hsome : value ≠ "" := by
            rintro rfl
            cases hvalue
          exact .value hparts (Nat.le_of_succ_le_succ hfew) hdigits hsome
            (valueOf?_eq_none_iff.mp hvalue)
      | some v =>
        cases hdata : dataOf? (rest[1]?.getD "") with
        | none =>
          match rest, hfew with
          | [value, data], _ =>
            have hsome : data ≠ "" := by
              rintro rfl
              cases hdata
            rw [show [value, data][0]?.getD "" = value from rfl, valueOf?_eq] at hvalue
            have hliteral := Numeral.bounded?_eq_some_iff.mp hvalue
            exact .data hparts hdigits (.inr ⟨v.toNat, v.isLt, hliteral⟩) hsome
              (dataOf?_eq_none_iff.mp hdata)
        | some d =>
          exact .call hparts hfew hwrites (valueOf?_eq_some_iff.mp hvalue)
            (dataOf?_eq_some_iff.mp hdata)
  · have hmany : 3 < (parts text).length := by
      rw [hparts, List.length_cons]
      omega
    rw [parse_of_many hmany]
    exact .format hmany

/-- Nothing else comes of a text than what the parser finds. -/
theorem Reads.parse_eq {text : String} {outcome : Except ParseError Call}
    (h : Reads text outcome) : parse text = outcome := by
  cases h with
  | format hmany => exact parse_of_many hmany
  | target hparts hfew h =>
    rw [parse_of_parts hparts hfew, ofParts, Address.parse?_eq_none_iff.mpr h]
  | @value target value rest hparts hfew htarget hsome h =>
    obtain ⟨t, hwrites⟩ := Address.exists_writes_iff.mpr htarget
    have hvalue : valueOf? ((value :: rest)[0]?.getD "") = none := valueOf?_eq_none_iff.mpr h
    rw [parse_of_parts hparts (Nat.succ_le_succ hfew), ofParts,
      Address.parse?_eq_some_iff.mpr hwrites, hvalue]
    rfl
  | @data target value data hparts htarget hvalued hsome h =>
    obtain ⟨t, hwrites⟩ := Address.exists_writes_iff.mpr htarget
    have hdata : dataOf? ([value, data][1]?.getD "") = none := dataOf?_eq_none_iff.mpr h
    obtain ⟨v, hvalue⟩ : ∃ v, valueOf? ([value, data][0]?.getD "") = some v := by
      refine Option.ne_none_iff_exists'.mp fun hnone => ?_
      rcases hvalued with rfl | hliteral
      · cases hnone
      · exact valueOf?_eq_none_iff.mp hnone hliteral
    rw [parse_of_parts hparts (Nat.le_refl 2), ofParts, Address.parse?_eq_some_iff.mpr hwrites,
      hvalue, hdata]
    rfl
  | call hparts hfew htarget hvalue hdata =>
    rw [parse_of_parts hparts hfew, ofParts, Address.parse?_eq_some_iff.mpr htarget,
      valueOf?_eq_some_iff.mpr hvalue, dataOf?_eq_some_iff.mpr hdata]

/-- A value and data that say nothing are the same as none. -/
theorem ofParts_of_nothing {value data : String} (hvalue : valueOf? value = some 0)
    (hdata : dataOf? data = some []) (target : String) :
    ofParts target value data = ofParts target "" "" := by
  have hnoValue : valueOf? "" = some 0 := rfl
  have hnoData : dataOf? "" = some [] := rfl
  rw [ofParts, hvalue, hdata, ofParts, hnoValue, hnoData]

/-- **What the parser accepts, and what it reports.** For every text the parser comes to what the
grammar says. And a call without wei and data has four texts: behind the target there may be
nothing, one colon or two, or both parts written out. -/
theorem parse_eq_iff :
    (∀ (text : String) (outcome : Except ParseError Call),
        parse text = outcome ↔ Reads text outcome)
      ∧ ∀ target : String, ':' ∉ target.toList →
        parse (target ++ ":") = parse target ∧ parse (target ++ "::") = parse target
          ∧ parse (target ++ ":0:0x") = parse target := by
  refine ⟨?_, ?_⟩
  · intro text outcome
    constructor
    · rintro rfl
      exact reads_parse text
    · exact Reads.parse_eq
  · intro target htarget
    have hcolon : parts (target ++ ":") = [target, ""] := by
      have hparts := parts_append htarget ""
      rwa [String.append_empty] at hparts
    have hcolons : parts (target ++ "::") = [target, "", ""] := by
      have hparts := parts_append htarget ":"
      rwa [String.append_assoc] at hparts
    have hboth : parts (target ++ ":0:0x") = [target, "0", "0x"] := by
      have hparts := parts_append htarget "0:0x"
      rwa [String.append_assoc] at hparts
    rw [parse_of_parts (parts_of_not_mem htarget) (by decide),
      parse_of_parts hcolon (by decide), parse_of_parts hcolons (by decide),
      parse_of_parts hboth (by decide)]
    exact ⟨rfl, rfl, ofParts_of_nothing rfl rfl target⟩

/-- A target in digits of both cases. -/
def mixedTarget : String := "0x5FF137D4b0FDCD49DcA30c7CF57E578a026d2789"

/-- A hexadecimal value with an underscore in it and data behind another mark are read; of two
faults the first is reported, and the fourth part before both. -/
theorem parse_eq_iff_mixedTarget :
    ':' ∉ mixedTarget.toList ∧ parse (mixedTarget ++ ":0:0x") = parse mixedTarget
      ∧ Reads (mixedTarget ++ ":0x1_0:0XfF")
        (.ok ⟨0x5FF137D4b0FDCD49DcA30c7CF57E578a026d2789, 16, [255]⟩)
      ∧ Reads (mixedTarget ++ ":0b2:0x1") (.error (.value "0b2"))
      ∧ Reads (mixedTarget ++ ":0b2:0x1:") (.error (.format (mixedTarget ++ ":0b2:0x1:"))) := by
  have htarget : ':' ∉ mixedTarget.toList := by decide +kernel
  refine ⟨htarget, (parse_eq_iff.2 mixedTarget htarget).2.2, ?_, ?_, ?_⟩
  · exact (parse_eq_iff.1 _ _).mp rfl
  · exact (parse_eq_iff.1 _ _).mp rfl
  · exact (parse_eq_iff.1 _ _).mp rfl

end Call

end SmartAccount
