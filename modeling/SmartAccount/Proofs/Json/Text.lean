import SmartAccount.Proofs.Json.Token
/-!
# Written values read back

A text spells a value if it is made of the parts of the value in their order, with blanks between
the parts wherever there may be some (`Spells`). The reader finds the value in each of its spellings
(`parse?_of_spells`): the induction follows the spelling, and each of its cases is one step of the
reader. Both printers spell the value that they print (`spells_write`, `spells_writeLines`), as
long as it has a text at all: half of a surrogate pair has none, and a number is one only if its
literal is read as a number. So what is printed reads back (`parse?_compact`, `parse?_pretty`).

The reader counts its steps. Two steps for each character are enough: each level of nesting takes
two steps and has two brackets, and each further item takes one step and has a comma.
-/

namespace SmartAccount.Json

/-! ## Blanks -/

/-- A text of blanks. -/
def AllBlank (text : List Char) : Prop := ∀ c ∈ text, isBlank c = true

theorem allBlank_nil : AllBlank [] := nofun

theorem allBlank_newline (level : Nat) : AllBlank (newline level) := by
  intro c hc
  rcases List.mem_cons.mp hc with rfl | hc
  · rfl
  · rw [List.eq_of_mem_replicate hc]
    rfl

theorem isBlank_of_isDigit {c : Char} (h : isDigit c = true) : isBlank c = false := by
  rw [← Bool.not_eq_true]
  intro hblank
  have hcases : c = ' ' ∨ c = '\n' ∨ c = '\t' ∨ c = '\r' := by
    simpa only [isBlank, Bool.or_eq_true, decide_eq_true_eq, or_assoc] using hblank
  rcases hcases with rfl | rfl | rfl | rfl
  all_goals
    revert h
    decide

theorem skipBlanks_append {blanks : List Char} (h : AllBlank blanks) (rest : List Char) :
    skipBlanks (blanks ++ rest) = skipBlanks rest :=
  List.dropWhile_append_of_pos h

theorem skipBlanks_cons {c : Char} (h : isBlank c = false) (rest : List Char) :
    skipBlanks (c :: rest) = c :: rest := by
  rw [skipBlanks, List.dropWhile_cons_of_neg (by rw [h]; exact Bool.false_ne_true)]

theorem skipBlanks_append_cons {blanks : List Char} (h : AllBlank blanks) {c : Char}
    (hc : isBlank c = false) (rest : List Char) :
    skipBlanks (blanks ++ c :: rest) = c :: rest := by
  rw [skipBlanks_append h, skipBlanks_cons hc]

theorem skipBlanks_skipBlanks (text : List Char) :
    skipBlanks (skipBlanks text) = skipBlanks text := by
  induction text with
  | nil => rfl
  | cons c text ih =>
    by_cases hc : isBlank c = true
    · have hskip : skipBlanks (c :: text) = skipBlanks text := List.dropWhile_cons_of_pos hc
      rw [hskip, ih]
    · rw [skipBlanks_cons (Bool.not_eq_true _ ▸ hc), skipBlanks_cons (Bool.not_eq_true _ ▸ hc)]

theorem endsNumber_cons {c : Char} (h : isBlank c = true ∨ c = ',' ∨ c = ']' ∨ c = '\x7d')
    (rest : List Char) : EndsNumber (c :: rest) := by
  have hblank : c = ' ' ∨ c = '\n' ∨ c = '\t' ∨ c = '\r' ∨ c = ',' ∨ c = ']' ∨ c = '\x7d' := by
    simpa only [isBlank, Bool.or_eq_true, decide_eq_true_eq, or_assoc] using h
  intro d hd
  cases hd
  rcases hblank with rfl | rfl | rfl | rfl | rfl | rfl | rfl
  all_goals exact ⟨rfl, by decide, by decide, by decide⟩

/-- No number goes on behind blanks. -/
theorem endsNumber_append {blanks rest : List Char} (h : AllBlank blanks)
    (hrest : EndsNumber rest) : EndsNumber (blanks ++ rest) := by
  cases blanks with
  | nil => exact hrest
  | cons b blanks => exact endsNumber_cons (.inl (h b List.mem_cons_self)) _

/-! ## One step of reading -/

/-- A string in front of a text, with its opening quote apart. -/
theorem quote_append (s : String) (tail : List Char) :
    quote s ++ tail = '"' :: (s.toList.flatMap escape ++ '"' :: tail) := by
  simp only [quote, List.cons_append, List.append_assoc, List.nil_append]

-- what follows opens the reader over and over, so its equations are set up first
attribute [simp] readValue readItems readMembers

section Steps

variable {fuel : Nat} {text rest after tail : List Char}

theorem readValue_null (h : skipBlanks text = "null".toList ++ tail) :
    readValue (fuel + 1) text = some (.null, tail) := by
  rw [readValue, h]
  rfl

theorem readValue_bool {b : Bool}
    (h : skipBlanks text = (if b then "true" else "false").toList ++ tail) :
    readValue (fuel + 1) text = some (.bool b, tail) := by
  rw [readValue, h]
  cases b <;> rfl

theorem readValue_string {s : String} (h : skipBlanks text = quote s ++ tail) :
    readValue (fuel + 1) text = some (.string s, tail) := by
  rw [readValue, h, quote_append]
  simp only [readString_quote, Option.map_some]
  rfl

theorem readValue_number {literal : String} (h : skipBlanks text = rest)
    (hnumber : readNumber rest = some (literal, tail)) :
    readValue (fuel + 1) text = some (.number literal, tail) := by
  -- a number is what is left when no other value starts here
  obtain ⟨c, more, rfl, hc⟩ := readNumber_head hnumber
  have hfirst : c ≠ '"' ∧ c ≠ '[' ∧ c ≠ '\x7b' ∧ c ≠ 'n' ∧ c ≠ 't' ∧ c ≠ 'f' := by
    refine ⟨?_, ?_, ?_, ?_, ?_, ?_⟩
    all_goals
      rintro rfl
      revert hc
      decide
  rw [readValue, h]
  split
  next heq => exact absurd (List.cons.inj heq).1 hfirst.1
  next heq => exact absurd (List.cons.inj heq).1 hfirst.2.1
  next heq => exact absurd (List.cons.inj heq).1 hfirst.2.2.1
  next heq => exact absurd (List.cons.inj heq).1 hfirst.2.2.2.1
  next heq => exact absurd (List.cons.inj heq).1 hfirst.2.2.2.2.1
  next heq => exact absurd (List.cons.inj heq).1 hfirst.2.2.2.2.2
  next => rw [hnumber, Option.map_some]

theorem readValue_emptyArray (h : skipBlanks text = '[' :: rest)
    (hclose : skipBlanks rest = ']' :: tail) :
    readValue (fuel + 1) text = some (.array [], tail) := by
  rw [readValue, h]
  simp only [hclose]

theorem readValue_array {items : List Json} (h : skipBlanks text = '[' :: rest)
    (hopen : ∀ more, skipBlanks rest ≠ ']' :: more)
    (hitems : readItems fuel (skipBlanks rest) = some (items, tail)) :
    readValue (fuel + 1) text = some (.array items, tail) := by
  rw [readValue, h]
  simp only [hitems, Option.map_some]

theorem readValue_emptyObject (h : skipBlanks text = '\x7b' :: rest)
    (hclose : skipBlanks rest = '\x7d' :: tail) :
    readValue (fuel + 1) text = some (.object [], tail) := by
  rw [readValue, h]
  simp only [hclose]

theorem readValue_object {members : List (Option String × Json)}
    (h : skipBlanks text = '\x7b' :: rest) (hopen : ∀ more, skipBlanks rest ≠ '\x7d' :: more)
    (hmembers : readMembers fuel (skipBlanks rest) = some (members, tail)) :
    readValue (fuel + 1) text = some (.object members, tail) := by
  rw [readValue, h]
  simp only [hmembers, Option.map_some]

theorem readItems_last {item : Json} (hitem : readValue fuel text = some (item, after))
    (hclose : skipBlanks after = ']' :: tail) :
    readItems (fuel + 1) text = some ([item], tail) := by
  rw [readItems, hitem]
  simp only [bind, Option.bind, hclose]

theorem readItems_more {item : Json} {items : List Json}
    (hitem : readValue fuel text = some (item, after)) (hcomma : skipBlanks after = ',' :: rest)
    (hitems : readItems fuel rest = some (items, tail)) :
    readItems (fuel + 1) text = some (item :: items, tail) := by
  rw [readItems, hitem]
  simp only [bind, Option.bind, hcomma, hitems, Option.map_some]

theorem readMembers_last {key : String} {value : Json} {colon : List Char}
    (hkey : skipBlanks text = quote key ++ colon) (hcolon : skipBlanks colon = ':' :: rest)
    (hvalue : readValue fuel rest = some (value, after))
    (hclose : skipBlanks after = '\x7d' :: tail) :
    readMembers (fuel + 1) text = some ([(some key, value)], tail) := by
  rw [readMembers, hkey, quote_append]
  simp only [readString_quote, bind, Option.bind, hcolon, hvalue, hclose]

theorem readMembers_more {key : String} {value : Json} {members : List (Option String × Json)}
    {colon more : List Char} (hkey : skipBlanks text = quote key ++ colon)
    (hcolon : skipBlanks colon = ':' :: rest)
    (hvalue : readValue fuel rest = some (value, after))
    (hcomma : skipBlanks after = ',' :: more)
    (hmembers : readMembers fuel more = some (members, tail)) :
    readMembers (fuel + 1) text = some ((some key, value) :: members, tail) := by
  rw [readMembers, hkey, quote_append]
  simp only [readString_quote, bind, Option.bind, hcolon, hvalue, hcomma, hmembers,
    Option.map_some]

end Steps

/-- Blanks in front of a value do not matter. -/
theorem readValue_skipBlanks (fuel : Nat) (text : List Char) :
    readValue fuel (skipBlanks text) = readValue fuel text := by
  cases fuel with
  | zero => rfl
  | succ fuel => rw [readValue, readValue, skipBlanks_skipBlanks]

theorem readItems_skipBlanks (fuel : Nat) (text : List Char) :
    readItems fuel (skipBlanks text) = readItems fuel text := by
  cases fuel with
  | zero => rfl
  | succ fuel => rw [readItems, readItems, readValue_skipBlanks]

theorem readMembers_skipBlanks (fuel : Nat) (text : List Char) :
    readMembers fuel (skipBlanks text) = readMembers fuel text := by
  cases fuel with
  | zero => rfl
  | succ fuel => rw [readMembers, readMembers, skipBlanks_skipBlanks]

/-! ## Spellings -/

mutual

/-- The texts of a value. Blanks may stand inside of it wherever two of its parts meet. -/
inductive Spells : Json → List Char → Prop
  | null : Spells .null "null".toList
  | bool (b : Bool) : Spells (.bool b) (if b then "true" else "false").toList
  | number {literal : String} (h : IsNumber literal) : Spells (.number literal) literal.toList
  | string (s : String) : Spells (.string s) (quote s)
  | emptyArray {blanks : List Char} (h : AllBlank blanks) :
    Spells (.array []) ('[' :: (blanks ++ [']']))
  | array {items : List Json} {text : List Char} (h : SpellsItems items text) :
    Spells (.array items) ('[' :: (text ++ [']']))
  | emptyObject {blanks : List Char} (h : AllBlank blanks) :
    Spells (.object []) ('\x7b' :: (blanks ++ ['\x7d']))
  | object {members : List (Option String × Json)} {text : List Char}
    (h : SpellsMembers members text) : Spells (.object members) ('\x7b' :: (text ++ ['\x7d']))

/-- The texts of the items of an array, of which there is one or more. -/
inductive SpellsItems : List Json → List Char → Prop
  | last {item : Json} {before text after : List Char} (hbefore : AllBlank before)
    (h : Spells item text) (hafter : AllBlank after) :
    SpellsItems [item] (before ++ (text ++ after))
  | more {item : Json} {items : List Json} {before text after rest : List Char}
    (hbefore : AllBlank before) (h : Spells item text) (hafter : AllBlank after)
    (hrest : SpellsItems items rest) :
    SpellsItems (item :: items) (before ++ (text ++ (after ++ ',' :: rest)))

/-- The texts of the members of an object, of which there is one or more. -/
inductive SpellsMembers : List (Option String × Json) → List Char → Prop
  | last {key : String} {value : Json} {before colon between text after : List Char}
    (hbefore : AllBlank before) (hcolon : AllBlank colon) (hbetween : AllBlank between)
    (h : Spells value text) (hafter : AllBlank after) :
    SpellsMembers [(some key, value)]
      (before ++ (quote key ++ (colon ++ ':' :: (between ++ (text ++ after)))))
  | more {key : String} {value : Json} {members : List (Option String × Json)}
    {before colon between text after rest : List Char} (hbefore : AllBlank before)
    (hcolon : AllBlank colon) (hbetween : AllBlank between) (h : Spells value text)
    (hafter : AllBlank after) (hrest : SpellsMembers members rest) :
    SpellsMembers ((some key, value) :: members)
      (before ++ (quote key ++ (colon ++ ':' :: (between ++ (text ++ (after ++ ',' :: rest))))))

end

/-- A value starts with a character that is no blank and closes nothing. -/
theorem Spells.head {j : Json} {text : List Char} (h : Spells j text) :
    ∃ c rest, text = c :: rest ∧ isBlank c = false ∧ c ≠ ']' := by
  cases h with
  | null => exact ⟨'n', _, rfl, rfl, by decide⟩
  | bool b =>
    cases b with
    | false => exact ⟨'f', _, rfl, rfl, by decide⟩
    | true => exact ⟨'t', _, rfl, rfl, by decide⟩
  | number hnumber =>
    obtain ⟨c, rest, htext, hc⟩ := readNumber_head hnumber
    refine ⟨c, rest, htext, ?_, ?_⟩
    · rcases hc with hdigit | rfl
      · exact isBlank_of_isDigit hdigit
      · rfl
    · rintro rfl
      revert hc
      decide
  | string s => exact ⟨'"', _, rfl, rfl, by decide⟩
  | emptyArray => exact ⟨'[', _, rfl, rfl, by decide⟩
  | array => exact ⟨'[', _, rfl, rfl, by decide⟩
  | emptyObject => exact ⟨'\x7b', _, rfl, rfl, by decide⟩
  | object => exact ⟨'\x7b', _, rfl, rfl, by decide⟩

/-- The first item starts with a character that does not close the array. -/
theorem SpellsItems.skipBlanks_ne {items : List Json} {text : List Char}
    (h : SpellsItems items text) (tail more : List Char) :
    skipBlanks (text ++ tail) ≠ ']' :: more := by
  have hfirst {item : Json} {before inner : List Char} (hbefore : AllBlank before)
      (hinner : Spells item inner) (after : List Char) :
      skipBlanks (before ++ (inner ++ after)) ≠ ']' :: more := by
    obtain ⟨c, rest, rfl, hblank, hc⟩ := hinner.head
    rw [List.cons_append, skipBlanks_append_cons hbefore hblank]
    intro heq
    exact hc (List.cons.inj heq).1
  cases h with
  | last hbefore hinner =>
    rw [List.append_assoc, List.append_assoc]
    exact hfirst hbefore hinner _
  | more hbefore hinner =>
    rw [List.append_assoc, List.append_assoc]
    exact hfirst hbefore hinner _

/-- The first member starts with the quote of its key. -/
theorem SpellsMembers.skipBlanks_ne {members : List (Option String × Json)} {text : List Char}
    (h : SpellsMembers members text) (tail more : List Char) :
    skipBlanks (text ++ tail) ≠ '\x7d' :: more := by
  have hfirst {before : List Char} (hbefore : AllBlank before) (key : String)
      (after : List Char) : skipBlanks (before ++ (quote key ++ after)) ≠ '\x7d' :: more := by
    rw [quote_append, skipBlanks_append_cons hbefore rfl]
    intro heq
    exact absurd (List.cons.inj heq).1 (by decide)
  cases h with
  | last hbefore =>
    rw [List.append_assoc, List.append_assoc]
    exact hfirst hbefore _ _
  | more hbefore =>
    rw [List.append_assoc, List.append_assoc]
    exact hfirst hbefore _ _

theorem Spells.length_pos {j : Json} {text : List Char} (h : Spells j text) :
    1 ≤ text.length := by
  obtain ⟨c, rest, rfl, -⟩ := h.head
  rw [List.length_cons]
  omega

/-! ## Reading a spelling -/

-- The recursion follows the spelling, with two steps for each character of it. A value with
-- brackets takes one step for itself and one for its list of items; the brackets pay for both.
mutual

/-- Each spelling of a value is read as the value. -/
theorem Spells.readValue_eq : {j : Json} → {text : List Char} → Spells j text →
    (before tail : List Char) → AllBlank before → EndsNumber tail →
    (fuel : Nat) → 2 * text.length ≤ fuel + 1 →
      readValue (fuel + 1) (before ++ (text ++ tail)) = some (j, tail)
  | _, _, .null, before, tail, hbefore, _, fuel, _ => by
    refine readValue_null ?_
    rw [skipBlanks_append hbefore]
    rfl
  | _, _, .bool b, before, tail, hbefore, _, fuel, _ => by
    refine readValue_bool ?_
    rw [skipBlanks_append hbefore]
    cases b <;> rfl
  | _, _, .number hnumber, before, tail, hbefore, htail, fuel, _ => by
    -- the only value without a closing mark, so here it matters what follows
    obtain ⟨c, rest, htext, hblank, -⟩ := (Spells.number hnumber).head
    refine readValue_number ?_ (readNumber_append htail hnumber)
    rw [skipBlanks_append hbefore, htext, List.cons_append, skipBlanks_cons hblank]
  | _, _, .string s, before, tail, hbefore, _, fuel, _ => by
    refine readValue_string ?_
    rw [quote_append, skipBlanks_append_cons hbefore rfl]
  | _, _, .emptyArray hblanks, before, tail, hbefore, _, fuel, _ => by
    simp only [List.cons_append, List.append_assoc, List.nil_append]
    exact readValue_emptyArray (skipBlanks_append_cons hbefore rfl _)
      (skipBlanks_append_cons hblanks rfl tail)
  | _, _, .array hitems, before, tail, hbefore, _, fuel, hfuel => by
    rw [List.length_cons, List.length_append, List.length_singleton] at hfuel
    obtain ⟨fuel, rfl⟩ : ∃ n, fuel = n + 1 := ⟨fuel - 1, by omega⟩
    simp only [List.cons_append, List.append_assoc, List.nil_append]
    refine readValue_array (skipBlanks_append_cons hbefore rfl _) (hitems.skipBlanks_ne _) ?_
    rw [readItems_skipBlanks]
    exact hitems.readItems_eq tail fuel (by omega)
  | _, _, .emptyObject hblanks, before, tail, hbefore, _, fuel, _ => by
    simp only [List.cons_append, List.append_assoc, List.nil_append]
    exact readValue_emptyObject (skipBlanks_append_cons hbefore rfl _)
      (skipBlanks_append_cons hblanks rfl tail)
  | _, _, .object hmembers, before, tail, hbefore, _, fuel, hfuel => by
    rw [List.length_cons, List.length_append, List.length_singleton] at hfuel
    obtain ⟨fuel, rfl⟩ : ∃ n, fuel = n + 1 := ⟨fuel - 1, by omega⟩
    simp only [List.cons_append, List.append_assoc, List.nil_append]
    refine readValue_object (skipBlanks_append_cons hbefore rfl _) (hmembers.skipBlanks_ne _) ?_
    rw [readMembers_skipBlanks]
    exact hmembers.readMembers_eq tail fuel (by omega)

theorem SpellsItems.readItems_eq : {items : List Json} → {text : List Char} →
    SpellsItems items text → (tail : List Char) → (fuel : Nat) → 2 * text.length ≤ fuel →
      readItems (fuel + 1) (text ++ ']' :: tail) = some (items, tail)
  | _, _, .last hbefore h hafter, tail, fuel, hfuel => by
    have hpos := h.length_pos
    simp only [List.length_append] at hfuel
    obtain ⟨fuel, rfl⟩ : ∃ n, fuel = n + 1 := ⟨fuel - 1, by omega⟩
    have hends := endsNumber_append hafter (endsNumber_cons (.inr (.inr (.inl rfl))) tail)
    rw [List.append_assoc, List.append_assoc]
    exact readItems_last (h.readValue_eq _ _ hbefore hends fuel (by omega))
      (skipBlanks_append_cons hafter rfl tail)
  | _, _, .more hbefore h hafter hrest, tail, fuel, hfuel => by
    have hpos := h.length_pos
    simp only [List.length_append, List.length_cons] at hfuel
    obtain ⟨fuel, rfl⟩ : ∃ n, fuel = n + 1 := ⟨fuel - 1, by omega⟩
    simp only [List.append_assoc, List.cons_append]
    -- the comma pays for the step to the next item
    exact readItems_more
      (h.readValue_eq _ _ hbefore
        (endsNumber_append hafter (endsNumber_cons (.inr (.inl rfl)) _)) fuel (by omega))
      (skipBlanks_append_cons hafter rfl _) (hrest.readItems_eq tail fuel (by omega))

theorem SpellsMembers.readMembers_eq : {members : List (Option String × Json)} →
    {text : List Char} → SpellsMembers members text → (tail : List Char) → (fuel : Nat) →
    2 * text.length ≤ fuel →
      readMembers (fuel + 1) (text ++ '\x7d' :: tail) = some (members, tail)
  | _, _, .last hbefore hcolon hbetween h hafter, tail, fuel, hfuel => by
    have hpos := h.length_pos
    simp only [List.length_append, List.length_cons] at hfuel
    obtain ⟨fuel, rfl⟩ : ∃ n, fuel = n + 1 := ⟨fuel - 1, by omega⟩
    have hends := endsNumber_append hafter (endsNumber_cons (.inr (.inr (.inr rfl))) tail)
    simp only [List.append_assoc, List.cons_append]
    refine readMembers_last ?_ (skipBlanks_append_cons hcolon rfl _)
      (h.readValue_eq _ _ hbetween hends fuel (by omega)) (skipBlanks_append_cons hafter rfl tail)
    rw [skipBlanks_append hbefore, quote_append, skipBlanks_cons rfl]
  | _, _, .more hbefore hcolon hbetween h hafter hrest, tail, fuel, hfuel => by
    have hpos := h.length_pos
    simp only [List.length_append, List.length_cons] at hfuel
    obtain ⟨fuel, rfl⟩ : ∃ n, fuel = n + 1 := ⟨fuel - 1, by omega⟩
    simp only [List.append_assoc, List.cons_append]
    refine readMembers_more ?_ (skipBlanks_append_cons hcolon rfl _)
      (h.readValue_eq _ _ hbetween
        (endsNumber_append hafter (endsNumber_cons (.inr (.inl rfl)) _)) fuel (by omega))
      (skipBlanks_append_cons hafter rfl _) (hrest.readMembers_eq tail fuel (by omega))
    rw [skipBlanks_append hbefore, quote_append, skipBlanks_cons rfl]

end

/-- A text that spells a value between blanks holds the value. -/
theorem parse?_of_spells {j : Json} {before text after : List Char} (hbefore : AllBlank before)
    (h : Spells j text) (hafter : AllBlank after) :
    parse? (String.ofList (before ++ (text ++ after))) = some j := by
  have hends : EndsNumber after := by
    have hnil : EndsNumber [] := nofun
    have := endsNumber_append hafter hnil
    rwa [List.append_nil] at this
  have hread := h.readValue_eq before after hbefore hends
    (2 * (before ++ (text ++ after)).length + 1) (by simp only [List.length_append]; omega)
  have hskip : skipBlanks after = [] := by
    have := skipBlanks_append hafter []
    rwa [List.append_nil] at this
  simp only [parse?, String.toList_ofList, hread, hskip, bind, Option.bind]
  rfl

/-! ## What the printers write -/

mutual

/-- Whether a value has a text: its strings and keys stand for strings, and the literals of its
numbers are numbers. -/
def isWritable : Json → Bool
  | .null => true
  | .bool _ => true
  | .number literal => decide (IsNumber literal)
  | .str s => s.isSome
  | .array items => areWritable items
  | .object members => areWritableMembers members

def areWritable : List Json → Bool
  | [] => true
  | item :: rest => isWritable item && areWritable rest

def areWritableMembers : List (Option String × Json) → Bool
  | [] => true
  | (key, value) :: rest => key.isSome && isWritable value && areWritableMembers rest

end

mutual

/-- The text without blanks spells the value. -/
theorem spells_write : (j : Json) → isWritable j = true → Spells j (write j)
  | .null, _ => .null
  | .bool b, _ => .bool b
  | .number _, h => .number (of_decide_eq_true h)
  | .str (some s), _ => .string s
  | .array [], _ => .emptyArray allBlank_nil
  | .array (item :: rest), h => .array (spellsItems_write (item :: rest) h (List.cons_ne_nil _ _))
  | .object [], _ => .emptyObject allBlank_nil
  | .object (member :: rest), h =>
    .object (spellsMembers_write (member :: rest) h (List.cons_ne_nil _ _))

theorem spellsItems_write : (items : List Json) → areWritable items = true → items ≠ [] →
    SpellsItems items (writeItems true items)
  | [], _, h => absurd rfl h
  | [item], hwritable, _ => by
    have hitem := (Bool.and_eq_true_iff.mp hwritable).1
    exact .last allBlank_nil (spells_write item hitem) allBlank_nil
  | item :: next :: rest, hwritable, _ => by
    have hboth := Bool.and_eq_true_iff.mp hwritable
    have hrest := spellsItems_write (next :: rest) hboth.2 (List.cons_ne_nil _ _)
    exact .more allBlank_nil (spells_write item hboth.1) allBlank_nil hrest

theorem spellsMembers_write : (members : List (Option String × Json)) →
    areWritableMembers members = true → members ≠ [] →
    SpellsMembers members (writeMembers true members)
  | [], _, h => absurd rfl h
  | [(some key, value)], hwritable, _ => by
    have hvalue := (Bool.and_eq_true_iff.mp hwritable).1
    have htext : writeMembers true [(some key, value)]
        = [] ++ (quote key ++ ([] ++ ':' :: ([] ++ (write value ++ [])))) := by
      simp [writeMembers]
    rw [htext]
    exact .last allBlank_nil allBlank_nil allBlank_nil (spells_write value hvalue) allBlank_nil
  | (some key, value) :: next :: rest, hwritable, _ => by
    have hboth := Bool.and_eq_true_iff.mp hwritable
    have hrest := spellsMembers_write (next :: rest) hboth.2 (List.cons_ne_nil _ _)
    have htext : writeMembers true ((some key, value) :: next :: rest)
        = [] ++ (quote key ++ ([] ++ ':' :: ([] ++ (write value
          ++ ([] ++ ',' :: writeMembers true (next :: rest)))))) := by
      simp [writeMembers]
    rw [htext]
    exact .more allBlank_nil allBlank_nil allBlank_nil (spells_write value hboth.1) allBlank_nil
      hrest

end

theorem allBlank_space : AllBlank [' '] := by
  intro c hc
  rw [List.mem_singleton.mp hc]
  rfl

mutual

/-- The text with a line for each item spells the value. -/
theorem spells_writeLines : (level : Nat) → (j : Json) → isWritable j = true →
    Spells j (writeLines level j)
  | _, .null, _ => .null
  | _, .bool b, _ => .bool b
  | _, .number _, h => .number (of_decide_eq_true h)
  | _, .str (some s), _ => .string s
  | _, .array [], _ => .emptyArray allBlank_nil
  | level, .array (item :: rest), h => by
    have hboth := Bool.and_eq_true_iff.mp h
    have hitems := spellsItems_writeLines level item rest
      (spells_writeLines (level + 1) item hboth.1) hboth.2
    simpa [writeLines] using Spells.array hitems
  | _, .object [], _ => .emptyObject allBlank_nil
  | level, .object ((some key, value) :: rest), h => by
    have hboth := Bool.and_eq_true_iff.mp h
    have hmembers := spellsMembers_writeLines level key value rest
      (spells_writeLines (level + 1) value hboth.1) hboth.2
    simpa [writeLines] using Spells.object hmembers

theorem spellsItems_writeLines : (level : Nat) → (item : Json) → (rest : List Json) →
    Spells item (writeLines (level + 1) item) → areWritable rest = true →
    SpellsItems (item :: rest) (newline (level + 1) ++ (writeLines (level + 1) item
      ++ (writeItemLines level rest ++ newline level)))
  | level, item, [], hitem, _ =>
    .last (allBlank_newline _) hitem (allBlank_newline _)
  | level, item, next :: rest, hitem, h => by
    have hboth := Bool.and_eq_true_iff.mp h
    have hrest := spellsItems_writeLines level next rest
      (spells_writeLines (level + 1) next hboth.1) hboth.2
    have hmore := SpellsItems.more (allBlank_newline (level + 1)) hitem allBlank_nil hrest
    simpa [writeItemLines] using hmore

theorem spellsMembers_writeLines : (level : Nat) → (key : String) → (value : Json) →
    (rest : List (Option String × Json)) → Spells value (writeLines (level + 1) value) →
    areWritableMembers rest = true →
    SpellsMembers ((some key, value) :: rest) (newline (level + 1) ++ (quote key ++ (':' :: ' '
      :: (writeLines (level + 1) value ++ (writeMemberLines level rest ++ newline level)))))
  | level, key, value, [], hvalue, _ =>
    .last (allBlank_newline _) allBlank_nil allBlank_space hvalue (allBlank_newline _)
  | level, key, value, (some next, other) :: rest, hvalue, h => by
    have hboth := Bool.and_eq_true_iff.mp h
    have hrest := spellsMembers_writeLines level next other rest
      (spells_writeLines (level + 1) other hboth.1) hboth.2
    have hmore : SpellsMembers ((some key, value) :: (some next, other) :: rest) _ :=
      .more (allBlank_newline (level + 1)) allBlank_nil allBlank_space hvalue allBlank_nil hrest
    simpa [writeMemberLines] using hmore

end

/-- What is written without blanks reads back. -/
theorem parse?_compact {j : Json} (h : j.isWritable = true) : parse? j.compact = some j := by
  have := parse?_of_spells allBlank_nil (spells_write j h) allBlank_nil
  rwa [List.nil_append, List.append_nil] at this

/-- What is written over several lines reads back. -/
theorem parse?_pretty {j : Json} (h : j.isWritable = true) : parse? j.pretty = some j := by
  have := parse?_of_spells allBlank_nil (spells_writeLines 0 j h) allBlank_nil
  rwa [List.nil_append, List.append_nil] at this

end SmartAccount.Json
