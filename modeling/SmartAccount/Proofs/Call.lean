import SmartAccount.Call
/-!
# The text of a call

A text is cut at its colons, of which the first part always exists. What is read as a call has an
address for its first part (`Call.parse_eq_ok`), so it starts with a hex digit and never with a
hyphen (`Call.parse_hyphen`).
-/

namespace SmartAccount

namespace Call

theorem segments_ne_nil (cs : List Char) : segments cs ≠ [] := by
  induction cs with
  | nil => exact List.cons_ne_nil _ _
  | cons c cs ih =>
    rw [segments]
    split
    · exact List.cons_ne_nil _ _
    · split <;> exact List.cons_ne_nil _ _

/-- A character that is no colon starts the first part. -/
theorem segments_cons {c : Char} (h : c ≠ ':') (cs : List Char) :
    ∃ part parts, segments (c :: cs) = (c :: part) :: parts := by
  rw [segments]
  split
  · exact ⟨_, _, rfl⟩
  · exact ⟨_, _, if_neg h⟩

theorem ofParts_eq_ok {target value data : String} {call : Call}
    (h : ofParts target value data = .ok call) : Address.parse? target = some call.target := by
  unfold ofParts at h
  split at h
  · cases h
  · next t ht =>
    split at h
    · cases h
    · split at h
      · cases h
      · cases h
        exact ht

/-- The first part of the text of a call is an address. -/
theorem parse_eq_ok {text : String} {call : Call} (h : parse text = .ok call) :
    ∃ target parts, segments text.toList = target :: parts
      ∧ Address.parse? (String.ofList target) = some call.target := by
  obtain ⟨target, parts, hparts⟩ := List.exists_cons_of_ne_nil (segments_ne_nil text.toList)
  refine ⟨target, parts, hparts, ?_⟩
  rw [parse, hparts] at h
  match parts, h with
  | [], h => exact ofParts_eq_ok h
  | [_], h => exact ofParts_eq_ok h
  | [_, _], h => exact ofParts_eq_ok h
  | _ :: _ :: _ :: _, h => cases h

end Call

/-- No address starts with a hyphen. -/
theorem Address.parse?_hyphen (cs : List Char) : parse? (String.ofList ('-' :: cs)) = none := by
  have hdecode : Hex.decode? ('-' :: cs) = none := by
    cases cs <;> rfl
  have hunmarked : Hex.unmarked ('-' :: cs) = '-' :: cs := rfl
  rw [parse?, Hex.parseFixed?, Hex.parse?, String.toList_ofList, hunmarked, hdecode]
  rfl

theorem Call.parse_hyphen {text : String} {cs : List Char} (htext : text.toList = '-' :: cs)
    (call : Call) : parse text ≠ .ok call := by
  intro h
  obtain ⟨target, parts, hparts, haddress⟩ := parse_eq_ok h
  obtain ⟨part, more, hsegments⟩ := segments_cons (c := '-') (by decide) cs
  rw [htext, hsegments] at hparts
  obtain ⟨rfl, -⟩ := List.cons.inj hparts
  rw [Address.parse?_hyphen] at haddress
  cases haddress

end SmartAccount
