import SmartAccount.Rpc.Dialogue
/-!
# What passes in a dialogue

One dialogue after another sends the requests of the first and then those of the second, which
starts with the node as the first one left it (`run_bind`). A dialogue may also fail, as an exchange
does: then nothing of what would come after it takes place (`run_exceptT_bind`). So it comes to a
value only if each of its parts does, one after the other (`yields_bind`).
-/

namespace SmartAccount

namespace Dialogue

variable {σ α β : Type}

/-- Two transcripts as one, where the second begins with the node of the first. -/
def Transcript.followedBy (t : Transcript σ α) (u : Transcript σ β) : Transcript σ β where
  result := u.result
  requests := t.requests ++ u.requests
  waited := t.waited + u.waited
  node := u.node

/-- A transcript that only has another result does not add anything. -/
theorem Transcript.followedBy_done (t : Transcript σ α) (b : β) :
    t.followedBy ⟨b, [], 0, t.node⟩ = { t with result := b } := by
  unfold followedBy
  rw [List.append_nil, Nat.add_zero]

theorem run_bind (node : Node σ) (d : Dialogue α) (f : α → Dialogue β) (s : σ) :
    (d.bind f).run node s
      = (d.run node s).followedBy ((f (d.run node s).result).run node (d.run node s).node) := by
  induction d generalizing s with
  | done a => simp only [bind, run, Transcript.followedBy, List.nil_append, Nat.zero_add]
  | ask request next ih =>
    simp only [bind, run, ih, Transcript.followedBy, List.cons_append]
  | wait span next ih => simp only [bind, run, ih, Transcript.followedBy, Nat.add_assoc]
  | draw next ih => simp only [bind, run, ih]

theorem bind_done (d : Dialogue α) : d.bind .done = d := by
  induction d with
  | done a => rfl
  | ask request next ih => simp only [bind, ih]
  | wait span next ih => simp only [bind, ih]
  | draw next ih => simp only [bind, ih]

theorem bind_assoc {γ : Type} (d : Dialogue α) (f : α → Dialogue β) (g : β → Dialogue γ) :
    (d.bind f).bind g = d.bind fun a => (f a).bind g := by
  induction d with
  | done a => rfl
  | ask request next ih => simp only [bind, ih]
  | wait span next ih => simp only [bind, ih]
  | draw next ih => simp only [bind, ih]

instance : LawfulMonad Dialogue := .mk' Dialogue bind_done (fun _ _ => rfl) bind_assoc

/-- What is made of a result leaves all else of a dialogue as it is. -/
theorem run_map (node : Node σ) (f : α → β) (d : Dialogue α) (s : σ) :
    (f <$> d).run node s = { d.run node s with result := f (d.run node s).result } := by
  show (d.bind fun a => .done (f a)).run node s = _
  rw [run_bind]
  exact Transcript.followedBy_done _ _

/-- What comes after a failure is neither sent nor waited for. -/
theorem run_exceptT_bind {ε : Type} (node : Node σ) (e : ExceptT ε Dialogue α)
    (f : α → ExceptT ε Dialogue β) (s : σ) :
    run node (e >>= f).run s
      = (run node e.run s).followedBy
        (match (run node e.run s).result with
        | .ok a => run node (f a).run (run node e.run s).node
        | .error x => ⟨.error x, [], 0, (run node e.run s).node⟩) := by
  show run node (bind e.run (ExceptT.bindCont f)) s = _
  rw [run_bind]
  cases (run node e.run s).result <;> rfl

/-- With the node in the state `s` the dialogue comes to the value `a`, and it leaves the node in
the state `s'`. -/
def Yields {ε : Type} (node : Node σ) (e : ExceptT ε Dialogue α) (s : σ) (a : α) (s' : σ) : Prop :=
  (run node e.run s).result = .ok a ∧ (run node e.run s).node = s'

section Yields

variable {ε : Type} {node : Node σ} {e : ExceptT ε Dialogue α} {s : σ}

theorem yields_pure {a b : α} {s' : σ} :
    Yields (ε := ε) node (pure a) s b s' ↔ a = b ∧ s = s' := by
  show Except.ok a = .ok b ∧ s = s' ↔ _
  rw [Except.ok.injEq]

theorem not_yields_throw {x : ε} {a : α} {s' : σ} :
    ¬ Yields node (throw x : ExceptT ε Dialogue α) s a s' := by
  rintro ⟨hresult, -⟩
  cases hresult

/-- A dialogue that cannot fail comes to its result. -/
theorem yields_lift {d : Dialogue α} {a : α} {s' : σ} :
    Yields (ε := ε) node (ExceptT.lift d) s a s'
      ↔ (run node d s).result = a ∧ (run node d s).node = s' := by
  show (run node (Except.ok <$> d) s).result = .ok a ∧ (run node (Except.ok <$> d) s).node = s' ↔ _
  rw [run_map, Except.ok.injEq]

/-- One dialogue after another comes to a value if the first comes to one and then the second. -/
theorem yields_bind {f : α → ExceptT ε Dialogue β} {b : β} {s'' : σ} :
    Yields node (e >>= f) s b s''
      ↔ ∃ a s', Yields node e s a s' ∧ Yields node (f a) s' b s'' := by
  unfold Yields
  rw [run_exceptT_bind, Transcript.followedBy]
  cases hfirst : (run node e.run s).result with
  | error x =>
    refine iff_of_false ?_ ?_
    · rintro ⟨hresult, -⟩
      cases hresult
    · rintro ⟨a, s', ⟨hok, -⟩, -⟩
      cases hok
  | ok a =>
    constructor
    · intro h
      exact ⟨a, _, ⟨rfl, rfl⟩, h⟩
    · rintro ⟨_, _, ⟨hok, rfl⟩, h⟩
      cases hok
      exact h

/-- Changing the error of a dialogue does not change its values. -/
theorem yields_mk_map {ε' : Type} {f : Except ε α → Except ε' α}
    (hf : ∀ result a, f result = .ok a ↔ result = .ok a) {a : α} {s' : σ} :
    Yields node (ExceptT.mk (f <$> e.run)) s a s' ↔ Yields node e s a s' := by
  show (run node (f <$> e.run) s).result = .ok a ∧ (run node (f <$> e.run) s).node = s' ↔ _
  rw [run_map, hf]
  rfl

end Yields

end Dialogue

namespace Exchange

variable {σ α β : Type} (node : Dialogue.Node σ)

/-- What an answer comes to for one who reads it as an `α`. -/
def reading (read : Json → Option α) : Answer → Except ProviderError α
  | .error e => .error (.rpc e)
  | .ok value =>
    match read value with
    | some a => .ok a
    | none => .error (.rpc (.malformed value.compact))

/-- An answer comes to a value when it is one, and only then. -/
theorem reading_eq_ok_iff {read : Json → Option α} {answer : Answer} {a : α} :
    reading read answer = .ok a ↔ ∃ value, answer = .ok value ∧ read value = some a := by
  constructor
  · intro h
    unfold reading at h
    split at h
    next => cases h
    next value =>
      split at h
      next hread =>
        cases h
        exact ⟨value, rfl, hread⟩
      next => cases h
  · rintro ⟨value, rfl, hread⟩
    simp only [reading, hread]

theorem run_request (method : String) (params : Option (List Json)) (read : Json → Option α)
    (s : σ) :
    Dialogue.run node (request method params read).run s
      = ⟨reading read (node ⟨method, params⟩ s).1, [⟨method, params⟩], 0,
        (node ⟨method, params⟩ s).2⟩ := rfl

theorem requests_bind (e : Exchange α) (f : α → Exchange β) (s : σ) :
    (Dialogue.run node (e >>= f).run s).requests
      = (Dialogue.run node e.run s).requests
        ++ match (Dialogue.run node e.run s).result with
          | .ok a => (Dialogue.run node (f a).run (Dialogue.run node e.run s).node).requests
          | .error _ => [] := by
  rw [Dialogue.run_exceptT_bind, Dialogue.Transcript.followedBy]
  cases (Dialogue.run node e.run s).result <;> rfl

/-- What is made of the value of an exchange leaves all else as it is. -/
theorem run_map (f : α → β) (e : Exchange α) (s : σ) :
    Dialogue.run node (f <$> e).run s
      = { Dialogue.run node e.run s with result := (Dialogue.run node e.run s).result.map f } := by
  have hmap : f <$> e = e >>= fun a => pure (f a) := rfl
  rw [hmap, Dialogue.run_exceptT_bind]
  cases (Dialogue.run node e.run s).result with
  | ok a => exact Dialogue.Transcript.followedBy_done _ _
  | error x => exact Dialogue.Transcript.followedBy_done _ _

theorem requests_map (f : α → β) (e : Exchange α) (s : σ) :
    (Dialogue.run node (f <$> e).run s).requests = (Dialogue.run node e.run s).requests := by
  rw [run_map]

end Exchange

end SmartAccount
