import Mathlib.Algebra.Order.Floor.Div
import SmartAccount.Proofs.Watcher.Course
import SmartAccount.Proofs.Watcher.Ledger
/-!
# The stretches of a query

A query asks for its blocks in stretches. They are ranges that lie side by side (`Tiles`), all of
them full but perhaps the last (`Cuts`); so their number is that of the blocks divided by the
length of a full stretch, rounded up. `requests_cut` says this of the requests of a whole query, as
long as every request is answered.

The other half is that no sum wraps, not even next to the last block there can be. `runChecked` is
the same loop with a difference and a sum that fail where they do not fit; it never fails that way,
whatever the answers are (`runChecked_eq`): the comparison with the last block guards the sum.
-/

namespace SmartAccount

/-- The blocks from `first` to `last`, both included. -/
structure BlockRange where
  first : BlockNumber
  last : BlockNumber
  deriving DecidableEq

/-- The number of blocks in a range. -/
def BlockRange.size (r : BlockRange) : Nat := r.last.toNat + 1 - r.first.toNat

/-- The filter for the events in a range. -/
def Subject.filterFor (s : Subject) (r : BlockRange) : Filter := s.filter r.first r.last

/-- A filter tells the range that it is for. -/
theorem Subject.filterFor_inj {s : Subject} {a b : BlockRange}
    (h : s.filterFor a = s.filterFor b) : a = b := by
  obtain ⟨afirst, alast⟩ := a
  obtain ⟨bfirst, blast⟩ := b
  simp only [filterFor, filter, Filter.mk.injEq, Option.some.injEq, true_and] at h
  rw [h.1, h.2]

/-! ## Ranges side by side -/

/-- The ranges lie side by side from block `i` up to, but not including, block `j`: none is empty,
the first starts at `i`, each of the others right after the one before, and the last ends right
before `j`. -/
def Tiles : (i : Nat) → List BlockRange → (j : Nat) → Prop
  | i, [], j => i = j
  | i, r :: rest, j => r.first.toNat = i ∧ r.first ≤ r.last ∧ Tiles (r.last.toNat + 1) rest j

theorem Tiles.append {j k : Nat} {tail : List BlockRange} (htail : Tiles j tail k) :
    ∀ {i : Nat} {ranges : List BlockRange}, Tiles i ranges j → Tiles i (ranges ++ tail) k
  | i, [], h => by
    obtain rfl : i = j := h
    exact htail
  | _, _ :: _, ⟨hfirst, hle, hrest⟩ => ⟨hfirst, hle, htail.append hrest⟩

/-- One more range at the end. -/
theorem Tiles.concat {i j : Nat} {ranges : List BlockRange} {r : BlockRange}
    (h : Tiles i ranges j) (hfirst : r.first.toNat = j) (hle : r.first ≤ r.last) :
    Tiles i (ranges ++ [r]) (r.last.toNat + 1) :=
  Tiles.append (show Tiles j [r] (r.last.toNat + 1) from ⟨hfirst, hle, rfl⟩) h

theorem Tiles.le : ∀ {i j : Nat} {ranges : List BlockRange}, Tiles i ranges j → i ≤ j
  | _, _, [], h => Nat.le_of_eq h
  | _, _, _ :: _, ⟨hfirst, hle, hrest⟩ => by
    have hrest := hrest.le
    rw [BitVec.le_def] at hle
    omega

/-- No range starts before the tiling does. -/
theorem Tiles.le_first : ∀ {i j : Nat} {ranges : List BlockRange}, Tiles i ranges j →
    ∀ r ∈ ranges, i ≤ r.first.toNat
  | _, _, [], _, _, hmem => nomatch hmem
  | _, _, head :: _, ⟨hfirst, hle, hrest⟩, r, hmem => by
    rcases List.mem_cons.mp hmem with rfl | htail
    · omega
    · have := hrest.le_first r htail
      rw [BitVec.le_def] at hle
      omega

/-- Ranges side by side are in ascending order. -/
theorem Tiles.ascending : ∀ {i j : Nat} {ranges : List BlockRange}, Tiles i ranges j →
    ranges.Pairwise fun a b => a.last < b.first
  | _, _, [], _ => .nil
  | _, _, _ :: _, ⟨_, _, hrest⟩ => by
    refine List.pairwise_cons.mpr ⟨fun r hmem => ?_, hrest.ascending⟩
    have := hrest.le_first r hmem
    rw [BitVec.lt_def]
    omega

/-- Ranges of one size cover that many blocks each. -/
theorem Tiles.eq_add_mul {size : Nat} : ∀ {i j : Nat} {ranges : List BlockRange},
    Tiles i ranges j → (∀ r ∈ ranges, r.size = size) → j = i + size * ranges.length
  | i, _, [], h, _ => by
    rw [List.length_nil, Nat.mul_zero, Nat.add_zero]
    exact h.symm
  | i, j, r :: rest, ⟨hfirst, hle, hrest⟩, hsize => by
    have hr : r.size = size := hsize r List.mem_cons_self
    have hj := hrest.eq_add_mul fun other hmem => hsize other (List.mem_cons_of_mem _ hmem)
    unfold BlockRange.size at hr
    rw [BitVec.le_def] at hle
    rw [hj, List.length_cons, Nat.mul_succ]
    omega

/-- The ranges cut the blocks from `first` to `last` into stretches of `size` blocks, as few as
there can be. -/
structure Cuts (size : Nat) (first last : BlockNumber) (ranges : List BlockRange) : Prop where
  tiles : Tiles first.toNat ranges (last.toNat + 1)
  ascending : ranges.Pairwise fun a b => a.last < b.first
  le_size : ∀ r ∈ ranges, r.size ≤ size
  /-- All but the last are full. -/
  full : ∀ r ∈ ranges.dropLast, r.size = size
  count : ranges.length = (last.toNat - first.toNat + 1) ⌈/⌉ size

/-- Full ranges with one that ends the blocks behind them. -/
theorem Cuts.of_concat {size : Nat} {first last : BlockNumber} {ranges : List BlockRange}
    {r : BlockRange} (hpos : 0 < size)
    (htiles : Tiles first.toNat ranges r.first.toNat) (hfull : ∀ s ∈ ranges, s.size = size)
    (hle : r.first ≤ r.last) (hlast : r.last = last) (hsize : r.size ≤ size) :
    Cuts size first last (ranges ++ [r]) := by
  have htiles' := htiles.concat rfl hle
  have hstart := htiles.eq_add_mul hfull
  rw [hlast] at htiles'
  refine ⟨htiles', htiles'.ascending, fun s hmem => ?_, ?_, ?_⟩
  · rcases List.mem_append.mp hmem with hold | hnew
    · exact Nat.le_of_eq (hfull s hold)
    · rw [List.mem_singleton.mp hnew]
      exact hsize
  · rw [List.dropLast_concat]
    exact hfull
  · -- the blocks are the full ranges and between one and `size` blocks more
    rw [BitVec.le_def] at hle
    unfold BlockRange.size at hsize
    have hblocks : last.toNat - first.toNat + 1 + size - 1
        = size * (ranges.length + 1) + (last.toNat - r.first.toNat) := by
      rw [Nat.mul_succ]
      rw [hlast] at hle
      omega
    rw [List.length_append, List.length_singleton, Nat.ceilDiv_eq_add_pred_div, hblocks,
      Nat.mul_add_div hpos, Nat.div_eq_of_lt, Nat.add_zero]
    rw [hlast] at hsize
    omega

namespace Query

variable {σ ε : Type}

/-- The number of blocks in a full stretch: what is set, but at least one. -/
def stretchSize (settings : WatchSettings) : Nat := max 1 settings.maxBlockRange.toNat

/-- The range of the current stretch. -/
def range (settings : WatchSettings) (q : Query) : BlockRange := ⟨q.first, q.stretchEnd settings⟩

/-- A stretch is not empty. -/
theorem range_first_le (settings : WatchSettings) {q : Query} (h : q.first ≤ q.last) :
    (q.range settings).first ≤ (q.range settings).last := by
  rw [BitVec.le_def] at h ⊢
  exact first_le_stretchEnd settings h

theorem range_size_le (settings : WatchSettings) (q : Query) :
    (q.range settings).size ≤ stretchSize settings := by
  have hend := stretchEnd_toNat settings q
  unfold BlockRange.size range stretchSize
  dsimp only
  omega

/-- A stretch is full unless it is the last. -/
theorem range_size_eq {settings : WatchSettings} {q : Query}
    (h : q.stretchEnd settings < q.last) : (q.range settings).size = stretchSize settings := by
  have hend := stretchEnd_toNat settings q
  rw [BitVec.lt_def] at h
  unfold BlockRange.size range stretchSize
  dsimp only
  omega

/-! ## The requests of a query -/

/-- Where a query stands whose requests so far were for full ranges side by side. -/
structure Cutting (settings : WatchSettings) (subject : Subject) (first last : BlockNumber)
    (q : Query) (record : List (Reply ε)) : Prop where
  last_eq : q.last = last
  first_le : q.first ≤ q.last
  ranges : ∃ ranges : List BlockRange, record.map Reply.filter = ranges.map subject.filterFor
    ∧ Tiles first.toNat ranges q.first.toNat ∧ ∀ r ∈ ranges, r.size = stretchSize settings

/-- A query that found its events, with requests that cut its blocks into stretches. -/
def Finished (settings : WatchSettings) (subject : Subject) (first last : BlockNumber)
    (outcome : Outcome ε) (record : List (Reply ε)) : Prop :=
  (∃ events, outcome = .found events)
    ∧ ∃ ranges, record.map Reply.filter = ranges.map subject.filterFor
      ∧ Cuts (stretchSize settings) first last ranges

/-- An answer either ends the query or leads to the stretch right after the current one. -/
theorem Cutting.afterAnswer {settings : WatchSettings} {subject : Subject}
    {first last : BlockNumber} {q : Query} {record : List (Reply ε)}
    (h : q.Cutting settings subject first last record) (draw : Nat) (logs : List Log) :
    (q.afterAnswer settings subject draw (.ok logs)).Leads
      (Cutting settings subject first last · (record ++ [q.reply settings subject (.ok logs)]))
      (Finished settings subject first last ·
        (record ++ [q.reply settings subject (.ok logs)])) := by
  obtain ⟨ranges, hrequests, htiles, hfull⟩ := h.ranges
  have hrequests' : (record ++ [q.reply settings subject (.ok logs)]).map Reply.filter
      = (ranges ++ [q.range settings]).map subject.filterFor := by
    rw [List.map_append, List.map_append, hrequests]
    rfl
  have hle := range_first_le settings h.first_le
  simp only [Query.afterAnswer]
  split
  next hlast =>
    have hend : (q.range settings).last = last := by
      have hstretch := stretchEnd_le_last settings q
      rw [BitVec.le_def] at hlast
      rw [← h.last_eq]
      exact BitVec.eq_of_toNat_eq (by show (q.stretchEnd settings).toNat = _; omega)
    refine ⟨⟨_, rfl⟩, _, hrequests', Cuts.of_concat ?_ htiles hfull hle hend ?_⟩
    · exact Nat.lt_of_lt_of_le Nat.one_pos (Nat.le_max_left _ _)
    · exact range_size_le settings q
  next hmore =>
    rw [BitVec.not_le] at hmore
    have hnext := stretchEnd_succ_toNat (BitVec.lt_def.mp hmore)
    refine ⟨h.last_eq, ?_, _, hrequests', ?_, fun r hmem => ?_⟩
    · rw [BitVec.le_def, hnext]
      exact BitVec.lt_def.mp hmore
    · show Tiles first.toNat _ (q.stretchEnd settings + 1).toNat
      rw [hnext]
      exact htiles.concat rfl hle
    · rcases List.mem_append.mp hmem with hold | hnew
      · exact hfull r hold
      · rw [List.mem_singleton.mp hnew]
        exact range_size_eq hmore

/-- The requests of a whole query that is always answered. -/
theorem course_cut {means : Means (StateM σ) ε} (hanswers : means.AlwaysAnswers)
    (settings : WatchSettings) (subject : Subject) {first last : BlockNumber}
    (hrange : first ≤ last) (world : σ) :
    Finished settings subject first last
      (course means settings subject first last world).outcome
      (course means settings subject first last world).replies := by
  refine course_spec (Cutting settings subject first last) (Finished settings subject first last)
    hanswers ?_ hrange ?_ world
  · intro q record draw answer hinv hanswer
    obtain ⟨logs, rfl⟩ := hanswer
    exact hinv.afterAnswer draw logs
  · refine ⟨rfl, hrange, [], rfl, rfl, fun r hmem => ?_⟩
    cases hmem

end Query

/-! ## No sum wraps -/

namespace BlockNumber

/-- The sum of two numbers of blocks, if it fits. -/
def add? (a b : BlockNumber) : Option BlockNumber :=
  if BitVec.uaddOverflow a b then none else some (a + b)

/-- The difference of two numbers of blocks, if it fits. -/
def sub? (a b : BlockNumber) : Option BlockNumber :=
  if BitVec.usubOverflow a b then none else some (a - b)

theorem add?_eq_some {a b : BlockNumber} (h : a.toNat + b.toNat < 2 ^ 64) :
    a.add? b = some (a + b) := by
  have hfits : ¬BitVec.uaddOverflow a b := by
    simpa [BitVec.uaddOverflow] using h
  exact if_neg hfits

theorem sub?_eq_some {a b : BlockNumber} (h : b.toNat ≤ a.toNat) : a.sub? b = some (a - b) := by
  have hfits : ¬BitVec.usubOverflow a b := by
    simpa [BitVec.usubOverflow] using h
  exact if_neg hfits

end BlockNumber

namespace Query

variable {ε : Type}

/-- `stretch` with its difference checked. -/
def stretchChecked (settings : WatchSettings) : Option BlockNumber :=
  BlockNumber.sub? (if settings.maxBlockRange = 0 then 1 else settings.maxBlockRange) 1

/-- `stretchEnd` with its difference checked. The sum may not fit: then the last block there can
be stands for it. -/
def stretchEndChecked (settings : WatchSettings) (q : Query) : Option BlockNumber := do
  let stretch ← stretchChecked settings
  let fullEnd := (q.first.add? stretch).getD (BitVec.allOnes 64)
  return if q.last ≤ fullEnd then q.last else fullEnd

/-- `afterAnswer` with its sum and difference checked. -/
def afterAnswerChecked (settings : WatchSettings) (subject : Subject) (q : Query) (draw : Nat) :
    Except ε (List Log) → Option (Next ε)
  | .ok logs => do
    let found := q.found ++ subject.sightings logs
    let stretchEnd ← q.stretchEndChecked settings
    if q.last ≤ stretchEnd then return .done found
    else
      let first ← stretchEnd.add? 1
      return .onward { first := first, last := q.last, found := found }
  | .error e => return q.afterAnswer settings subject draw (.error e)

theorem stretchChecked_eq (settings : WatchSettings) :
    stretchChecked settings = some (stretch settings) := by
  unfold stretchChecked stretch
  split
  next => rfl
  next hrange =>
    have hpos : settings.maxBlockRange.toNat ≠ 0 := fun h => hrange (BitVec.toNat_inj.mp h)
    exact BlockNumber.sub?_eq_some (Nat.one_le_iff_ne_zero.mpr hpos)

theorem stretchEndChecked_eq (settings : WatchSettings) (q : Query) :
    q.stretchEndChecked settings = some (q.stretchEnd settings) := by
  have hsum (a b : BlockNumber) : (a.add? b).getD (BitVec.allOnes 64) = a.saturatingAdd b := by
    unfold BlockNumber.add? BlockNumber.saturatingAdd
    split <;> rfl
  simp only [stretchEndChecked, stretchEnd, stretchChecked_eq, Option.bind_eq_bind,
    Option.bind_some, hsum]
  rfl

/-- The sum is made only before the last block, so it fits. -/
theorem afterAnswerChecked_eq (settings : WatchSettings) (subject : Subject) (q : Query)
    (draw : Nat) (answer : Except ε (List Log)) :
    q.afterAnswerChecked settings subject draw answer
      = some (q.afterAnswer settings subject draw answer) := by
  cases answer with
  | error e => rfl
  | ok logs =>
    simp only [afterAnswerChecked, afterAnswer, stretchEndChecked_eq, Option.bind_eq_bind,
      Option.bind_some]
    split
    next => rfl
    next hmore =>
      have hlast := q.last.isLt
      rw [BitVec.le_def, Nat.not_le] at hmore
      have hone : (1 : BlockNumber).toNat = 1 := rfl
      rw [BlockNumber.add?_eq_some (by rw [hone]; omega)]
      rfl

/-- The rest of a query in which sums and differences fail where they do not fit: then there is no
outcome. -/
def runChecked {m : Type → Type} [Monad m] (means : Means m ε) (settings : WatchSettings)
    (subject : Subject) (q : Query) : m (Option (Outcome ε)) := do
  match q.stretchEndChecked settings with
  | none => return none
  | some stretchEnd =>
    let answer ← means.ask (subject.filter q.first stretchEnd)
    means.tell (q.notices settings subject means.shown answer)
    let draw ← means.draw
    match _ : q.afterAnswerChecked settings subject draw answer with
    | none => return none
    | some (.done events) => return some (.found events)
    | some (.failed e) => return some (.failed e)
    | some (.breakDown wait? cause) => do
      wait?.forM means.wait
      return some (.brokenDown cause)
    | some (.again wait next) => do
      means.wait wait
      runChecked means settings subject next
    | some (.onward next) => runChecked means settings subject next
termination_by (q.last.toNat - q.first.toNat, q.attemptsLeft settings)
decreasing_by
  · have hagain : q.afterAnswer settings subject draw answer = .again wait next := by
      rw [← Option.some.injEq, ← afterAnswerChecked_eq]
      assumption
    have hsmaller := again_shrinks hagain
    simp only [hsmaller.1, hsmaller.2.1]
    exact .right _ hsmaller.2.2
  · have honward : q.afterAnswer settings subject draw answer = .onward next := by
      rw [← Option.some.injEq, ← afterAnswerChecked_eq]
      assumption
    exact .left _ _ (onward_shrinks honward)

/-- A query with its sums and differences checked. -/
def runRangeChecked {m : Type → Type} [Monad m] (means : Means m ε) (settings : WatchSettings)
    (subject : Subject) (first last : BlockNumber) : m (Option (Outcome ε)) :=
  if last < first then return some (.found [])
  else runChecked means settings subject { first := first, last := last }

/-- **No sum wraps**: with its sums and differences checked, a query does the same, whatever it
is answered and also up to the last block there can be. -/
theorem runChecked_eq {m : Type → Type} [Monad m] [LawfulMonad m] (means : Means m ε)
    (settings : WatchSettings) (subject : Subject) (q : Query) :
    runChecked means settings subject q = some <$> run means settings subject q := by
  induction q using run.induct (ε := ε) settings subject with
  | case1 q ihAgain ihOnward =>
    rw [runChecked, stretchEndChecked_eq, run_eq]
    simp only [map_bind]
    refine bind_congr fun answer => bind_congr fun _ => bind_congr fun draw => ?_
    -- the checked step is the step
    have hstep := afterAnswerChecked_eq settings subject q draw answer
    split
    next hnone =>
      rw [hnone] at hstep
      cases hstep
    next events hsome =>
      rw [hsome, Option.some.injEq] at hstep
      rw [← hstep]
      exact (map_pure ..).symm
    next e hsome =>
      rw [hsome, Option.some.injEq] at hstep
      rw [← hstep]
      exact (map_pure ..).symm
    next wait? cause hsome =>
      rw [hsome, Option.some.injEq] at hstep
      rw [← hstep]
      simp only [Next.rest, map_bind, map_pure]
    next wait next hsome =>
      rw [hsome, Option.some.injEq] at hstep
      rw [← hstep]
      simp only [Next.rest, map_bind, ihAgain answer draw wait next hstep.symm]
    next next hsome =>
      rw [hsome, Option.some.injEq] at hstep
      rw [← hstep]
      exact ihOnward answer draw next hstep.symm

theorem runRangeChecked_eq {m : Type → Type} [Monad m] [LawfulMonad m] (means : Means m ε)
    (settings : WatchSettings) (subject : Subject) (first last : BlockNumber) :
    runRangeChecked means settings subject first last
      = some <$> runRange means settings subject first last := by
  unfold runRangeChecked runRange
  split
  next => exact (map_pure ..).symm
  next => exact runChecked_eq ..

/-- **The requests of a query cut its blocks into stretches, and no sum wraps.** Let the world
answer every request. An empty range is not asked for. Else the query ends with what it found, and
its requests are, in this order, for ranges that lie side by side from the first block to the last,
and name the ends of these ranges: all are of the length that is set but perhaps the last, so there
are as many as the blocks divided by that length, rounded up. In the whole course of a query,
whatever the answers, every sum and difference of blocks fits, also where the last block is the
last there can be. -/
theorem requests_cut {σ : Type} {means : Means (StateM σ) ε} (hanswers : means.AlwaysAnswers)
    (settings : WatchSettings) (subject : Subject) (first last : BlockNumber) (world : σ) :
    (∃ events, (course means settings subject first last world).outcome = .found events)
      ∧ (last < first → (course means settings subject first last world).replies = [])
      ∧ (first ≤ last → ∃ ranges,
          (course means settings subject first last world).replies.map Reply.filter
              = ranges.map subject.filterFor
            ∧ (course means settings subject first last world).replies.map
                (fun reply => (reply.filter.first, reply.filter.last))
              = ranges.map (fun r => (some r.first, some r.last))
            ∧ Cuts (max 1 settings.maxBlockRange.toNat) first last ranges)
      ∧ runRangeChecked means settings subject first last
          = some <$> runRange means settings subject first last := by
  refine ⟨?_, ?_, ?_, runRangeChecked_eq ..⟩
  · by_cases hempty : last < first
    · rw [course_of_lt hempty]
      exact ⟨[], rfl⟩
    · exact (course_cut hanswers settings subject (BitVec.not_lt.mp hempty) world).1
  · intro hempty
    rw [course_of_lt hempty]
  · intro hrange
    obtain ⟨-, ranges, hrequests, hcuts⟩ := course_cut hanswers settings subject hrange world
    have hends := congrArg (List.map fun filter => (filter.first, filter.last)) hrequests
    rw [List.map_map, List.map_map] at hends
    exact ⟨ranges, hrequests, hends, hcuts⟩

/-- A world without logs. -/
def noLogs : Means (StateM Unit) String where
  ask _ := pure (.ok [])
  wait _ := pure ()
  draw := pure 0
  tell _ := pure ()
  shown := id

/-- The last 26 blocks there can be, ten at a time. -/
theorem requests_cut_lastBlocks : noLogs.AlwaysAnswers
    ∧ ∃ ranges, (course noLogs { maxBlockRange := 10 } ⟨Contract.aAccount, 0xfac⟩
          0xffffffffffffffe6 0xffffffffffffffff ()).replies.map Reply.filter
        = ranges.map (Subject.filterFor ⟨Contract.aAccount, 0xfac⟩)
      ∧ (course noLogs { maxBlockRange := 10 } ⟨Contract.aAccount, 0xfac⟩
          0xffffffffffffffe6 0xffffffffffffffff ()).replies.map
          (fun reply => (reply.filter.first, reply.filter.last))
        = ranges.map (fun r => (some r.first, some r.last))
      ∧ Cuts 10 0xffffffffffffffe6 0xffffffffffffffff ranges := by
  have hanswers : noLogs.AlwaysAnswers := fun _ _ => ⟨[], rfl⟩
  exact ⟨hanswers, (requests_cut hanswers { maxBlockRange := 10 } ⟨Contract.aAccount, 0xfac⟩
    0xffffffffffffffe6 0xffffffffffffffff ()).2.2.1 (by decide)⟩

end Query

end SmartAccount
