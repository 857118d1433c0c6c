import Mathlib.Algebra.Group.Nat.Defs
import SmartAccount.Watcher.Query
/-!
# What a query collects from a true node

A `Ledger` holds the logs of every block, in their order. A node that answers truly answers a
filter with the logs that the filter admits, block after block (`Ledger.answer`), and the events
of a contract are those of its logs that decode (`Ledger.events`).

A query cuts its blocks into stretches. In numbers, a stretch ends at its full length or at the last
block, whichever comes first (`stretchEnd_toNat`); no sum in it wraps. So the events of the
stretches up to some block are the events of all blocks up to there: `Query.Collected` says this of
a query on its way, and `Collected.afterAnswer` that a true answer, as well as a failure, keeps
it.
-/

namespace SmartAccount

/-- The logs of each block of a chain, in their order. -/
abbrev Ledger := BlockNumber → List Log

/-- Whether a filter admits a log, blocks left aside: the address has to be the right one, and the
first topic one of those that are wanted. -/
def Filter.admits (f : Filter) (log : Log) : Bool :=
  f.address.all (· = log.address)
    && (f.firstTopics.isEmpty || log.topics.head?.any (· ∈ f.firstTopics))

/-- The blocks from number `i` up to, but not including, number `j`. -/
def blocksFrom (i j : Nat) : List BlockNumber := (List.range' i (j - i)).map (BitVec.ofNat 64)

theorem blocksFrom_append {i j k : Nat} (hij : i ≤ j) (hjk : j ≤ k) :
    blocksFrom i j ++ blocksFrom j k = blocksFrom i k := by
  unfold blocksFrom
  rw [← List.map_append]
  have hj : List.range' j (k - j) = List.range' (i + (j - i)) (k - j) := by
    rw [Nat.add_sub_cancel' hij]
  rw [hj, List.range'_append_1, show j - i + (k - j) = k - i by omega]

namespace Ledger

/-- The logs that a node with this ledger finds for a filter, block after block. Where the filter
names no block, there is no bound. -/
def answer (ledger : Ledger) (f : Filter) : List Log :=
  (blocksFrom (f.first.getD 0).toNat ((f.last.getD (BitVec.allOnes 64)).toNat + 1)).flatMap
    fun n => (ledger n).filter f.admits

/-- The events of a contract in one block: those of its logs that decode. -/
def eventsAt (ledger : Ledger) (subject : Subject) (n : BlockNumber) : List Sighting :=
  subject.sightings ((ledger n).filter (subject.filter n n).admits)

/-- The events of a contract in the blocks from number `i` up to, but not including,
number `j`. -/
def events (ledger : Ledger) (subject : Subject) (i j : Nat) : List Sighting :=
  (blocksFrom i j).flatMap (ledger.eventsAt subject)

theorem events_append (ledger : Ledger) (subject : Subject) {i j k : Nat} (hij : i ≤ j)
    (hjk : j ≤ k) :
    ledger.events subject i j ++ ledger.events subject j k = ledger.events subject i k := by
  unfold events
  rw [← List.flatMap_append, blocksFrom_append hij hjk]

/-- There is no block, and so no event, between bounds that are crossed. -/
theorem events_of_le (ledger : Ledger) (subject : Subject) {i j : Nat} (h : j ≤ i) :
    ledger.events subject i j = [] := by
  simp [events, blocksFrom, Nat.sub_eq_zero_of_le h]

theorem events_self (ledger : Ledger) (subject : Subject) (i : Nat) :
    ledger.events subject i i = [] :=
  ledger.events_of_le subject (Nat.le_refl i)

/-- The events of fewer blocks are the first of the events of more. -/
theorem events_prefix (ledger : Ledger) (subject : Subject) {i j k : Nat} (hij : i ≤ j)
    (hjk : j ≤ k) : ledger.events subject i j <+: ledger.events subject i k :=
  ⟨_, events_append ledger subject hij hjk⟩

/-- The events among the logs that the node finds for a range are the events of the range. -/
theorem sightings_answer (ledger : Ledger) (subject : Subject) (first last : BlockNumber) :
    subject.sightings (ledger.answer (subject.filter first last))
      = ledger.events subject first.toNat (last.toNat + 1) := by
  unfold answer events Subject.sightings
  rw [List.filterMap_flatMap]
  -- the blocks of a filter do not matter for what it admits
  rfl

end Ledger

/-! ## The stretches of a query -/

/-- There is a block after every block but the last. -/
theorem BlockNumber.succ_toNat {n : BlockNumber} (h : n.toNat < 2 ^ 64 - 1) :
    (n + 1).toNat = n.toNat + 1 := by
  have hone : (1 : BlockNumber).toNat = 1 := rfl
  rw [BitVec.toNat_add_of_lt (by rw [hone]; omega), hone]

theorem BlockNumber.saturatingAdd_toNat (block count : BlockNumber) :
    (block.saturatingAdd count).toNat = min (block.toNat + count.toNat) (2 ^ 64 - 1) := by
  unfold saturatingAdd
  split
  next hover =>
    have hlarge : 2 ^ 64 ≤ block.toNat + count.toNat := by
      simpa [BitVec.uaddOverflow] using hover
    rw [BitVec.toNat_allOnes]
    omega
  next hfits =>
    have hsmall : block.toNat + count.toNat < 2 ^ 64 := by
      simpa [BitVec.uaddOverflow] using hfits
    rw [BitVec.toNat_add_of_not_uaddOverflow (by simpa using hfits)]
    omega

namespace Query

theorem stretch_toNat (settings : WatchSettings) :
    (stretch settings).toNat = settings.maxBlockRange.toNat - 1 := by
  unfold stretch
  split
  next hzero => simp [hzero]
  next hrange =>
    have hpos : settings.maxBlockRange.toNat ≠ 0 := fun h => hrange (BitVec.toNat_inj.mp h)
    rw [BitVec.toNat_sub_of_le]
    · rfl
    · rw [BitVec.le_def]
      exact Nat.one_le_iff_ne_zero.mpr hpos

/-- A stretch ends at its full length or at the last block, whichever comes first. -/
theorem stretchEnd_toNat (settings : WatchSettings) (q : Query) :
    (q.stretchEnd settings).toNat
      = min q.last.toNat (q.first.toNat + (settings.maxBlockRange.toNat - 1)) := by
  have hfull := BlockNumber.saturatingAdd_toNat q.first (stretch settings)
  rw [stretch_toNat] at hfull
  have hlast := q.last.isLt
  unfold stretchEnd
  dsimp only
  split
  next hle =>
    rw [BitVec.le_def] at hle
    omega
  next hgt =>
    rw [BitVec.le_def] at hgt
    omega

theorem stretchEnd_le_last (settings : WatchSettings) (q : Query) :
    (q.stretchEnd settings).toNat ≤ q.last.toNat := by
  rw [stretchEnd_toNat]
  exact Nat.min_le_left _ _

theorem first_le_stretchEnd (settings : WatchSettings) {q : Query}
    (h : q.first.toNat ≤ q.last.toNat) : q.first.toNat ≤ (q.stretchEnd settings).toNat := by
  rw [stretchEnd_toNat]
  omega

/-- The next stretch starts right after the current one: adding one does not wrap, since the
current one ends before the last block. -/
theorem stretchEnd_succ_toNat {settings : WatchSettings} {q : Query}
    (h : (q.stretchEnd settings).toNat < q.last.toNat) :
    (q.stretchEnd settings + 1).toNat = (q.stretchEnd settings).toNat + 1 := by
  have hlast := q.last.isLt
  exact BlockNumber.succ_toNat (by omega)

/-! ## A query of a true node -/

/-- Where a query stands that started at block `i` and has collected the events of all blocks
before its current stretch. -/
structure Collected (ledger : Ledger) (subject : Subject) (i : Nat) (q : Query) : Prop where
  start_le : i ≤ q.first.toNat
  first_le : q.first.toNat ≤ q.last.toNat
  found_eq : q.found = ledger.events subject i q.first.toNat

/-- What a step of a query may lead to, when the query started at block `i` and is to end at block
`last`: it goes on in the same way, or it is done and has collected everything. -/
def Next.Sound {ε : Type} (ledger : Ledger) (subject : Subject) (i : Nat) (last : BlockNumber) :
    Next ε → Prop
  | .onward q => q.Collected ledger subject i ∧ q.last = last
  | .again _ q => q.Collected ledger subject i ∧ q.last = last
  | .done events => events = ledger.events subject i (last.toNat + 1)
  | .failed _ => True
  | .breakDown _ _ => True

/-- What is found once the logs of the current stretch have been added. -/
theorem Collected.found_append {ledger : Ledger} {subject : Subject} {i : Nat} {q : Query}
    (settings : WatchSettings) (h : q.Collected ledger subject i) :
    q.found ++ subject.sightings (ledger.answer (q.filter settings subject))
      = ledger.events subject i ((q.stretchEnd settings).toNat + 1) := by
  have hend := first_le_stretchEnd settings h.first_le
  unfold filter
  rw [Ledger.sightings_answer, h.found_eq]
  exact Ledger.events_append ledger subject h.start_le (by omega)

/-- One step of a query, whether its request fails or is answered truly. -/
theorem Collected.afterAnswer {ε : Type} {ledger : Ledger} {subject : Subject} {i : Nat}
    {q : Query} {settings : WatchSettings} {draw : Nat} {answer : Except ε (List Log)}
    (h : q.Collected ledger subject i)
    (htrue : ∀ logs, answer = .ok logs → logs = ledger.answer (q.filter settings subject)) :
    (q.afterAnswer settings subject draw answer).Sound ledger subject i q.last := by
  cases answer with
  | error e =>
    simp only [Query.afterAnswer]
    split
    next => trivial
    next => exact ⟨⟨h.start_le, h.first_le, h.found_eq⟩, rfl⟩
    next => trivial
  | ok logs =>
    have hfound := h.found_append settings
    rw [← htrue logs rfl] at hfound
    have hle := stretchEnd_le_last settings q
    simp only [Query.afterAnswer, hfound]
    split
    next hlast =>
      rw [BitVec.le_def] at hlast
      have heq : (q.stretchEnd settings).toNat = q.last.toNat := by omega
      simp only [Next.Sound, heq]
    next hmore =>
      rw [BitVec.le_def, Nat.not_le] at hmore
      have hnext := stretchEnd_succ_toNat hmore
      have hstart := h.start_le
      have hend := first_le_stretchEnd settings h.first_le
      refine ⟨⟨?_, ?_, ?_⟩, rfl⟩
      · show i ≤ (q.stretchEnd settings + 1).toNat
        omega
      · show (q.stretchEnd settings + 1).toNat ≤ q.last.toNat
        omega
      · show _ = ledger.events subject i (q.stretchEnd settings + 1).toNat
        rw [hnext]

end Query

end SmartAccount
