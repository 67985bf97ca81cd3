import ChainExplorer.Store
import Mathlib.Data.Finset.Card

/-!
# What a store remembers

A store is asked one thing after another, and what it holds depends on all of it. Two things about
the past decide: which transaction was put last under an id, and in what order the ids were last
used, where a use is a put of a transaction in a block or a get that finds something. Every id once,
in that order, is the list that the store keeps, cut to its capacity (`Served.Sound.recent`), so an
id is held as long as fewer others than it has room for were used after it
(`remembers_latest_used`).
-/

namespace ChainExplorer.Store

variable {store : Store} {tx : Transaction} {txid : String} {capacity : Nat}

/-! ## A store and its past -/

/-- What may be asked of a store. -/
inductive Call where
  | put (tx : Transaction)
  | get (txid : String)
  | references (indexKey : String)
  | size
  | isEmpty
  deriving DecidableEq, Repr

/-- What a store replies. -/
inductive Reply where
  | done
  | found (tx? : Option Transaction)
  | references (references? : Option (List History.Reference))
  | size (count : Nat)
  | isEmpty (empty : Bool)
  deriving DecidableEq, Repr

/-- The reply to a call, and the store after it. -/
def call (store : Store) : Call → Reply × Store
  | .put tx => (.done, store.put tx)
  | .get txid => (.found (store.get txid).1, (store.get txid).2)
  | .references indexKey => (.references (store.references? indexKey), store)
  | .size => (.size store.size, store)
  | .isEmpty => (.isEmpty store.isEmpty, store)

/-- A store with the calls that it was given and its replies to them, the latest first. -/
structure Served where
  store : Store
  log : List (Call × Reply)
  deriving DecidableEq, Repr

namespace Served

def next (served : Served) (c : Call) : Served :=
  ⟨(served.store.call c).2, (c, (served.store.call c).1) :: served.log⟩

end Served

/-- A store that is empty at first, after some calls. -/
def serve (capacity : Nat) (calls : List Call) : Served :=
  calls.foldl Served.next ⟨.empty capacity, []⟩

/-- The transaction that a call put under an id, if it is in a block. -/
def offered? (txid : String) : Call × Reply → Option Transaction
  | (.put tx, _) => if tx.isConfirmed ∧ tx.txid = txid then some tx else none
  | _ => none

/-- The id that a call used. -/
def used? : Call × Reply → Option String
  | (.put tx, _) => if tx.isConfirmed then some tx.txid else none
  | (.get txid, .found (some _)) => some txid
  | _ => none

/-- The transaction in a block that was put last under an id. -/
def lastPut? (log : List (Call × Reply)) (txid : String) : Option Transaction :=
  log.findSome? (offered? txid)

/-- The ids that were used, the latest first. -/
def uses (log : List (Call × Reply)) : List String := log.filterMap used?

/-- The ids that were used after an id was last used. -/
def usedAfter (log : List (Call × Reply)) (txid : String) : Finset String :=
  ((uses log).takeWhile (· ≠ txid)).toFinset

/-! ## The order of last use -/

/-- Every id once, where it comes first. -/
def recency : List String → List String
  | [] => []
  | txid :: rest => txid :: (recency rest).filter (· ≠ txid)

theorem mem_recency {ids : List String} : txid ∈ recency ids ↔ txid ∈ ids := by
  induction ids with
  | nil => rfl
  | cons first rest ih =>
    rw [recency, List.mem_cons, List.mem_cons, List.mem_filter, ih]
    by_cases h : txid = first <;> simp [h]

theorem nodup_recency (ids : List String) : (recency ids).Nodup := by
  induction ids with
  | nil => exact List.nodup_nil
  | cons first rest ih =>
    rw [recency, List.nodup_cons]
    exact ⟨fun hmem => by simp at hmem, ih.filter _⟩

theorem length_recency (ids : List String) : (recency ids).length = ids.toFinset.card := by
  rw [← List.toFinset_card_of_nodup (nodup_recency ids)]
  congr 1
  ext txid
  rw [List.mem_toFinset, List.mem_toFinset, mem_recency]

theorem recency_append (front back : List String) :
    recency (front ++ back) = recency front ++ (recency back).filter (· ∉ front) := by
  induction front with
  | nil => simp [recency]
  | cons first rest ih =>
    rw [List.cons_append, recency, recency, ih, List.filter_append, List.filter_filter,
      List.cons_append]
    congr 2
    exact List.filter_congr fun txid _ => by simp

/-- **An id is among the first so many, in the order of last use, if fewer others were used after
it.** -/
theorem mem_take_recency {ids : List String} :
    txid ∈ (recency ids).take capacity ↔
      txid ∈ ids ∧ (ids.takeWhile (· ≠ txid)).toFinset.card < capacity := by
  by_cases hmem : txid ∈ ids
  · -- Cut where the id comes first: what stands before it is what was used after it.
    obtain ⟨front, back, rfl, hfront⟩ := List.eq_append_cons_of_mem hmem
    have hwhile : (front ++ txid :: back).takeWhile (· ≠ txid) = front := by
      rw [List.takeWhile_append_of_pos fun a ha => decide_eq_true (ne_of_mem_of_not_mem ha hfront),
        List.takeWhile_cons_of_neg (by simp), List.append_nil]
    have hnot : txid ∉ recency front := mt mem_recency.1 hfront
    rw [hwhile, ← length_recency, recency_append, recency,
      List.filter_cons_of_pos (by simpa using hfront), List.take_append, List.mem_append]
    constructor
    · rintro (hearly | hlate)
      · exact absurd (List.mem_of_mem_take hearly) hnot
      · refine ⟨hmem, Nat.lt_of_not_le fun hle => ?_⟩
        rw [Nat.sub_eq_zero_of_le hle] at hlate
        cases hlate
    · rintro ⟨-, hlt⟩
      obtain ⟨room, hroom⟩ := Nat.exists_eq_add_of_lt hlt
      refine .inr ?_
      rw [hroom, Nat.add_assoc, Nat.add_sub_cancel_left, List.take_succ_cons]
      exact List.mem_cons_self
  · exact iff_of_false (fun h => hmem (mem_recency.1 (List.mem_of_mem_take h)))
      fun h => hmem h.1

/-- What has been cut off is not missed when an entry moves to the front. -/
theorem take_cons_filter {ids : List String} (h : ids.Nodup) (txid : String) (n : Nat) :
    (txid :: (ids.take n).filter (· ≠ txid)).take n = (txid :: ids.filter (· ≠ txid)).take n := by
  cases n with
  | zero => rfl
  | succ n =>
    rw [List.take_succ_cons, List.take_succ_cons]
    congr 1
    rcases Nat.lt_or_ge n ids.length with hlong | hshort
    · -- Only one entry can leave its place, so of the first n + 1 there are n left.
      have hcut : n ≤ ((ids.take (n + 1)).filter (· ≠ txid)).length := by
        have herase := List.le_length_erase (a := txid) (l := ids.take (n + 1))
        rw [(h.sublist (List.take_sublist _ _)).erase_eq_filter, List.length_take] at herase
        have hsame : (ids.take (n + 1)).filter (· ≠ txid)
            = (ids.take (n + 1)).filter (· != txid) := List.filter_congr fun a _ => by
              rw [Bool.eq_iff_iff, decide_eq_true_iff, bne_iff_ne]
        rw [hsame]
        omega
      conv_rhs => rw [← List.take_append_drop (n + 1) ids]
      rw [List.filter_append, List.take_append_of_le_length hcut]
    · rw [List.take_of_length_le (Nat.le_succ_of_le hshort)]

/-! ## What a store holds -/

theorem ids_touch (store : Store) (tx : Transaction) (txid : String) :
    (store.touch tx txid).entries.map (·.1)
      = (txid :: (store.entries.map (·.1)).filter (· ≠ txid)).take store.capacity := by
  simp only [touch, without, List.map_take, List.map_cons, List.filter_map]
  rfl

theorem mem_touch {entry : String × Transaction} (h : entry ∈ (store.touch tx txid).entries) :
    entry = (txid, tx) ∨ entry ∈ store.entries ∧ entry.1 ≠ txid := by
  rcases List.mem_cons.1 (List.mem_of_mem_take h) with hnew | hold
  · exact .inl hnew
  · exact .inr (by simpa [without] using hold)

theorem mem_of_find? (h : store.find? txid = some tx) : (txid, tx) ∈ store.entries := by
  obtain ⟨entry, hentry, rfl⟩ := Option.map_eq_some_iff.1 h
  have hid : entry.1 = txid := by simpa using List.find?_some hentry
  exact hid ▸ List.mem_of_find?_eq_some hentry

theorem find?_eq_none : store.find? txid = none ↔ txid ∉ store.entries.map (·.1) := by
  rw [find?, Option.map_eq_none_iff, List.find?_eq_none, List.mem_map, not_exists]
  exact forall_congr' fun entry => by rw [decide_eq_true_iff, not_and]

theorem lastPut?_eq_some {log : List (Call × Reply)} (h : lastPut? log txid = some tx) :
    tx.isConfirmed = true ∧ tx.txid = txid ∧ txid ∈ uses log := by
  obtain ⟨⟨c, reply⟩, hmem, hoffered⟩ := List.exists_of_findSome?_eq_some h
  cases c with
  | put offered =>
    rw [offered?] at hoffered
    split at hoffered
    · rename_i hput
      obtain rfl := Option.some.inj hoffered
      obtain ⟨hconfirmed, rfl⟩ := hput
      exact ⟨hconfirmed, rfl, List.mem_filterMap.2 ⟨_, hmem, if_pos hconfirmed⟩⟩
    · cases hoffered
  | get | references | size | isEmpty => cases hoffered

namespace Served

/-- What holds of a store after any calls. -/
structure Sound (capacity : Nat) (served : Served) : Prop where
  bound : served.store.capacity = capacity
  unindexed : served.store.index = []
  /-- The ids held, in the order in which the store has them. -/
  recent : served.store.entries.map (·.1) = (recency (uses served.log)).take capacity
  /-- What is held under them. -/
  latest : ∀ entry ∈ served.store.entries, lastPut? served.log entry.1 = some entry.2

variable {served : Served}

theorem Sound.touch (h : served.Sound capacity) {c : Call × Reply} (hused : used? c = some txid)
    (hput : offered? txid c = some tx ∨
      offered? txid c = none ∧ lastPut? served.log txid = some tx)
    (hothers : ∀ other ≠ txid, offered? other c = none) :
    Sound capacity ⟨served.store.touch tx txid, c :: served.log⟩ where
  bound := h.bound
  unindexed := h.unindexed
  recent := by
    have huses : uses (c :: served.log) = txid :: uses served.log :=
      List.filterMap_cons_some hused
    rw [ids_touch, h.recent, h.bound, take_cons_filter (nodup_recency _), huses, recency]
  latest := by
    intro entry hentry
    rcases mem_touch hentry with rfl | ⟨hold, hother⟩
    · -- A put is itself the last one; a get is none, and finds what was put before.
      rw [lastPut?, List.findSome?_cons]
      rcases hput with hput | ⟨hput, hbefore⟩
      · rw [hput]
      · rw [hput]
        exact hbefore
    · rw [lastPut?, List.findSome?_cons, hothers _ hother]
      exact h.latest entry hold

theorem Sound.still (h : served.Sound capacity) {c : Call × Reply} (hused : used? c = none)
    (hput : ∀ txid, offered? txid c = none) :
    Sound capacity ⟨served.store, c :: served.log⟩ where
  bound := h.bound
  unindexed := h.unindexed
  recent := by
    rw [uses, List.filterMap_cons_none hused]
    exact h.recent
  latest := by
    intro entry hentry
    rw [lastPut?, List.findSome?_cons, hput]
    exact h.latest entry hentry

theorem Sound.next (h : served.Sound capacity) (c : Call) : (served.next c).Sound capacity := by
  cases c with
  | put tx =>
    rw [Served.next, call, put]
    split
    · rename_i hconfirmed
      exact h.touch (if_pos hconfirmed) (.inl (if_pos ⟨hconfirmed, rfl⟩))
        fun other hother => if_neg fun hput => hother hput.2.symm
    · rename_i hconfirmed
      exact h.still (if_neg hconfirmed) fun txid => if_neg fun hput => hconfirmed hput.1
  | get txid =>
    rw [Served.next, call, get]
    cases hfind : served.store.find? txid with
    | none => exact h.still rfl fun _ => rfl
    | some tx =>
      exact h.touch rfl (.inr ⟨rfl, h.latest _ (mem_of_find? hfind)⟩) fun _ _ => rfl
  | references | size | isEmpty => exact h.still rfl fun _ => rfl

theorem Sound.find? (h : served.Sound capacity) (txid : String) : served.store.find? txid =
    if (usedAfter served.log txid).card < capacity then lastPut? served.log txid else none := by
  have hheld : txid ∈ served.store.entries.map (·.1) ↔
      txid ∈ uses served.log ∧ (usedAfter served.log txid).card < capacity := by
    rw [h.recent]
    exact mem_take_recency
  cases hfind : served.store.find? txid with
  | some tx =>
    have hentry := mem_of_find? hfind
    have hroom := (hheld.1 (List.mem_map.2 ⟨_, hentry, rfl⟩)).2
    rw [if_pos hroom]
    exact (h.latest _ hentry).symm
  | none =>
    split
    · -- What was put has been used, so with room for it the store would have it.
      rename_i hroom
      by_contra hput
      obtain ⟨tx, htx⟩ := Option.ne_none_iff_exists'.1 (Ne.symm hput)
      exact find?_eq_none.1 hfind (hheld.2 ⟨(lastPut?_eq_some htx).2.2, hroom⟩)
    · rfl

theorem Sound.size_eq (h : served.Sound capacity) :
    served.store.size = min capacity (uses served.log).toFinset.card := by
  rw [size, ← List.length_map, h.recent, List.length_take, length_recency]

end Served

theorem sound_serve (capacity : Nat) (calls : List Call) : (serve capacity calls).Sound capacity := by
  have start : Served.Sound capacity ⟨.empty capacity, []⟩ :=
    ⟨rfl, rfl, List.take_nil.symm, fun entry hentry => by cases hentry⟩
  exact List.foldlRecOn calls Served.next start fun served h c _ => h.next c

theorem log_serve (capacity : Nat) (calls : List Call) :
    (serve capacity calls).log.map (·.1) = calls.reverse := by
  induction calls using List.reverseRecOn with
  | nil => rfl
  | append_singleton calls c ih =>
    rw [serve, List.foldl_concat, List.reverse_append, Served.next, List.map_cons]
    exact congrArg (c :: ·) ih

theorem get_fst (store : Store) (txid : String) : (store.get txid).1 = store.find? txid := by
  rw [get]
  cases store.find? txid with
  | none => rfl
  | some tx => rfl

/-- **A store remembers what was used last.** It never holds more than it has room for, and nothing
outside a block; it finds the transaction put last under an id exactly as long as fewer other ids
than it has room for were used since. What is outside a block makes no difference to it. -/
theorem remembers_latest_used (capacity : Nat) (calls : List Call) :
    let served := serve capacity calls
    served.log.map (·.1) = calls.reverse ∧
    served.store.size ≤ capacity ∧
    (∀ entry ∈ served.store.entries, entry.2.isConfirmed = true ∧ entry.2.txid = entry.1) ∧
    served.store.entries.map (·.1) = (recency (uses served.log)).take capacity ∧
    (∀ txid, (served.store.get txid).1 =
      if (usedAfter served.log txid).card < capacity then lastPut? served.log txid else none) ∧
    (∀ tx, tx.isConfirmed = false → served.store.put tx = served.store) ∧
    (∀ indexKey, served.store.references? indexKey = none) ∧
    (served.store.isEmpty = true ↔ served.store.size = 0) := by
  intro served
  have h : served.Sound capacity := sound_serve capacity calls
  refine ⟨log_serve capacity calls, ?_, fun entry hentry => ?_, h.recent, fun txid => ?_,
    fun tx hconfirmed => ?_, fun indexKey => ?_, ?_⟩
  · rw [h.size_eq]
    exact Nat.min_le_left _ _
  · obtain ⟨hconfirmed, hid, -⟩ := lastPut?_eq_some (h.latest entry hentry)
    exact ⟨hconfirmed, hid⟩
  · rw [get_fst, h.find?]
  · exact if_neg (Bool.eq_false_iff.1 hconfirmed)
  · rw [references?, h.unindexed]
    rfl
  · rw [isEmpty, size, List.isEmpty_iff, List.length_eq_zero_iff]

/-- A transaction that takes nothing, in a block or outside. -/
def bare (txid : String) (confirmations : UInt64) : Transaction :=
  ⟨txid, none, confirmations, 0, [], []⟩

/-- A store for two is given three transactions, and before the third the first is looked up. -/
def crowded : List Call := [.put (bare "a" 1), .put (bare "b" 1), .get "a", .put (bare "c" 1)]

/-- What has been looked up stays and the other one gives way; nothing outside a block gets in. -/
theorem remembers_latest_used_crowded :
    let store := (serve 2 crowded).store
    (("a", bare "a" 1) ∈ store.entries ∧ (bare "a" 1).isConfirmed = true) ∧
    (store.get "a").1 = some (bare "a" 1) ∧ (store.get "b").1 = none ∧
    usedAfter (serve 2 crowded).log "b" = {"a", "c"} ∧
    (bare "d" 0).isConfirmed = false ∧ store.put (bare "d" 0) = store := by
  obtain ⟨-, -, hentries, -, hget, hput, -⟩ := remembers_latest_used 2 crowded
  have hheld : ("a", bare "a" 1) ∈ (serve 2 crowded).store.entries := by decide
  refine ⟨⟨hheld, (hentries _ hheld).1⟩, (hget "a").trans ?_, (hget "b").trans ?_, by decide,
    by decide, hput _ (by decide)⟩
  · decide
  · decide

end ChainExplorer.Store
