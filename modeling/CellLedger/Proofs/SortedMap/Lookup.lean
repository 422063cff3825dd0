import CellLedger.SortedMap
import Mathlib.Data.List.Forall2
import Mathlib.Data.List.Nodup

/-!
What a sorted map holds, by its entries, its keys and its reads, after filtering and after inserting
many entries at once.
-/

set_option autoImplicit false

namespace CellLedger

theorem KeyOrder.apart_iff {K : Type} [KeyOrder K] {a b : K} : a < b ∨ b < a ↔ a ≠ b := by
  constructor
  · rintro (below | above) rfl
    · exact KeyOrder.irrefl a below
    · exact KeyOrder.irrefl a above
  · intro different
    rcases KeyOrder.total a b with below | same | above
    · exact .inl below
    · exact absurd same different
    · exact .inr above

namespace SortedMap

variable {K V : Type} [KeyOrder K]

theorem findEntry_eq_some_iff {key : K} {value : V} {entries : List (K × V)}
    (ascending : Ascending entries) :
    findEntry key entries = some value ↔ (key, value) ∈ entries := by
  induction entries with
  | nil => simp [findEntry]
  | cons head rest ih =>
    obtain ⟨k, v⟩ := head
    have tail := List.pairwise_cons.1 ascending
    by_cases same : k = key
    · subst same
      have absent : (k, value) ∉ rest := fun member => KeyOrder.irrefl k (tail.1 _ member)
      simp [findEntry_head, absent, eq_comm]
    · have other : key ≠ k := fun h => same h.symm
      -- The search passes the head over, as it passes over every key that is apart.
      rw [findEntry, if_pos (KeyOrder.apart_iff.2 same), ih tail.2]
      simp [other]

theorem get?_eq_some_iff {m : SortedMap K V} {key : K} {value : V} :
    m.get? key = some value ↔ (key, value) ∈ m.entries :=
  findEntry_eq_some_iff m.ascending

@[simp] theorem keys_empty : (∅ : SortedMap K V).keys = [] := rfl

theorem mem_keys_iff {m : SortedMap K V} {key : K} :
    key ∈ m.keys ↔ ∃ value, m.get? key = some value := by
  simp [keys, get?_eq_some_iff]

theorem get?_eq_none_iff {m : SortedMap K V} {key : K} : m.get? key = none ↔ key ∉ m.keys := by
  simp [mem_keys_iff, Option.eq_none_iff_forall_ne_some]

theorem isEmpty_iff {m : SortedMap K V} : m.isEmpty = true ↔ m = ∅ := by
  constructor
  · intro empty
    refine ext_get? fun key => get?_eq_none_iff.2 ?_
    simp [keys, List.isEmpty_iff.1 empty]
  · rintro rfl
    rfl

theorem keys_nodup (m : SortedMap K V) : m.keys.Nodup :=
  m.keys_ascending.imp fun below => KeyOrder.apart_iff.1 (.inl below)

theorem size_eq_length_keys (m : SortedMap K V) : m.size = m.keys.length := by
  simp [size, keys]

-- Of two maps with the same keys the values are compared key by key.
theorem forall₂_values {W : Type} {R : V → W → Prop} {m : SortedMap K V} {n : SortedMap K W}
    (keys : m.keys = n.keys)
    (related : ∀ key v w, m.get? key = some v → n.get? key = some w → R v w) :
    List.Forall₂ R m.values n.values := by
  have length : m.entries.length = n.entries.length := by
    simpa [SortedMap.keys] using congrArg List.length keys
  refine List.forall₂_iff_get.2 ⟨by simpa [values] using length, fun i bound boundToo => ?_⟩
  simp only [values, List.length_map] at bound boundToo
  have key : m.entries[i].1 = n.entries[i].1 := by
    simpa [SortedMap.keys] using List.getElem_of_eq keys (by simpa [SortedMap.keys] using bound)
  have held : m.get? m.entries[i].1 = some m.entries[i].2 :=
    get?_eq_some_iff.2 (List.getElem_mem bound)
  have heldToo : n.get? n.entries[i].1 = some n.entries[i].2 :=
    get?_eq_some_iff.2 (List.getElem_mem boundToo)
  simpa [values] using related _ _ _ held (key ▸ heldToo)

theorem get?_filter (m : SortedMap K V) (keep : K → V → Bool) (key : K) :
    (m.filter keep).get? key = (m.get? key).filter (keep key) := by
  ext value
  rw [get?_eq_some_iff, Option.filter_eq_some_iff, get?_eq_some_iff, filter, List.mem_filter]

theorem get?_mapValues {W : Type} (m : SortedMap K V) (f : V → W) (key : K) :
    (m.mapValues f).get? key = (m.get? key).map f := by
  ext value
  rw [get?_eq_some_iff, Option.map_eq_some_iff, mapValues]
  simp [get?_eq_some_iff]

@[simp] theorem keys_mapValues {W : Type} (m : SortedMap K V) (f : V → W) :
    (m.mapValues f).keys = m.keys := by
  simp [keys, mapValues]

theorem length_insertEntry {key : K} {value : V} {entries : List (K × V)}
    (fresh : ∀ e ∈ entries, e.1 ≠ key) :
    (insertEntry key value entries).length = entries.length + 1 := by
  induction entries with
  | nil => rfl
  | cons head rest ih =>
    obtain ⟨k, v⟩ := head
    have different : k ≠ key := fresh (k, v) (by simp)
    simp only [insertEntry]
    split
    · simp
    · next notBelow =>
      have above : k < key := (KeyOrder.apart_iff.2 different).resolve_right notBelow
      rw [if_pos above]
      simp [ih fun e member => fresh e (List.mem_cons_of_mem _ member)]

theorem size_insert {m : SortedMap K V} {key : K} {value : V} (fresh : key ∉ m.keys) :
    (m.insert key value).size = m.size + 1 := by
  refine length_insertEntry fun e member same => fresh ?_
  exact List.mem_map.2 ⟨e, member, same⟩

theorem insertAll_cons (m : SortedMap K V) (e : K × V) (rest : List (K × V)) :
    m.insertAll (e :: rest) = (m.insert e.1 e.2).insertAll rest := rfl

section DecidableKeys

variable [DecidableEq K]

theorem mem_keys_insert {m : SortedMap K V} {key probe : K} {value : V} :
    probe ∈ (m.insert key value).keys ↔ probe = key ∨ probe ∈ m.keys := by
  rw [mem_keys_iff, mem_keys_iff, get?_insert]
  by_cases same : key = probe <;> simp [same, eq_comm]

theorem size_insert_eq (m : SortedMap K V) (key : K) (value : V) :
    (m.insert key value).size = (m.erase key).size + 1 := by
  have same : m.insert key value = (m.erase key).insert key value := by
    refine ext_get? fun probe => ?_
    by_cases here : key = probe <;> simp [get?_insert, get?_erase, here]
  have fresh : key ∉ (m.erase key).keys := by
    rw [← get?_eq_none_iff, get?_erase, if_pos rfl]
  rw [same, size_insert fresh]

theorem assign_get?_self (m : SortedMap K V) (key : K) : m.assign key (m.get? key) = m := by
  refine ext_get? fun probe => ?_
  by_cases same : key = probe <;> simp [get?_assign, same]

theorem size_erase_add (m : SortedMap K V) (key : K) :
    (m.erase key).size + (m.get? key).toList.length = m.size := by
  have same := m.assign_get?_self key
  cases held : m.get? key with
  | none =>
    rw [held] at same
    have size : (m.erase key).size = m.size := congrArg SortedMap.size same
    simpa using size
  | some value =>
    rw [held] at same
    have size : (m.insert key value).size = m.size := congrArg SortedMap.size same
    rw [size_insert_eq] at size
    simpa using size

theorem filter_insert (m : SortedMap K V) (keep : K → V → Bool) (key : K) (value : V) :
    (m.insert key value).filter keep =
      (m.filter keep).assign key ((some value).filter (keep key)) := by
  refine ext_get? fun probe => ?_
  by_cases here : key = probe
  · subst here
    simp [get?_filter, get?_insert, get?_assign]
  · simp [get?_filter, get?_insert, get?_assign, here]

theorem filter_erase (m : SortedMap K V) (keep : K → V → Bool) (key : K) :
    (m.erase key).filter keep = (m.filter keep).erase key := by
  refine ext_get? fun probe => ?_
  by_cases here : key = probe <;> simp [get?_filter, get?_erase, here]

theorem mem_keys_insertAll {m : SortedMap K V} {entries : List (K × V)} {key : K} :
    key ∈ (m.insertAll entries).keys ↔ key ∈ m.keys ∨ key ∈ entries.map Prod.fst := by
  induction entries generalizing m with
  | nil => simp [insertAll]
  | cons e rest ih =>
    rw [insertAll_cons, ih, mem_keys_insert, List.map_cons, List.mem_cons, or_assoc, or_left_comm]

theorem get?_insertAll_map {m : SortedMap K V} {keys : List K} {value : K → V} {key : K} :
    (m.insertAll (keys.map fun k => (k, value k))).get? key =
      if key ∈ keys then some (value key) else m.get? key := by
  induction keys generalizing m with
  | nil => simp [insertAll]
  | cons k rest ih =>
    rw [List.map_cons, insertAll_cons, ih, get?_insert]
    by_cases same : k = key
    · subst same
      simp
    · have other : key ≠ k := fun h => same h.symm
      simp [same, other]

theorem mem_of_get?_insertAll {m : SortedMap K V} {entries : List (K × V)} {key : K} {value : V}
    (found : (m.insertAll entries).get? key = some value) :
    (key, value) ∈ entries ∨ m.get? key = some value := by
  induction entries generalizing m with
  | nil => exact .inr found
  | cons e rest ih =>
    rw [insertAll_cons] at found
    rcases ih found with member | earlier
    · exact .inl (List.mem_cons_of_mem _ member)
    · rw [get?_insert] at earlier
      by_cases same : e.1 = key
      · subst same
        simp at earlier
        exact .inl (by simp [← earlier])
      · rw [if_neg same] at earlier
        exact .inr earlier

theorem size_insertAll {m : SortedMap K V} {entries : List (K × V)}
    (distinct : (entries.map Prod.fst).Nodup) (fresh : ∀ key ∈ entries.map Prod.fst, key ∉ m.keys) :
    (m.insertAll entries).size = m.size + entries.length := by
  -- The map grows as the entries are inserted, and keeps clear of the keys still to come.
  induction entries generalizing m with
  | nil => rfl
  | cons e rest ih =>
    obtain ⟨absent, distinctRest⟩ := List.nodup_cons.1 distinct
    rw [insertAll_cons, ih distinctRest, size_insert (fresh e.1 (by simp)), List.length_cons]
    · omega
    · intro key member present
      rcases mem_keys_insert.1 present with rfl | present
      · exact absent member
      · exact fresh key (List.mem_cons_of_mem _ member) present

theorem get?_ofList {entries : List (K × V)} (distinct : (entries.map Prod.fst).Nodup) {key : K}
    {value : V} : (ofList entries).get? key = some value ↔ (key, value) ∈ entries := by
  constructor
  · intro found
    simpa using mem_of_get?_insertAll found
  · intro member
    have listed : key ∈ (ofList entries).keys := by
      rw [ofList, mem_keys_insertAll]
      exact .inr (List.mem_map_of_mem member)
    obtain ⟨other, found⟩ := mem_keys_iff.1 listed
    have memberToo : (key, other) ∈ entries := by
      simpa using mem_of_get?_insertAll found
    -- The key is listed once only.
    have same : (key, other) = (key, value) :=
      List.inj_on_of_nodup_map distinct memberToo member rfl
    rw [found, (Prod.mk.inj same).2]

theorem ofList_perm {entries others : List (K × V)} (perm : entries.Perm others)
    (distinct : (entries.map Prod.fst).Nodup) : ofList entries = ofList others := by
  have distinctToo : (others.map Prod.fst).Nodup := (perm.map Prod.fst).nodup_iff.1 distinct
  refine ext_get? fun key => Option.ext fun value => ?_
  rw [get?_ofList distinct, get?_ofList distinctToo, perm.mem_iff]

theorem entries_ofList_perm {entries : List (K × V)} (distinct : (entries.map Prod.fst).Nodup) :
    (ofList entries).entries.Perm entries := by
  have distinctToo : (ofList entries).entries.Nodup := .of_map Prod.fst (ofList entries).keys_nodup
  refine (List.perm_ext_iff_of_nodup distinctToo (.of_map Prod.fst distinct)).2 fun e => ?_
  rw [← get?_eq_some_iff, get?_ofList distinct]

theorem ofList_entries (m : SortedMap K V) : ofList m.entries = m := by
  refine ext_get? fun key => Option.ext fun value => ?_
  rw [get?_ofList m.keys_nodup, get?_eq_some_iff]

end DecidableKeys

end SortedMap

end CellLedger
