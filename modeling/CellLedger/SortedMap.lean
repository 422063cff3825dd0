/-!
Finite maps kept in ascending key order, without duplicate keys. Reading is `get?`; two maps that
read alike everywhere are equal (`SortedMap.ext_get?`), so a map is determined by its reads.
-/

set_option autoImplicit false

namespace CellLedger

/-- A decidable strict order in which any two keys are comparable. -/
class KeyOrder (K : Type) extends LT K where
  decidable_lt : DecidableLT K
  irrefl : ∀ a : K, ¬ a < a
  trans : ∀ {a b c : K}, a < b → b < c → a < c
  total : ∀ a b : K, a < b ∨ a = b ∨ b < a

instance KeyOrder.instDecidableLT {K : Type} [KeyOrder K] : DecidableLT K :=
  KeyOrder.decidable_lt

instance : KeyOrder Nat where
  decidable_lt := inferInstance
  irrefl := Nat.lt_irrefl
  trans := Nat.lt_trans
  total := Nat.lt_trichotomy

instance : KeyOrder String where
  decidable_lt := inferInstance
  irrefl := String.lt_irrefl
  trans := String.lt_trans
  total a b := by
    by_cases hab : a < b
    · exact .inl hab
    · by_cases hba : b < a
      · exact .inr (.inr hba)
      · exact .inr (.inl (String.le_antisymm (String.not_lt.1 hba) (String.not_lt.1 hab)))

namespace SortedMap

variable {K V W : Type} [KeyOrder K]

def Ascending (entries : List (K × V)) : Prop :=
  entries.Pairwise (fun a b => a.1 < b.1)

def insertEntry (key : K) (value : V) : List (K × V) → List (K × V)
  | [] => [(key, value)]
  | (k, v) :: rest =>
    if key < k then (key, value) :: (k, v) :: rest
    else if k < key then (k, v) :: insertEntry key value rest
    else (key, value) :: rest

def findEntry (key : K) : List (K × V) → Option V
  | [] => none
  | (k, v) :: rest => if k < key ∨ key < k then findEntry key rest else some v

theorem mem_insertEntry {key : K} {value : V} {entries : List (K × V)} {e : K × V}
    (h : e ∈ insertEntry key value entries) : e = (key, value) ∨ e ∈ entries := by
  induction entries with
  | nil => simpa [insertEntry] using h
  | cons head rest ih =>
    obtain ⟨k, v⟩ := head
    simp only [insertEntry] at h
    split at h
    · simpa using h
    · split at h
      · rcases List.mem_cons.1 h with h | h
        · simp [h]
        · rcases ih h with h | h <;> simp [h]
      · rcases List.mem_cons.1 h with h | h <;> simp [h]

theorem Ascending.insertEntry {entries : List (K × V)} (h : Ascending entries)
    (key : K) (value : V) : Ascending (insertEntry key value entries) := by
  induction entries with
  | nil => simp [SortedMap.insertEntry, Ascending]
  | cons head rest ih =>
    obtain ⟨k, v⟩ := head
    have tail := List.pairwise_cons.1 h
    simp only [SortedMap.insertEntry]
    split
    · next lt =>
      refine List.pairwise_cons.2 ⟨fun e he => ?_, h⟩
      rcases List.mem_cons.1 he with rfl | he
      · exact lt
      · exact KeyOrder.trans lt (tail.1 e he)
    · next notLt =>
      split
      · next gt =>
        refine List.pairwise_cons.2 ⟨fun e he => ?_, ih tail.2⟩
        rcases mem_insertEntry he with rfl | he
        · exact gt
        · exact tail.1 e he
      · next notGt =>
        have same : key = k := by
          rcases KeyOrder.total key k with h | h | h
          · exact absurd h notLt
          · exact h
          · exact absurd h notGt
        subst same
        exact List.pairwise_cons.2 ⟨tail.1, tail.2⟩

theorem Ascending.filter {entries : List (K × V)} (h : Ascending entries)
    (keep : K × V → Bool) : Ascending (entries.filter keep) :=
  List.Pairwise.filter keep h

theorem Ascending.mapValues {entries : List (K × V)} (h : Ascending entries) (f : V → W) :
    Ascending (entries.map fun e => (e.1, f e.2)) :=
  List.pairwise_map.2 h

end SortedMap

structure SortedMap (K V : Type) [KeyOrder K] where
  entries : List (K × V)
  ascending : SortedMap.Ascending entries

namespace SortedMap

variable {K V W : Type} [KeyOrder K]

instance [DecidableEq K] [DecidableEq V] : DecidableEq (SortedMap K V) := fun a b =>
  if h : a.entries = b.entries then
    .isTrue (by cases a; cases b; cases h; rfl)
  else
    .isFalse fun same => h (congrArg entries same)

def empty : SortedMap K V := ⟨[], List.Pairwise.nil⟩

instance : EmptyCollection (SortedMap K V) := ⟨empty⟩

instance : Inhabited (SortedMap K V) := ⟨empty⟩

def get? (m : SortedMap K V) (key : K) : Option V := findEntry key m.entries

def contains (m : SortedMap K V) (key : K) : Bool := (m.get? key).isSome

def insert (m : SortedMap K V) (key : K) (value : V) : SortedMap K V :=
  ⟨insertEntry key value m.entries, m.ascending.insertEntry key value⟩

def filter (m : SortedMap K V) (keep : K → V → Bool) : SortedMap K V :=
  ⟨m.entries.filter fun e => keep e.1 e.2, m.ascending.filter _⟩

def erase (m : SortedMap K V) (key : K) : SortedMap K V :=
  m.filter fun k _ => decide (k < key ∨ key < k)

def mapValues (m : SortedMap K V) (f : V → W) : SortedMap K W :=
  ⟨m.entries.map fun e => (e.1, f e.2), m.ascending.mapValues f⟩

/-- Writes the value if there is one, removes the key otherwise. -/
def assign (m : SortedMap K V) (key : K) : Option V → SortedMap K V
  | some value => m.insert key value
  | none => m.erase key

/-- Inserts the entries in order, so that a later entry replaces an earlier one of its key. -/
def insertAll (m : SortedMap K V) (entries : List (K × V)) : SortedMap K V :=
  entries.foldl (fun m e => m.insert e.1 e.2) m

def ofList (entries : List (K × V)) : SortedMap K V := insertAll ∅ entries

def keys (m : SortedMap K V) : List K := m.entries.map Prod.fst

def values (m : SortedMap K V) : List V := m.entries.map Prod.snd

def size (m : SortedMap K V) : Nat := m.entries.length

def isEmpty (m : SortedMap K V) : Bool := m.entries.isEmpty

theorem keys_ascending (m : SortedMap K V) : m.keys.Pairwise (· < ·) :=
  List.pairwise_map.2 m.ascending

theorem findEntry_eq_none {key : K} {entries : List (K × V)}
    (h : ∀ e ∈ entries, e.1 < key ∨ key < e.1) : findEntry key entries = none := by
  induction entries with
  | nil => rfl
  | cons head rest ih =>
    rw [findEntry, if_pos (h head (by simp))]
    exact ih fun e he => h e (List.mem_cons_of_mem _ he)

theorem findEntry_insertEntry (key probe : K) (value : V) {entries : List (K × V)}
    (h : Ascending entries) :
    findEntry probe (insertEntry key value entries) =
      if key < probe ∨ probe < key then findEntry probe entries else some value := by
  induction entries with
  | nil => simp [insertEntry, findEntry]
  | cons head rest ih =>
    obtain ⟨k, v⟩ := head
    have tail := List.pairwise_cons.1 h
    simp only [insertEntry]
    split
    · next lt =>
      simp only [findEntry]
    · next notLt =>
      split
      · next gt =>
        simp only [findEntry, ih tail.2]
        split <;> split <;> rename_i apart₁ apart₂ <;> try rfl
        exfalso
        have same₁ : k = probe := by
          rcases KeyOrder.total k probe with h | h | h
          · exact absurd (.inl h) apart₁
          · exact h
          · exact absurd (.inr h) apart₁
        exact apart₂ (.inr (same₁ ▸ gt))
      · next notGt =>
        have same : key = k := by
          rcases KeyOrder.total key k with h | h | h
          · exact absurd h notLt
          · exact h
          · exact absurd h notGt
        subst same
        simp only [findEntry]
        split <;> rfl

theorem findEntry_filter_of_keep {key : K} {entries : List (K × V)} {keep : K × V → Bool}
    (h : ∀ e ∈ entries, ¬ (e.1 < key ∨ key < e.1) → keep e = true) :
    findEntry key (entries.filter keep) = findEntry key entries := by
  induction entries with
  | nil => rfl
  | cons head rest ih =>
    have below := ih fun e he => h e (List.mem_cons_of_mem _ he)
    by_cases apart : head.1 < key ∨ key < head.1
    · rw [findEntry, if_pos apart, List.filter_cons]
      split
      · rw [findEntry, if_pos apart, below]
      · exact below
    · rw [List.filter_cons, if_pos (h head (by simp) apart), findEntry, findEntry,
        if_neg apart, if_neg apart]

@[simp] theorem get?_empty (key : K) : (∅ : SortedMap K V).get? key = none := rfl

theorem get?_insert (m : SortedMap K V) (key probe : K) (value : V) [DecidableEq K] :
    (m.insert key value).get? probe = if key = probe then some value else m.get? probe := by
  rw [get?, insert, findEntry_insertEntry _ _ _ m.ascending]
  by_cases same : key = probe
  · subst same
    simp [KeyOrder.irrefl]
  · have apart : key < probe ∨ probe < key := by
      rcases KeyOrder.total key probe with h | h | h
      · exact .inl h
      · exact absurd h same
      · exact .inr h
    simp [same, apart, get?]

theorem get?_erase (m : SortedMap K V) (key probe : K) [DecidableEq K] :
    (m.erase key).get? probe = if key = probe then none else m.get? probe := by
  rw [get?, erase, filter]
  by_cases same : key = probe
  · subst same
    rw [if_pos rfl]
    refine findEntry_eq_none fun e he => ?_
    simpa using (List.mem_filter.1 he).2
  · rw [if_neg same, findEntry_filter_of_keep, get?]
    intro e _ close
    have here : e.1 = probe := by
      rcases KeyOrder.total e.1 probe with h | h | h
      · exact absurd (.inl h) close
      · exact h
      · exact absurd (.inr h) close
    have apart : e.1 < key ∨ key < e.1 := by
      rcases KeyOrder.total e.1 key with h | h | h
      · exact .inl h
      · exact absurd (h.symm.trans here) same
      · exact .inr h
    simpa using apart

theorem get?_assign (m : SortedMap K V) (key probe : K) (value : Option V) [DecidableEq K] :
    (m.assign key value).get? probe = if key = probe then value else m.get? probe := by
  cases value with
  | none => exact get?_erase m key probe
  | some v => exact get?_insert m key probe v

theorem findEntry_head {k : K} {v : V} {rest : List (K × V)} :
    findEntry k ((k, v) :: rest) = some v := by
  simp [findEntry, KeyOrder.irrefl]

theorem findEntry_tail {k key : K} {v : V} {rest : List (K × V)} (h : k < key) :
    findEntry key ((k, v) :: rest) = findEntry key rest := by
  simp [findEntry, h]

theorem eq_of_findEntry {a b : List (K × V)} (ha : Ascending a) (hb : Ascending b)
    (h : ∀ key, findEntry key a = findEntry key b) : a = b := by
  induction a generalizing b with
  | nil =>
    cases b with
    | nil => rfl
    | cons e rest =>
      have := h e.1
      rw [findEntry_head] at this
      simp [findEntry] at this
  | cons e as ih =>
    obtain ⟨k, v⟩ := e
    have ta := List.pairwise_cons.1 ha
    cases b with
    | nil =>
      have := h k
      rw [findEntry_head] at this
      simp [findEntry] at this
    | cons f bs =>
      obtain ⟨k', v'⟩ := f
      have tb := List.pairwise_cons.1 hb
      have same : k = k' := by
        rcases KeyOrder.total k k' with lt | eq | gt
        · have found := h k
          rw [findEntry_head, findEntry_eq_none] at found
          · simp at found
          · intro e he
            rcases List.mem_cons.1 he with rfl | he
            · exact .inr lt
            · exact .inr (KeyOrder.trans lt (tb.1 e he))
        · exact eq
        · have found := h k'
          rw [findEntry_head, findEntry_eq_none] at found
          · simp at found
          · intro e he
            rcases List.mem_cons.1 he with rfl | he
            · exact .inr gt
            · exact .inr (KeyOrder.trans gt (ta.1 e he))
      subst same
      have values : v = v' := by simpa [findEntry_head] using h k
      subst values
      rw [ih ta.2 tb.2]
      intro key
      rcases KeyOrder.total k key with lt | eq | gt
      · simpa [findEntry_tail lt] using h key
      · subst eq
        rw [findEntry_eq_none fun e he => .inr (ta.1 e he),
          findEntry_eq_none fun e he => .inr (tb.1 e he)]
      · rw [findEntry_eq_none fun e he => .inr (KeyOrder.trans gt (ta.1 e he)),
          findEntry_eq_none fun e he => .inr (KeyOrder.trans gt (tb.1 e he))]

theorem ext_get? {a b : SortedMap K V} (h : ∀ key, a.get? key = b.get? key) : a = b := by
  have same := eq_of_findEntry a.ascending b.ascending h
  cases a
  cases b
  cases same
  rfl

end SortedMap

end CellLedger
