import CellLedger.Proofs.Store.Access

/-!
Cells on which the last access was a write that was refused. Such a cell is left as it was, however
often it was accessed before; any later access to it that is not refused makes up for the refusal.
-/

set_option autoImplicit false

namespace CellLedger

def Access.isRefusedWrite (x : Access) : Bool := x.refused && decide (x.kind ≠ .get)

def spurned (log : List Access) (a : Address) : Bool :=
  (log.filter fun x => x.address = a).getLast?.any Access.isRefusedWrite

theorem mem_of_spurned {log : List Access} {a : Address} (left : spurned log a = true) :
    a ∈ log.map (·.address) := by
  obtain ⟨x, last, _⟩ := (Option.any_eq_true _ _).1 left
  have member := List.mem_of_getLast? last
  exact List.mem_map.2 ⟨x, by simp at member; exact member⟩

theorem spurned_append (log more : List Access) (a : Address) :
    spurned (log ++ more) a =
      if a ∈ more.map (·.address) then spurned more a else spurned log a := by
  rw [spurned, List.filter_append, List.getLast?_append]
  by_cases accessed : a ∈ more.map (·.address)
  · rw [if_pos accessed, spurned]
    obtain ⟨x, listed, same⟩ := List.mem_map.1 accessed
    have member : x ∈ more.filter fun x => x.address = a := by simp [listed, same]
    cases last : (more.filter fun x => x.address = a).getLast? with
    | none => simp [List.getLast?_eq_none_iff.1 last] at member
    | some y => rfl
  · have none : more.filter (fun x => x.address = a) = [] := by
      refine List.filter_eq_nil_iff.2 fun x listed same => accessed ?_
      exact List.mem_map.2 ⟨x, listed, by simpa using same⟩
    rw [if_neg accessed, none]
    rfl

theorem spurned_of_distinct {log : List Access} (distinct : (log.map (·.address)).Nodup)
    (a : Address) :
    spurned log a = true ↔ ∃ x ∈ log, x.address = a ∧ x.isRefusedWrite = true := by
  induction log with
  | nil => simp [spurned]
  | cons x rest ih =>
    obtain ⟨absent, distinctRest⟩ := List.nodup_cons.1 distinct
    rw [← List.singleton_append, spurned_append, List.singleton_append]
    by_cases later : a ∈ rest.map (·.address)
    · have other : x.address ≠ a := by
        rintro rfl
        exact absent later
      simp [later, ih distinctRest, other]
    · have none : ∀ y ∈ rest, y.address ≠ a := by simpa using later
      have elsewhere : ¬ ∃ y ∈ rest, y.address = a ∧ y.isRefusedWrite = true := by
        rintro ⟨y, listed, same, _⟩
        exact none y listed same
      by_cases same : x.address = a <;> simp [later, spurned, same, elsewhere]

namespace Store

/-- On the way from `s` to `t` exactly these cells were left with a refused write. -/
def Spurns (s t : Store) (cells : Address → Prop) : Prop :=
  ∃ log, s.Logs t log ∧ ∀ a, spurned log a = true ↔ cells a

variable {s t u : Store} {cells wider : Address → Prop} {log : List Access}

theorem Spurns.refl (s : Store) : s.Spurns s fun _ => False := ⟨[], .refl s, by simp [spurned]⟩

-- What was refused is tried again, and only the refusals of the second time count.
theorem Spurns.covered (first : s.Spurns t cells) (second : t.Logs u log)
    (covers : ∀ a, cells a → a ∈ log.map (·.address))
    (left : ∀ a, spurned log a = true ↔ wider a) : s.Spurns u wider := by
  obtain ⟨earlier, logs, before⟩ := first
  refine ⟨earlier ++ log, logs.trans second, fun a => ?_⟩
  rw [spurned_append, ← left a]
  by_cases accessed : a ∈ log.map (·.address)
  · rw [if_pos accessed]
  · have unspurned : ¬ spurned log a = true := fun left => accessed (mem_of_spurned left)
    have uncovered : ¬ cells a := fun spurn => accessed (covers a spurn)
    simp [accessed, before a, unspurned, uncovered]

theorem Spurns.trans (first : s.Spurns t fun _ => False) (second : t.Spurns u cells) :
    s.Spurns u cells := by
  obtain ⟨log, logs, left⟩ := second
  exact first.covered logs (by simp) left

theorem Logs.spurns_one {x : Access} (logs : s.Logs t [x]) :
    s.Spurns t fun a => x.address = a ∧ x.isRefusedWrite = true :=
  ⟨[x], logs, fun a => by simp [spurned_of_distinct]⟩

end Store

end CellLedger
