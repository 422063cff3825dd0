import CellLedger.Proofs.Operation.Execute

/-!
What a preview tells of an execution on the same contents: `preview_foretells_execution`. On a store
whose reads are not refused a preview is answered, and nothing but reads is counted and logged
(`preview_of_readable`).
-/

set_option autoImplicit false

namespace CellLedger

namespace Store

/-- No read from now on is refused. -/
def Readable (s : Store) : Prop := ∀ number, s.reads < number → s.faults.readFault? number = none

theorem Readable.later {s : Store} (readable : s.Readable) {reads : Nat} (later : s.reads ≤ reads)
    (trace : Array Access) : Readable { s with reads, trace } :=
  fun number above => readable number (by simp only at above; omega)

theorem get_of_readable {s : Store} (readable : s.Readable) (a : Address) :
    ∃ trace, s.get a = (.ok (s.cells.get? a), { s with reads := s.reads + 1, trace }) := by
  refine ⟨s.trace.push ⟨.get, a, false⟩, ?_⟩
  simp only [get, readable (s.reads + 1) (by omega), log]

end Store

/-- The preview tells what an execution reports, of whose records it shows at most `limit`. -/
structure OperationPreview.Foretells (p : OperationPreview) (limit : Nat) (r : OperationResult) :
    Prop where
  modified : p.cellsModified = r.cellsModified
  total : p.totalChanges = r.changes.size
  skipped : p.cellsSkipped = r.cellsProcessed - r.cellsModified
  formulas : p.formulaCells = r.changes.values.countP (·.isFormula)
  values : p.valueCells = r.changes.size - p.formulaCells
  warnings : p.warnings = r.warnings
  sample : p.changes = r.changes.values.take (min limit r.changes.size)
  counted : p.previewCount = p.changes.length
  truncated : p.isTruncated = true ↔ p.changes.length < r.changes.size

/-- All counts agree, and the records shown are the first ones of the execution, row by row. -/
structure OperationPreview.Matches (p : OperationPreview) (limit : Nat) (r : OperationResult) :
    Prop extends p.Foretells limit r where
  executed : p.totalChanges = r.cellsModified
  divided : p.formulaCells + p.valueCells = r.changes.size
  rows : p.changes.map (·.address) = r.changes.keys.take limit
  missing : p.isTruncated = true ↔ ∃ c ∈ r.changes.values, c ∉ p.changes

namespace Operation

/-- The records of an execution on these contents, row by row. -/
def prospects (op : Operation) (cells : Cells) : List Change :=
  op.selection.cells.filterMap fun a => op.prospect? a (cells.get? a)

theorem values_changesOn (op : Operation) (cells : Cells) :
    (op.changesOn cells).values = op.prospects cells := by
  let entry (a : Address) : Option (Address × Change) :=
    (op.prospect? a (cells.get? a)).map fun c => (a, c)
  have ascending : SortedMap.Ascending (op.selection.cells.filterMap entry) := by
    refine List.pairwise_filterMap.2 (op.selection.ascending.imp fun below e first f second => ?_)
    obtain ⟨_, _, rfl⟩ := Option.map_eq_some_iff.1 first
    obtain ⟨_, _, rfl⟩ := Option.map_eq_some_iff.1 second
    exact below
  have same : op.changesOn cells = ⟨op.selection.cells.filterMap entry, ascending⟩ := by
    refine SortedMap.ext_get? fun a => ?_
    ext c
    rw [get?_changesOn, SortedMap.get?_eq_some_iff, List.mem_filterMap]
    by_cases member : a ∈ op.selection.cells
    · simp [entry, member]
    · simp [entry, member]
  rw [same, SortedMap.values, List.map_filterMap]
  simp [prospects, entry, Function.comp_def]

theorem isFormula_changeOf (op : Operation) (a : Address) (before after : Option Value) :
    (op.changeOf a before after).isFormula = after.any Value.isFormula := by
  cases after with
  | none => rfl
  | some v => cases v <;> rfl

theorem isFormula_of_mem_prospects {op : Operation} {cells : Cells} {c : Change}
    (listed : c ∈ op.prospects cells) : c.isFormula = c.after.any Value.isFormula := by
  obtain ⟨a, _, made⟩ := List.mem_filterMap.1 listed
  obtain ⟨target, _, rfl⟩ := Option.map_eq_some_iff.1 made
  exact op.isFormula_changeOf a _ target

theorem previewOf_foretells (op : Operation) (cells : Cells) (limit : Nat) :
    (op.previewOf (op.prospects cells) limit).Foretells limit (op.report cells) := by
  have size : (op.prospects cells).length = (op.changesOn cells).size := by
    rw [← values_changesOn, SortedMap.values, List.length_map, SortedMap.size]
  have formulas : (op.prospects cells).countP (fun c => c.after.any Value.isFormula) =
      (op.changesOn cells).values.countP (·.isFormula) := by
    rw [values_changesOn]
    exact List.countP_congr fun c listed => by rw [isFormula_of_mem_prospects listed]
  exact
    { modified := size
      total := size
      skipped := by simp only [previewOf, report, resultOf, size]
      formulas := formulas
      values := by simp only [previewOf, report, resultOf, size]
      warnings := by simp only [previewOf, report, resultOf, size]
      sample := by
        simp only [previewOf, report, resultOf, values_changesOn, ← size]
        exact List.take_eq_take_min
      counted := by simp only [previewOf, List.length_take]
      truncated := by
        simp only [previewOf, report, resultOf, List.length_take, ← size, decide_eq_true_eq]
        omega }

theorem previewCells_of_readable (op : Operation) (addresses : List Address) {s : Store}
    (readable : s.Readable) :
    ∃ reads trace, s.reads ≤ reads ∧ op.previewCells addresses s =
      (.ok (addresses.filterMap fun a => op.prospect? a (s.cells.get? a)),
        { s with reads, trace }) := by
  induction addresses generalizing s with
  | nil => exact ⟨s.reads, s.trace, Nat.le_refl _, rfl⟩
  | cons a rest ih =>
    obtain ⟨log, read⟩ := Store.get_of_readable readable a
    obtain ⟨reads, trace, later, run⟩ := ih (readable.later (Nat.le_succ s.reads) log)
    refine ⟨reads, trace, by simp only at later; omega, ?_⟩
    simp only [previewCells, read, run, List.filterMap_cons]
    cases op.prospect? a (s.cells.get? a) <;> rfl

theorem preview_of_readable (op : Operation) (limit : Option Nat) {s : Store}
    (readable : s.Readable) :
    ∃ reads trace, s.reads ≤ reads ∧ op.preview limit s =
      (.ok (op.previewOf (op.prospects s.cells) (limit.getD defaultLimit)),
        { s with reads, trace }) := by
  obtain ⟨reads, trace, later, run⟩ := op.previewCells_of_readable op.selection.cells readable
  exact ⟨reads, trace, later, by simp only [preview, run]; rfl⟩

-- The cells are read in order, and the preview ends at the first refused reading.
theorem previewCells_cases (op : Operation) (cells : List Address) (s : Store) :
    (∃ e t, op.previewCells cells s = (.error e, t) ∧ t.cells = s.cells ∧
        s.Refuses t (· ∈ cells)) ∨
      ∃ t, op.previewCells cells s =
          (.ok (cells.filterMap fun a => op.prospect? a (s.cells.get? a)), t) ∧
        s.Peeks t (· ∈ cells) := by
  induction cells generalizing s with
  | nil => exact .inr ⟨s, rfl, .refl s _⟩
  | cons a rest ih =>
    have within : ∀ b ∈ rest, b ∈ a :: rest := fun b => List.mem_cons_of_mem a
    rcases s.get_cases a with ⟨e, t, read, same, refuses⟩ | ⟨t, read, same, touches⟩
    · refine .inl ⟨e, t, by simp only [previewCells, read], same, refuses.mono fun b here => ?_⟩
      simp [here]
    · have first : s.Touches t (· ∈ a :: rest) := touches.mono fun b here => by simp [here]
      rcases ih t with ⟨e, u, run, sameToo, refuses⟩ | ⟨u, run, peeks⟩
      · refine .inl ⟨e, u, by simp only [previewCells, read, run], sameToo.trans same, ?_⟩
        exact first.refuses (refuses.mono within)
      · refine .inr ⟨u, ?_, .trans ⟨same, first⟩ (peeks.mono within)⟩
        simp only [previewCells, read, run, same, List.filterMap_cons]
        cases op.prospect? a (s.cells.get? a) <;> rfl

theorem preview_cases (op : Operation) (limit : Option Nat) (s : Store) :
    (∃ e t, op.preview limit s = (.error e, t) ∧ t.cells = s.cells ∧
        s.Refuses t (· ∈ op.selection.cells)) ∨
      ∃ t, op.preview limit s =
          (.ok (op.previewOf (op.prospects s.cells) (limit.getD defaultLimit)), t) ∧
        s.Peeks t (· ∈ op.selection.cells) := by
  rcases op.previewCells_cases op.selection.cells s with ⟨e, t, run, refused⟩ | ⟨t, run, peeks⟩
  · exact .inl ⟨e, t, by simp only [preview, run], refused⟩
  · exact .inr ⟨t, by simp only [preview, run, prospects], peeks⟩

theorem preview_peeks (op : Operation) (limit : Option Nat) (s : Store) :
    s.Peeks (op.preview limit s).2 (· ∈ op.selection.cells) := by
  rcases op.preview_cases limit s with ⟨_, _, run, same, refuses⟩ | ⟨_, run, peeks⟩
  · rw [run]
    exact ⟨same, refuses.touches⟩
  · rw [run]
    exact peeks

theorem preview_ok {op : Operation} {limit : Option Nat} {s : Store} {p : OperationPreview}
    (answered : (op.preview limit s).1 = .ok p) :
    p = op.previewOf (op.prospects s.cells) (limit.getD defaultLimit) := by
  rcases op.preview_cases limit s with ⟨_, _, run, _⟩ | ⟨_, run, _⟩
  · simp [run] at answered
  · rw [run] at answered
    exact (Except.ok.inj answered).symm

theorem preview_of_unhindered {op : Operation} {limit : Option Nat} {s : Store}
    (clear : s.Unhindered (op.preview limit s).2) :
    (op.preview limit s).1 =
      .ok (op.previewOf (op.prospects s.cells) (limit.getD defaultLimit)) := by
  rcases op.preview_cases limit s with ⟨_, _, run, _, refuses⟩ | ⟨_, run, _⟩
  · rw [run] at clear
    exact absurd clear refuses.not_unhindered
  · rw [run]

-- Each record is filed under the cell that it names.
theorem addresses_changesOn (op : Operation) (cells : Cells) :
    (op.changesOn cells).values.map (·.address) = (op.changesOn cells).keys := by
  rw [SortedMap.values, SortedMap.keys, List.map_map]
  refine List.map_congr_left ?_
  rintro ⟨a, c⟩ filed
  have found := SortedMap.get?_eq_some_iff.2 filed
  rw [get?_changesOn, Option.ite_none_right_eq_some] at found
  obtain ⟨_, _, rfl⟩ := Option.map_eq_some_iff.1 found.2
  rfl

theorem exists_not_mem_take_iff {l : List Change} (distinct : l.Nodup) (limit : Nat) :
    (∃ c ∈ l, c ∉ l.take limit) ↔ (l.take limit).length < l.length := by
  constructor
  · rintro ⟨c, listed, hidden⟩
    by_contra enough
    have whole : l.take limit = l := (List.take_sublist limit l).eq_of_length_le (by omega)
    rw [whole] at hidden
    exact hidden listed
  · intro fewer
    -- A sample that held every record would be as long as the list of them.
    by_contra none
    have all : l ⊆ l.take limit := fun c listed => by_contra fun hidden => none ⟨c, listed, hidden⟩
    have longer := distinct.length_le_of_subset all
    omega

theorem previewOf_matches (op : Operation) (cells : Cells) (limit : Nat) :
    (op.previewOf (op.prospects cells) limit).Matches limit (op.report cells) := by
  have foretells := op.previewOf_foretells cells limit
  have shown : (op.previewOf (op.prospects cells) limit).changes =
      (op.changesOn cells).values.take limit := by rw [values_changesOn]; rfl
  have distinct : (op.changesOn cells).values.Nodup := by
    refine List.Nodup.of_map (·.address) ?_
    rw [addresses_changesOn]
    exact SortedMap.keys_nodup _
  have size : (op.changesOn cells).values.length = (op.changesOn cells).size := List.length_map _
  refine { foretells with executed := foretells.modified, divided := ?_, rows := ?_, missing := ?_ }
  · have fewer : (op.previewOf (op.prospects cells) limit).formulaCells ≤
        (op.report cells).changes.size := by
      rw [foretells.formulas]
      exact size ▸ List.countP_le_length
    rw [foretells.values]
    omega
  · rw [shown, List.map_take, addresses_changesOn]
    rfl
  · rw [foretells.truncated, shown]
    change _ < (op.changesOn cells).size ↔ _
    rw [← size]
    exact (exists_not_mem_take_iff distinct limit).symm

theorem preview_foretells_execution (op : Operation) (limit : Option Nat) (s : Store) :
    (op.preview limit s).2.cells = s.cells ∧
      (s.Readable → ∃ p, (op.preview limit s).1 = .ok p) ∧
      ∀ p, (op.preview limit s).1 = .ok p → ∀ u : Store, u.cells = s.cells →
        u.Unhindered (op.execute u).2 →
          ∃ r, (op.execute u).1 = .ok r ∧ p.Matches (limit.getD 100) r := by
  refine ⟨(op.preview_peeks limit s).unwritten, fun readable => ?_, fun p answered u same clear => ?_⟩
  · obtain ⟨_, _, _, run⟩ := op.preview_of_readable limit readable
    exact ⟨_, congrArg Prod.fst run⟩
  · obtain ⟨t, run, _⟩ := execute_of_unhindered clear
    refine ⟨op.report s.cells, by rw [run, same], ?_⟩
    rw [preview_ok answered]
    exact op.previewOf_matches s.cells (limit.getD defaultLimit)

theorem preview_foretells_skipped_cell :
    let op : Operation := .setValue
      { selection := .range ⟨0, 0⟩ ⟨0, 2⟩, options := ⟨.text "x", false⟩, writable := rfl }
    let s := Store.ofCells (SortedMap.ofList [(⟨0, 1⟩, .text "kept")])
    s.Readable ∧ s.Unhindered (op.execute s).2 ∧ (op.preview (some 1) s).2.cells = s.cells ∧
      ∃ p r, (op.preview (some 1) s).1 = .ok p ∧ (op.execute s).1 = .ok r ∧ p.Matches 1 r ∧
        p.changes.map (·.address) = [⟨0, 0⟩] ∧ r.changes.keys = [⟨0, 0⟩, ⟨0, 2⟩] ∧
        p.isTruncated = true := by
  intro op s
  have readable : s.Readable := fun _ _ => rfl
  have calm : s.Healthy := rfl
  have clear : s.Unhindered (op.execute s).2 := (op.execute_touches s).unhindered calm
  have recorded : (op.report s.cells).changes.keys = [⟨0, 0⟩, ⟨0, 2⟩] := by decide +kernel
  obtain ⟨unwritten, answers, agrees⟩ := preview_foretells_execution op (some 1) s
  obtain ⟨p, answered⟩ := answers readable
  obtain ⟨r, executed, agree⟩ := agrees p answered s rfl clear
  obtain rfl : op.report s.cells = r := by
    simpa [(execute_of_healthy calm op).1] using executed
  refine ⟨readable, clear, unwritten, p, op.report s.cells, answered, executed, agree, ?_, recorded,
    ?_⟩
  · rw [agree.rows, recorded]
    rfl
  · rw [preview_ok answered]
    decide +kernel

end Operation

end CellLedger
