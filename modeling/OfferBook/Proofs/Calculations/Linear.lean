import OfferBook.Proofs.Office.Growth

/-! # Linear rows

* `Linear` — rows that are the versions one, two and so on, each naming the one before it as its
  parent, of which only the last may be current.
* `Linear.map`, `Linear.concat` — what rows may become without losing this.
* `Linear.getLast?_of_newest` — the row with the highest version is the last one.
* `Linear.annotated`, `Linear.retired` — the rows of a chain after annotations, and after they
  cease to be current.
-/

namespace OfferBook

/-- Whether a row is marked as the current one of its chain. -/
def Calculations.isCurrent (row : Record) : Bool := row.get? "is_current" = some (.bool true)

theorem Calculations.isCurrent_iff {row : Record} :
    isCurrent row = true ↔ row.get? "is_current" = some (.bool true) := decide_eq_true_iff

/-- Rows that are successive versions, of which only the last may be current. -/
structure Linear (rows : List Record) : Prop where
  version : ∀ (k : Nat) (row : Record), rows[k]? = some row →
    row.get? "version" = some (.int (k + 1))
  root : ∀ row : Record, rows[0]? = some row → row.get? "parent_version_id" = some .null
  parent : ∀ (k : Nat) (row next : Record), rows[k]? = some row → rows[k + 1]? = some next →
    ∃ id : Int, row.get? "id" = some (.int id) ∧
      next.get? "parent_version_id" = some (.int id)
  current : ∀ (k : Nat) (row : Record), rows[k]? = some row →
    row.get? "is_current" = some (.bool true) → k + 1 = rows.length

namespace Linear

variable {rows : List Record}

theorem nil : Linear [] := by
  constructor <;> simp

/-- Rows may be changed elsewhere, and they may cease to be current. -/
theorem map (h : Linear rows) {f : Record → Record}
    (keeps : ∀ row ∈ rows, ∀ column ∈ ["id", "version", "parent_version_id"],
      (f row).get? column = row.get? column)
    (ceases : ∀ row ∈ rows, (f row).get? "is_current" = some (.bool true) →
      row.get? "is_current" = some (.bool true)) : Linear (rows.map f) := by
  constructor
  · intro k row' hk
    obtain ⟨row, hrow, rfl⟩ := List.getElem?_map .. ▸ hk |> Option.map_eq_some_iff.mp
    rw [keeps row (List.mem_of_getElem? hrow) _ (by simp)]
    exact h.version k row hrow
  · intro row' hk
    obtain ⟨row, hrow, rfl⟩ := List.getElem?_map .. ▸ hk |> Option.map_eq_some_iff.mp
    rw [keeps row (List.mem_of_getElem? hrow) _ (by simp)]
    exact h.root row hrow
  · intro k row' next' hk hnext
    obtain ⟨row, hrow, rfl⟩ := List.getElem?_map .. ▸ hk |> Option.map_eq_some_iff.mp
    obtain ⟨next, hnext', rfl⟩ := List.getElem?_map .. ▸ hnext |> Option.map_eq_some_iff.mp
    rw [keeps row (List.mem_of_getElem? hrow) _ (by simp),
      keeps next (List.mem_of_getElem? hnext') _ (by simp)]
    exact h.parent k row next hrow hnext'
  · intro k row' hk current
    obtain ⟨row, hrow, rfl⟩ := List.getElem?_map .. ▸ hk |> Option.map_eq_some_iff.mp
    rw [List.length_map]
    exact h.current k row hrow (ceases row (List.mem_of_getElem? hrow) current)

theorem concat (h : Linear rows) {row : Record}
    (version : row.get? "version" = some (.int (rows.length + 1)))
    (parent : match rows.getLast? with
      | none => row.get? "parent_version_id" = some .null
      | some last => ∃ id : Int, last.get? "id" = some (.int id) ∧
          row.get? "parent_version_id" = some (.int id))
    (off : ∀ row ∈ rows, row.get? "is_current" ≠ some (.bool true)) : Linear (rows ++ [row]) := by
  -- Each field: what it says of the old rows is known, the new row is the last one.
  constructor
  · intro k r hk
    rcases getElem?_concat_cases hk with old | ⟨rfl, rfl⟩
    · exact h.version k r old
    · exact version
  · intro r hk
    rcases getElem?_concat_cases hk with old | ⟨empty, rfl⟩
    · exact h.root r old
    · have : rows = [] := List.length_eq_zero_iff.mp empty.symm
      simpa [this] using parent
  · intro k r next hk hnext
    rcases getElem?_concat_cases hnext with old | ⟨last, rfl⟩
    · refine h.parent k r next ?_ old
      rwa [List.getElem?_append_left] at hk
      exact Nat.lt_of_succ_lt (List.getElem?_eq_some_iff.mp old).1
    · -- The row before the new one is the last of the old ones.
      have found : rows.getLast? = some r := by
        rw [List.getLast?_eq_getElem?, ← last, Nat.add_sub_cancel]
        rwa [List.getElem?_append_left (by omega)] at hk
      rwa [found] at parent
  · intro k r hk current
    rcases getElem?_concat_cases hk with old | ⟨rfl, rfl⟩
    · exact absurd current (off r (List.mem_of_getElem? old))
    · simp

theorem getLast?_of_newest (h : Linear rows) (short : rows.length < Double.exactLimit)
    {row : Record} (mem : row ∈ rows)
    (newest : ∀ other ∈ rows,
      (Json.compareValues (other.get? "version") (row.get? "version")).isLE = true) :
    rows.getLast? = some row := by
  obtain ⟨k, hk⟩ := List.mem_iff_getElem?.mp mem
  have inside := (List.getElem?_eq_some_iff.mp hk).1
  obtain ⟨last, hlast⟩ : ∃ last, rows[rows.length - 1]? = some last :=
    ⟨_, List.getElem?_eq_getElem (by omega)⟩
  rw [List.getLast?_eq_getElem?]
  rcases Nat.lt_or_ge (k + 1) rows.length with less | reached
  · -- The last row would have a higher version.
    have higher := newest last (List.mem_of_getElem? hlast)
    have order := Json.compareValues_int (a := k + 1) (b := rows.length - 1 + 1) (by omega)
      (by omega)
    rw [h.version k row hk, h.version _ last hlast, ← Json.compareValues_swap] at higher
    rw [Int.natCast_succ, Int.natCast_succ] at order
    rw [order] at higher
    exact absurd higher (by decide)
  · have : rows.length - 1 = k := by omega
    rw [this]
    exact hk

theorem filter_isCurrent (h : Linear rows) {row : Record} (last : rows.getLast? = some row)
    (current : Calculations.isCurrent row = true) :
    rows.filter Calculations.isCurrent = [row] := by
  obtain ⟨before, rfl⟩ := List.getLast?_eq_some_iff.mp last
  -- A row before the last cannot be current, as its place is not the last.
  have off : before.filter Calculations.isCurrent = [] := by
    refine List.filter_eq_nil_iff.mpr fun other mem shown => ?_
    obtain ⟨k, hk⟩ := List.mem_iff_getElem?.mp mem
    have inside := (List.getElem?_eq_some_iff.mp hk).1
    have := h.current k other (by rwa [List.getElem?_append_left inside])
      (Calculations.isCurrent_iff.mp shown)
    simp only [List.length_append, List.length_singleton] at this
    omega
  rw [List.filter_append, off, List.filter_cons_of_pos current]
  rfl

end Linear

/-! ## What becomes of a chain -/

namespace Calculations

variable {rows : List Record} {uuid : String}

theorem filter_isOf_map {f : Record → Record}
    (keeps : ∀ row, (f row).get? "calculation_uuid" = row.get? "calculation_uuid") :
    (rows.map f).filter (isOf uuid) = (rows.filter (isOf uuid)).map f := by
  rw [List.filter_map]
  congr 2
  funext row
  simp [isOf, keeps row]

theorem get?_retired {now : Instant} {column : String} (h : column ≠ "is_current")
    (row : Record) : (Change.updateRow now (retire uuid) row).get? column = row.get? column :=
  Change.get?_updateRow_of_notMem (by simpa [retire] using h) row

theorem not_current_retired {now : Instant} {row : Record} (h : isOf uuid row = true) :
    (Change.updateRow now (retire uuid) row).get? "is_current" = some (.bool false) := by
  have named : row.get? "calculation_uuid" = some (.text uuid) := by simpa [isOf] using h
  have holds : Test.allHold ((retire uuid).bound now []).2 row = true := by
    change (Json.matchesValue (row.get? "calculation_uuid") (.text uuid) && true) = true
    rw [Json.matchesValue_text ⟨uuid, named⟩, named]
    simp
  rw [Change.updateRow, if_pos holds, Update.bound_fst]
  exact Dict.get?_insert_self _ _ _

theorem current_of_retired {now : Instant} {row : Record}
    (h : (Change.updateRow now (retire uuid) row).get? "is_current" = some (.bool true)) :
    row.get? "is_current" = some (.bool true) := by
  unfold Change.updateRow at h
  split at h
  · rw [Update.bound_fst] at h
    have := (Dict.get?_insert_self row "is_current" (.bool false)).symm.trans h
    simp at this
  · exact h

end Calculations

namespace Linear

variable {rows : List Record} {uuid : String}

theorem annotated {f : Record → Record} (h : Linear rows)
    (keeps : ∀ row column, column ∉ annotations → (f row).get? column = row.get? column) :
    Linear (rows.map f) := by
  refine h.map (fun row _ column hc => keeps row column ?_) fun row _ => ?_
  · simp only [List.mem_cons, List.not_mem_nil, or_false] at hc
    rcases hc with rfl | rfl | rfl <;> decide
  · rw [keeps row "is_current" (by decide)]
    exact id

theorem retired (h : Linear rows) (now : Instant) :
    Linear (rows.map (Change.updateRow now (Calculations.retire uuid))) := by
  refine h.map (fun row _ column hc => Calculations.get?_retired ?_ row)
    fun row _ => Calculations.current_of_retired
  simp only [List.mem_cons, List.not_mem_nil, or_false] at hc
  rcases hc with rfl | rfl | rfl <;> decide

end Linear

end OfferBook
