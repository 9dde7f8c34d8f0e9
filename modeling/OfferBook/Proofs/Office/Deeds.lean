import OfferBook.Proofs.Calculations.Current
import OfferBook.Proofs.Calculations.Linear

/-! # What is done to the lists

The calculations and the offers, as those know them who save and delete them: by the ids and
identifiers that they are told, and without looking into the tables.

* `Deed` — what a call does to a list; `Deed.live` — the ids that are left; `Deed.newest?` — the
  version of a chain that was saved last.
* `Becomes`, `Extends` — what becomes of rows by a deed.
* `Tallies`, `Flagged` — rows that tell what was done; `Tallies.becomes`, `Flagged.extends` — they
  still do so after one more deed.
-/

namespace OfferBook

/-! ## Deeds -/

/-- What a call does to a list. -/
inductive Deed
  | saves (id : Int) (uuid : String)
  | deletes (id : Int)
deriving DecidableEq

namespace Deed

/-- The ids that were saved and have not been deleted since, in the order in which they were. -/
def live (deeds : List Deed) : List Int :=
  deeds.foldl (fun ids deed => match deed with
    | saves id _ => ids ++ [id]
    | deletes id => ids.filter (· ≠ id)) []

/-- The id that was saved last for a chain, deleted or not. -/
def newest? (uuid : String) (deeds : List Deed) : Option Int :=
  deeds.foldl (fun last deed => match deed with
    | saves id chain => if chain = uuid then some id else last
    | deletes _ => last) none

variable (deeds : List Deed)

@[simp] theorem live_saves (id : Int) (uuid : String) :
    live (deeds ++ [.saves id uuid]) = live deeds ++ [id] := by
  rw [live, List.foldl_append]
  rfl

@[simp] theorem live_deletes (id : Int) :
    live (deeds ++ [.deletes id]) = (live deeds).filter (· ≠ id) := by
  rw [live, List.foldl_append]
  rfl

@[simp] theorem newest?_saves (id : Int) (chain uuid : String) :
    newest? uuid (deeds ++ [.saves id chain]) =
      if chain = uuid then some id else newest? uuid deeds := by
  rw [newest?, List.foldl_append]
  rfl

@[simp] theorem newest?_deletes (id : Int) (uuid : String) :
    newest? uuid (deeds ++ [.deletes id]) = newest? uuid deeds := by
  rw [newest?, List.foldl_append]
  rfl

end Deed

/-! ## Rows -/

open Calculations (isKept isNamed isOf markDeleted)

/-- What becomes of the rows of a list by a deed. -/
inductive Becomes (t : String) (rows : List Record) : Option Deed → List Record → Prop
  | same {f : Record → Record}
      (keeps : ∀ row, ∀ column ∈ ["id", "created_by", "deleted_at"],
        (f row).get? column = row.get? column) :
      Becomes t rows none (rows.map f)
  | saves {f : Record → Record} {row : Record} {uuid : String}
      (keeps : ∀ row, ∀ column ∈ ["id", "created_by", "deleted_at"],
        (f row).get? column = row.get? column)
      (id : row.get? "id" = some (.int (rows.length + 1)))
      (creator : Field.MayBeText (row.get? "created_by"))
      (kept : isKept row = true) :
      Becomes t rows (some (.saves (rows.length + 1) uuid)) (rows.map f ++ [row])
  | deletes (now : Instant) (id : Int) :
      Becomes t rows (some (.deletes id)) (rows.map (Change.updateRow now (markDeleted t id)))

/-- What becomes of the versions of chains by a deed. -/
inductive Extends (rows : List Record) : Option Deed → List Record → Prop
  | same {f : Record → Record} {deed : Option Deed}
      (unsaved : ∀ id uuid, deed ≠ some (.saves id uuid))
      (keeps : ∀ row, ∀ column ∈ ["id", "calculation_uuid", "is_current"],
        (f row).get? column = row.get? column) :
      Extends rows deed (rows.map f)
  /-- A version that is saved takes the place of the current one of its chain. -/
  | saves {f : Record → Record} {row : Record} {uuid : String}
      (keeps : ∀ row, ∀ column ∈ ["id", "calculation_uuid"],
        (f row).get? column = row.get? column)
      (others : ∀ row ∈ rows, isOf uuid row = false →
        (f row).get? "is_current" = row.get? "is_current")
      (chain : ∀ row ∈ rows, isOf uuid row = true →
        (f row).get? "is_current" = some (.bool false))
      (id : row.get? "id" = some (.int (rows.length + 1)))
      (own : row.get? "calculation_uuid" = some (.text uuid))
      (current : row.get? "is_current" = some (.bool true)) :
      Extends rows (some (.saves (rows.length + 1) uuid)) (rows.map f ++ [row])

/-- Rows that tell which ids are left. -/
structure Tallies (deeds : List Deed) (rows : List Record) : Prop where
  ids : (rows.filter isKept).map (·.get? "id") = (Deed.live deeds).map fun id => some (.int id)
  creators : ∀ row ∈ rows, Field.MayBeText (row.get? "created_by")

/-- Rows that tell which version of each chain was saved last. -/
def Flagged (deeds : List Deed) (rows : List Record) : Prop :=
  ∀ row ∈ rows, ∃ (id : Int) (uuid : String) (current : Bool),
    row.get? "id" = some (.int id) ∧ row.get? "calculation_uuid" = some (.text uuid) ∧
    row.get? "is_current" = some (.bool current) ∧
    (current = true ↔ Deed.newest? uuid deeds = some id)

section Rows

variable {t : String} {rows rows' : List Record} {deeds : List Deed} {deed : Option Deed}

theorem Becomes.refl (t : String) (rows : List Record) : Becomes t rows none rows := by
  have same : Becomes t rows none (rows.map id) := .same fun _ _ _ => rfl
  rwa [List.map_id] at same

theorem Extends.refl (rows : List Record) : Extends rows none rows := by
  have same : Extends rows none (rows.map id) := .same (fun _ _ => nofun) fun _ _ _ => rfl
  rwa [List.map_id] at same

theorem Tallies.nil : Tallies [] [] := ⟨rfl, List.forall_mem_nil _⟩

theorem Flagged.nil : Flagged [] [] := List.forall_mem_nil _

/-- A deletion marks the rows that it names. -/
theorem isKept_updateRow (now : Instant) (t : String) (id : Int) (row : Record) :
    isKept (Change.updateRow now (markDeleted t id) row) = (isKept row && !isNamed id row) := by
  have tests : Test.allHold ((markDeleted t id).bound now []).2 row =
      (isNamed id row && isKept row) := by
    change (isNamed id row && (isKept row && true)) = _
    rw [Bool.and_true]
  rw [Change.updateRow, tests]
  split
  · next passed =>
    obtain ⟨named, kept⟩ := Bool.and_eq_true_iff.mp passed
    have marked : isKept (assign ((markDeleted t id).bound now []).1 row) = false := by
      rw [isKept, Update.bound_fst]
      exact congrArg Json.isMissing (Dict.get?_insert_self ..)
    rw [marked, named, kept]
    rfl
  · next failed => cases named : isNamed id row <;> cases kept : isKept row <;> simp_all

theorem ids_kept_map {f : Record → Record}
    (id : ∀ row, (f row).get? "id" = row.get? "id")
    (deleted : ∀ row, (f row).get? "deleted_at" = row.get? "deleted_at") :
    ((rows.map f).filter isKept).map (·.get? "id") = (rows.filter isKept).map (·.get? "id") := by
  have kept : isKept ∘ f = isKept := funext fun row => congrArg Json.isMissing (deleted row)
  rw [List.filter_map, kept, List.map_map]
  exact List.map_congr_left fun row _ => id row

theorem ids_kept_updateRow {now : Instant} {id : Int}
    (keeps : ∀ row, (Change.updateRow now (markDeleted t id) row).get? "id" = row.get? "id") :
    ((rows.map (Change.updateRow now (markDeleted t id))).filter isKept).map (·.get? "id") =
      ((rows.filter isKept).map (·.get? "id")).filter (!Json.matchesValue · (.int id)) := by
  have kept : isKept ∘ Change.updateRow now (markDeleted t id) =
      fun row => isKept row && !isNamed id row := funext (isKept_updateRow now t id)
  have left : rows.filter (fun row => isKept row && !isNamed id row) =
      (rows.filter isKept).filter fun row => !isNamed id row := by
    rw [List.filter_filter]
    exact List.filter_congr fun row _ => Bool.and_comm ..
  rw [List.filter_map, kept, left, List.map_map, List.filter_map]
  exact List.map_congr_left fun row _ => keeps row

theorem Tallies.becomes (h : Tallies deeds rows)
    (named : ∀ row ∈ rows, ∃ id : Int, row.get? "id" = some (.int id) ∧ fitsSigned id = true)
    (fits : ∀ id, deed = some (.deletes id) → fitsSigned id = true)
    (becomes : Becomes t rows deed rows') : Tallies (deeds ++ deed.toList) rows' := by
  cases becomes with
  | same keeps =>
    rw [Option.toList_none, List.append_nil]
    refine ⟨?_, List.forall_mem_map.mpr fun row mem => ?_⟩
    · rw [ids_kept_map (keeps · _ (by simp)) (keeps · _ (by simp)), h.ids]
    · rw [keeps row _ (by simp)]
      exact h.creators row mem
  | @saves f row uuid keeps id creator kept =>
    refine ⟨?_, List.forall_mem_append.mpr ⟨List.forall_mem_map.mpr fun row mem => ?_, ?_⟩⟩
    · rw [Option.toList_some, Deed.live_saves, List.filter_append, List.map_append,
        ids_kept_map (keeps · _ (by simp)) (keeps · _ (by simp)), h.ids,
        List.filter_cons_of_pos kept, List.map_append]
      simp [id]
    · rw [keeps row _ (by simp)]
      exact h.creators row mem
    · exact List.forall_mem_singleton.mpr creator
  | deletes now id =>
    have columns (row : Record) (column : String) (other : column ≠ "deleted_at") :
        (Change.updateRow now (markDeleted t id) row).get? column = row.get? column :=
      Change.get?_updateRow_of_notMem (by simpa [markDeleted] using other) row
    refine ⟨?_, List.forall_mem_map.mpr fun row mem => ?_⟩
    · rw [ids_kept_updateRow (columns · _ (by decide)), h.ids, List.filter_map, Option.toList_some,
        Deed.live_deletes]
      refine congrArg _ (List.filter_congr fun i live => ?_)
      -- The id is one of a row, so that it is compared as a number.
      have among : some (Json.int i) ∈ (rows.filter isKept).map (·.get? "id") :=
        h.ids ▸ List.mem_map_of_mem live
      obtain ⟨row, mem, own⟩ := List.mem_map.mp among
      obtain ⟨j, named, short⟩ := named row (List.mem_filter.mp mem).1
      obtain rfl : j = i := by simpa [Json.int] using named.symm.trans own
      simp [Json.matchesValue_int short (fits id rfl)]
    · rw [columns row _ (by decide)]
      exact h.creators row mem

theorem Flagged.extends (h : Flagged deeds rows)
    (numbered : Consecutive rows)
    (extended : Extends rows deed rows') : Flagged (deeds ++ deed.toList) rows' := by
  cases extended with
  | @same f _ unsaved keeps =>
    have newest (uuid : String) :
        Deed.newest? uuid (deeds ++ deed.toList) = Deed.newest? uuid deeds := by
      cases deed with
      | none => rw [Option.toList_none, List.append_nil]
      | some d =>
        cases d with
        | saves id uuid => exact absurd rfl (unsaved id uuid)
        | deletes id => exact Deed.newest?_deletes deeds id uuid
    refine List.forall_mem_map.mpr fun row mem => ?_
    obtain ⟨id, uuid, current, own, chain, flag, last⟩ := h row mem
    refine ⟨id, uuid, current, ?_, ?_, ?_, (newest uuid).symm ▸ last⟩ <;>
      rwa [keeps row _ (by simp)]
  | @saves f new uuid keeps others chain id own current =>
    rw [Option.toList_some]
    refine List.forall_mem_append.mpr ⟨List.forall_mem_map.mpr fun row mem => ?_,
      List.forall_mem_singleton.mpr ⟨_, uuid, true, id, own, current, by simp⟩⟩
    obtain ⟨i, chain', b, own', named, flag, last⟩ := h row mem
    have isOf : isOf uuid row = decide (chain' = uuid) := by simp [Calculations.isOf, named]
    by_cases same : chain' = uuid
    · -- The row is not the one that was saved last any more.
      obtain ⟨k, hk⟩ := List.getElem?_of_mem mem
      have place : i = k + 1 := by simpa [Json.int] using own'.symm.trans (numbered k row hk)
      have inside := (List.getElem?_eq_some_iff.mp hk).1
      refine ⟨i, chain', false, ?_, ?_, chain row mem (by simpa [same] using isOf), ?_⟩
      · rwa [keeps row _ (by simp)]
      · rwa [keeps row _ (by simp)]
      · rw [Deed.newest?_saves, if_pos same.symm, Option.some.injEq]
        constructor
        · exact fun never => absurd never (by decide)
        · intro
          omega
    · refine ⟨i, chain', b, ?_, ?_, ?_, ?_⟩
      · rwa [keeps row _ (by simp)]
      · rwa [keeps row _ (by simp)]
      · rwa [others row mem (by simpa [same] using isOf)]
      · rwa [Deed.newest?_saves, if_neg (Ne.symm same)]

end Rows

end OfferBook
