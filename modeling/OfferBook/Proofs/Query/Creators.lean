import OfferBook.Office.Accounts
import OfferBook.Proofs.Document.Form
import OfferBook.Proofs.Query.Joining
import OfferBook.Proofs.Query.Sorting

/-! # Rows with their creators

Calculations and offers are listed together with the users who made them.

* `Creators.join` — how users are found.
* `Creators.rows_joined`, `Creators.rows_kept`, `Creators.shown_mem_rows` — which rows are listed.
* `Creators.get?_shown` — all fields are those of the stored row, apart from the labels;
  `Creators.get?_name_shown` — what stands for the name of the creator.
* `Creators.admits_shown` — the rows have the form of stored ones, with a name.
-/

namespace OfferBook

namespace Creators

/-- The users as they are joined to calculations and offers. -/
def join (shortName : String) : Join :=
  ⟨Accounts.table, "u", ⟨some shortName, "created_by"⟩, ⟨some "u", "id"⟩⟩

/-- The parts of the two lists that the services ask for. -/
structure Asked (shortName : String) (labels : List Projection) : Prop where
  known : shortName = "c" ∨ shortName = "o"
  labelled : labels = [name] ∨ labels = [name, email]

/-- Neither a label nor a field of a joined user. -/
def Stays (field : String) : Prop :=
  field ≠ "created_by_name" ∧ field ≠ "created_by_email" ∧ ¬ "u_".toList <+: field.toList

instance (field : String) : Decidable (Stays field) := inferInstanceAs (Decidable (_ ∧ _))

variable {t shortName orderBy field : String} {labels : List Projection}
  {conditions : List Condition} {now : Instant} {doc : Document} {row : Record}

/-- Rows are listed as they are shown, sorted, where all conditions hold of what is shown. -/
theorem rows_joined : (joined t shortName labels conditions orderBy).rows now [] doc =
    OrderBy.sort (some (join shortName)) ⟨⟨some shortName, orderBy⟩, true⟩
      (((doc.table t).map ((joined t shortName labels conditions orderBy).shown doc)).filter
        (Test.allHold (conditions.map (Condition.test now (some (join shortName)))))) :=
  Select.rows_nil _ _ _

theorem shown_mem_rows (there : row ∈ doc.table t)
    (holds : Test.allHold (conditions.map (Condition.test now (some (join shortName))))
      ((joined t shortName labels conditions orderBy).shown doc row) = true) :
    (joined t shortName labels conditions orderBy).shown doc row ∈
      (joined t shortName labels conditions orderBy).rows now [] doc := by
  rw [rows_joined, OrderBy.mem_sort]
  exact List.mem_filter.mpr ⟨List.mem_map_of_mem there, holds⟩

theorem get?_shown (asked : Asked shortName labels) (stays : Stays field) :
    ((joined t shortName labels conditions orderBy).shown doc row).get? field =
      row.get? field := by
  have other : field ∉ (joined t shortName labels conditions orderBy).labels := by
    have among : ∀ label ∈ (joined t shortName labels conditions orderBy).labels,
        label ∈ ["created_by_name", "created_by_email"] := by
      rcases asked.known with rfl | rfl <;> rcases asked.labelled with rfl | rfl <;>
        exact of_decide_eq_true rfl
    intro label
    rcases List.mem_cons.mp (among field label) with same | same
    · exact stays.1 same
    · exact stays.2.1 (List.mem_singleton.mp same)
  have keyed : Scope.isJoined (some (join shortName)) ⟨some shortName, "created_by"⟩ ≠
      Scope.isJoined (some (join shortName)) ⟨some "u", "id"⟩ := by
    rcases asked.known with rfl | rfl <;> decide
  rw [Select.get?_shown_of_notMem other,
    @Select.attach_projecting_nil _ (join shortName) _ _ rfl keyed]
  split
  · rfl
  · refine Select.get?_merge_of_ne fun name same => stays.2.2 (same ▸ ?_)
    exact @Select.joinedField_starts (join shortName) name

/-- Rows that are not deleted are listed as they are shown. -/
theorem rows_kept (asked : Asked shortName labels) (now : Instant) :
    (joined t shortName labels [.isNull ⟨some shortName, "deleted_at"⟩] "id").rows now [] doc =
      OrderBy.sort (some (join shortName)) ⟨⟨some shortName, "id"⟩, true⟩
        (((doc.table t).filter fun row => Json.isMissing (row.get? "deleted_at")).map
          ((joined t shortName labels [.isNull ⟨some shortName, "deleted_at"⟩] "id").shown
            doc)) := by
  have kept (row : Record) : Test.allHold ([.isNull ⟨some shortName, "deleted_at"⟩].map
      (Condition.test now (some (join shortName))))
      ((joined t shortName labels [.isNull ⟨some shortName, "deleted_at"⟩] "id").shown doc row) =
      Json.isMissing (row.get? "deleted_at") := by
    have stored := @get?_shown t shortName "id" "deleted_at" labels
      [.isNull ⟨some shortName, "deleted_at"⟩] doc row asked (by decide)
    rw [← stored, ← Bool.and_true (Json.isMissing _)]
    rcases asked.known with rfl | rfl <;> rfl
  rw [rows_joined, List.filter_map]
  exact congrArg _ (congrArg _ (List.filter_congr fun row _ => kept row))

/-- The user to whom a row is joined. -/
theorem partner?_eq (known : shortName = "c" ∨ shortName = "o") (users : List Record) :
    (join shortName).partner? users row =
      users.find? fun user => Json.sameKey (user.get? "id") (row.get? "created_by") := by
  rcases known with rfl | rfl <;> rfl

/-- What stands for the name of the creator: the name of the user, if there is one. -/
theorem get?_name_shown (asked : Asked shortName labels) :
    ((joined t shortName labels conditions orderBy).shown doc row).get? "created_by_name" =
      match (join shortName).partner? (doc.table Accounts.table) row with
      | some user => some ((user.get? "name").getD .null)
      | none => row.get? "created_by_name" := by
  have shown : (joined t shortName labels conditions orderBy).shown doc row =
      (joined t shortName labels conditions orderBy).attach doc row := by
    rcases asked.known with rfl | rfl <;> rcases asked.labelled with rfl | rfl <;> rfl
  rw [shown]
  cases found : (join shortName).partner? (doc.table Accounts.table) row with
  | none => rw [Select.attach_of_none rfl found]
  | some partner =>
    have named : ∃ others : List (String × String), "created_by_name" ∉ others.map Prod.snd ∧
        (joined t shortName labels conditions orderBy).projection.filterMap
            (Select.joinedLabel? (some (join shortName))) =
          ("name", "created_by_name") :: others := by
      rcases asked.labelled with rfl | rfl
      · exact ⟨[], by simp, rfl⟩
      · exact ⟨[("email", "created_by_email")], by simp, rfl⟩
    obtain ⟨others, apart, same⟩ := named
    -- The name is written first, and the labels that follow do not write over it.
    rw [Select.attach_of_partner rfl found, same, Select.merge, List.foldl_cons,
      get?_foldl_insert_of_notMem apart, Dict.get?_insert_self]

/-- The name of a creator is a text or missing. -/
theorem mayBeText_name (asked : Asked shortName labels)
    (users : ∀ user ∈ doc.table Accounts.table, Field.MayBeText (user.get? "name"))
    (unnamed : Field.IsAbsent (row.get? "created_by_name")) :
    Field.MayBeText (((joined t shortName labels conditions orderBy).shown doc row).get?
      "created_by_name") := by
  rw [get?_name_shown asked]
  cases found : (join shortName).partner? (doc.table Accounts.table) row with
  | none => exact .inl unnamed
  | some partner =>
    have text := users partner (List.mem_of_find?_eq_some found)
    dsimp only
    cases name : partner.get? "name" with
    | none => exact .inr (.inl rfl)
    | some v => exact name ▸ text

/-- A row of a form keeps it when it is listed, and may have the name of its creator then. -/
theorem admits_shown {form : Form} (asked : Asked shortName labels)
    (users : ∀ user ∈ doc.table Accounts.table, Field.MayBeText (user.get? "name"))
    (stays : ∀ f ∈ form, f.1 ≠ "created_by_name" → Stays f.1)
    (unnamed : ("created_by_name", Field.IsAbsent) ∈ form) (admits : form.Admits row) :
    form.joined.Admits ((joined t shortName labels conditions orderBy).shown doc row) :=
  admits.joined (fun f mem other => get?_shown asked (stays f mem other))
    (mayBeText_name asked users (admits _ unnamed))

end Creators

end OfferBook
