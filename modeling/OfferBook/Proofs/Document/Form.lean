import OfferBook.Model.Kind
import OfferBook.Proofs.Document.Change

/-! # Forms of rows

What the fields of a table's rows may be, and how that is kept.

* `Form` — a condition for each of some fields; `Form.Admits` — a row meets them.
* `Regular` — the rows of a table have a form and are numbered from one on, without a gap;
  `Regular.exists_id` — the ids of such rows; `Consecutive.rising` — they rise.
* `Change.Meets` — a change that gives the fields of a table values of its form;
  `Change.Meets.admits` — such a change leaves rows that have the form.
* `Change.Suits` — one that leaves ids alone besides; `Regular.applyAll` — such changes keep the
  table regular.
-/

namespace OfferBook

/-! ## Fields -/

namespace Field

/-- A text. -/
def IsText (v : Option Json) : Prop := ∃ s, v = some (.text s)

/-- A text other than the empty one. -/
def IsFilled (v : Option Json) : Prop := ∃ s, s ≠ "" ∧ v = some (.text s)

/-- A text, null, or nothing. -/
def MayBeText (v : Option Json) : Prop := v = none ∨ v = some .null ∨ IsText v

/-- An integer, of any size. -/
def IsInteger (v : Option Json) : Prop := ∃ n, v = some (.int n)

/-- An integer of any size, null, or nothing. -/
def MayBeInteger (v : Option Json) : Prop := v = none ∨ v = some .null ∨ IsInteger v

/-- An integer of 64 bits, null, or nothing. -/
def MayBeSigned (v : Option Json) : Prop :=
  v = none ∨ v = some .null ∨ ∃ n, fitsSigned n = true ∧ v = some (.int n)

/-- A truth value. -/
def IsFlag (v : Option Json) : Prop := ∃ b, v = some (.bool b)

/-- The name of a kind of sheets. -/
def IsKind (v : Option Json) : Prop := ∃ k : SheetKind, v = some (.text k.name)

/-- The name of an offer's status. -/
def IsStatus (v : Option Json) : Prop := ∃ s : OfferStatus, v = some (.text s.name)

theorem kind_eq_of_name {v : Option Json} {k k' : SheetKind} (h : v = some (.text k.name))
    (h' : v = some (.text k'.name)) : k = k' := by
  have same : k.name = k'.name := Json.text.inj (Option.some.inj (h.symm.trans h'))
  cases k <;> cases k' <;> simp_all [SheetKind.name]

/-- Nothing. -/
def IsAbsent (v : Option Json) : Prop := v = none

theorem mayBeText_ofOption (s : Option String) : MayBeText (some (Json.ofOption .text s)) := by
  cases s with
  | none => exact .inr (.inl rfl)
  | some s => exact .inr (.inr ⟨s, rfl⟩)

theorem mayBeInteger_ofOption (n : Option Int) : MayBeInteger (some (Json.ofOption .int n)) := by
  cases n with
  | none => exact .inr (.inl rfl)
  | some n => exact .inr (.inr ⟨n, rfl⟩)

theorem mayBeSigned_ofOption {n : Option Int} (h : ∀ i ∈ n, fitsSigned i = true) :
    MayBeSigned (some (Json.ofOption .int n)) := by
  cases n with
  | none => exact .inr (.inl rfl)
  | some n => exact .inr (.inr ⟨n, h n rfl, rfl⟩)

end Field

/-- What some fields of a row must be. -/
abbrev Form := List (String × (Option Json → Prop))

def Form.Admits (form : Form) (row : Record) : Prop := ∀ f ∈ form, f.2 (row.get? f.1)

/-- The form of rows that may have the names of their creators besides. -/
def Form.joined (form : Form) : Form :=
  form.filter (·.1 ≠ "created_by_name") ++ [("created_by_name", Field.MayBeText)]

theorem Form.Admits.joined {form : Form} {row row' : Record} (h : form.Admits row)
    (same : ∀ f ∈ form, f.1 ≠ "created_by_name" → row'.get? f.1 = row.get? f.1)
    (name : Field.MayBeText (row'.get? "created_by_name")) : form.joined.Admits row' := by
  intro f hf
  rcases List.mem_append.mp hf with kept | named
  · obtain ⟨mem, other⟩ := List.mem_filter.mp kept
    rw [same f mem (of_decide_eq_true other)]
    exact h f mem
  · obtain rfl := List.mem_singleton.mp named
    exact name

/-! ## Tables -/

/-- The rows of a table have a form, and the ids one, two and so on. -/
structure Regular (form : Form) (t : String) (doc : Document) : Prop where
  lastId : doc.lastId t = (doc.table t).length
  numbered : ∀ (k : Nat) (row : Record), (doc.table t)[k]? = some row →
    row.get? "id" = some (.int (k + 1))
  admits : ∀ row ∈ doc.table t, form.Admits row

/-- Rows whose ids are their places, counted from one on. -/
def Consecutive (rows : List Record) : Prop :=
  ∀ (k : Nat) (row : Record), rows[k]? = some row → row.get? "id" = some (.int (k + 1))

theorem Regular.consecutive {form : Form} {t : String} {doc : Document}
    (h : Regular form t doc) : Consecutive (doc.table t) := h.numbered

/-- Each row has a smaller id than those that follow. -/
theorem Consecutive.rising {rows : List Record} (h : Consecutive rows) :
    rows.Pairwise fun a b => ∃ i j : Nat, a.get? "id" = some (.int i) ∧
      b.get? "id" = some (.int j) ∧ i < j ∧ j ≤ rows.length := by
  refine List.pairwise_iff_getElem.mpr fun i j hi hj less => ⟨i + 1, j + 1, ?_, ?_, ?_, hj⟩
  · exact h i _ (List.getElem?_eq_getElem hi)
  · exact h j _ (List.getElem?_eq_getElem hj)
  · exact Nat.succ_lt_succ less

namespace Change

/-- A change that gives the fields of a table values of a form. -/
def Meets (now : Instant) (form : Form) (t : String) : Change → Prop
  | .insert s => s.table = t → ∀ f ∈ form, ∀ id, f.2 ((s.row now [] id).get? f.1)
  | .update s => s.table = t → ∀ a ∈ s.assignments, ∀ f ∈ form, f.1 = a.1 →
      f.2 (some (a.2.value now))
  | .advance _ => t ≠ Document.countersTable

theorem Meets.admits {now : Instant} {form : Form} {t : String} {doc : Document} {c : Change}
    (meets : c.Meets now form t) (before : ∀ row ∈ doc.table t, form.Admits row) :
    ∀ row ∈ (c.apply now doc).table t, form.Admits row := by
  cases c with
  | insert s =>
    rw [table_insert]
    split
    · next same =>
      intro row mem
      rcases List.mem_append.mp mem with old | new
      · exact before row old
      · obtain rfl := List.mem_singleton.mp new
        exact fun f hf => meets same.symm f hf _
    · exact before
  | update s =>
    rw [table_update]
    split
    · next same =>
      intro row mem f hf
      obtain ⟨old, hold, rfl⟩ := List.mem_map.mp mem
      unfold updateRow
      split
      · -- The field is left alone, or it gets a value that has its form.
        rcases get?_assign_cases (s.bound now []).1 old f.1 with same | ⟨value, hv, given⟩
        · rw [same]
          exact before old hold f hf
        · rw [given]
          rw [Update.bound_fst] at hv
          obtain ⟨a, ha, hv⟩ := List.mem_map.mp hv
          obtain ⟨named, rfl⟩ := Prod.mk.inj hv
          exact meets same.symm a ha f hf named.symm
      · exact before old hold f hf
    · exact before
  | advance key =>
    rw [table_advance key meets]
    exact before

/-- A change that leaves ids alone and gives the fields of a table values of a form. -/
def Suits (now : Instant) (form : Form) (t : String) : Change → Prop
  | .insert s => s.table = t → ((s.assignments now []).map Prod.fst).Nodup ∧
      "id" ∉ (s.assignments now []).map Prod.fst ∧
      ∀ f ∈ form, ∀ id, f.2 ((s.row now [] id).get? f.1)
  | .update s => s.table = t → ∀ a ∈ s.assignments,
      a.1 ≠ "id" ∧ ∀ f ∈ form, f.1 = a.1 → f.2 (some (a.2.value now))
  | .advance _ => t ≠ Document.countersTable

theorem Suits.meets {now : Instant} {form : Form} {t : String} {c : Change}
    (h : c.Suits now form t) : c.Meets now form t := by
  cases c with
  | insert s => exact fun same => (h same).2.2
  | update s => exact fun same a ha => (h same a ha).2
  | advance key => exact h

end Change

namespace Regular

variable {form : Form} {t : String} {doc : Document} {now : Instant}

/-- A row has an id, one of those that the table gave out. -/
theorem exists_id (h : Regular form t doc) {row : Record} (mem : row ∈ doc.table t) :
    ∃ n, row.get? "id" = some (.int n) ∧ 1 ≤ n ∧ n ≤ doc.lastId t := by
  obtain ⟨k, inside, rfl⟩ := List.getElem_of_mem mem
  refine ⟨k + 1, h.numbered k _ (List.getElem?_eq_getElem inside), by omega, ?_⟩
  rw [h.lastId]
  omega

theorem of_eq {doc' : Document} (h : Regular form t doc) (rows : doc'.table t = doc.table t)
    (ids : doc'.lastId t = doc.lastId t) : Regular form t doc' := by
  constructor
  · rw [ids, rows, h.lastId]
  · rw [rows]
    exact h.numbered
  · rw [rows]
    exact h.admits

theorem insert (h : Regular form t doc) {s : Insert} (suits : (Change.insert s).Suits now form t) :
    Regular form t ((Change.insert s).apply now doc) := by
  by_cases ht : t = s.table
  · subst ht
    obtain ⟨distinct, unnamed, -⟩ := suits rfl
    have rows : ((Change.insert s).apply now doc).table s.table =
        doc.table s.table ++ [s.row now [] (doc.lastId s.table + 1)] := by
      rw [Change.table_insert, if_pos rfl]
    refine ⟨?_, fun k row hk => ?_, suits.meets.admits h.admits⟩
    · rw [Change.lastId_insert, if_pos rfl, rows, h.lastId]
      simp
    · rw [rows] at hk
      -- Ids are places, as no row is ever taken away.
      rcases getElem?_concat_cases hk with old | ⟨rfl, rfl⟩
      · exact h.numbered k row old
      · rw [Insert.get?_row_id distinct unnamed, h.lastId]
  · exact h.of_eq (by rw [Change.table_insert, if_neg ht]) (by rw [Change.lastId_insert, if_neg ht])

theorem update (h : Regular form t doc) {s : Update} (suits : (Change.update s).Suits now form t) :
    Regular form t ((Change.update s).apply now doc) := by
  by_cases ht : t = s.table
  · subst ht
    have rows : ((Change.update s).apply now doc).table s.table =
        (doc.table s.table).map (Change.updateRow now s) := by
      rw [Change.table_update, if_pos rfl]
    refine ⟨?_, fun k row hk => ?_, suits.meets.admits h.admits⟩
    · rw [Change.lastId_update, rows, List.length_map, h.lastId]
    · rw [rows, List.getElem?_map] at hk
      obtain ⟨old, hold, rfl⟩ := Option.map_eq_some_iff.mp hk
      rw [Change.get?_updateRow_of_notMem, h.numbered k old hold]
      intro named
      obtain ⟨a, ha, named⟩ := List.mem_map.mp named
      exact (suits rfl a ha).1 named
  · exact h.of_eq (by rw [Change.table_update, if_neg ht]) (Change.lastId_update s t)

theorem apply (h : Regular form t doc) {c : Change} (suits : c.Suits now form t) :
    Regular form t (c.apply now doc) := by
  cases c with
  | insert s => exact h.insert suits
  | update s => exact h.update suits
  | advance key =>
    exact h.of_eq (Change.table_advance key suits) (Change.lastId_advance key suits)

theorem applyAll (h : Regular form t doc) {changes : List Change}
    (suits : ∀ c ∈ changes, c.Suits now form t) :
    Regular form t (Change.applyAll now changes doc) :=
  Change.applyAll_induction (fun c hc _ h => h.apply (suits c hc)) h

end Regular

end OfferBook
