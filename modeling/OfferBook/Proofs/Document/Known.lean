import OfferBook.Proofs.Document.Change

/-! # Known tables stay

* `Document.Within` — a document has all tables and id counters of another, however filled, and no
  counter is behind.
* `Document.IsKnown` — a document has the known tables; `ensureKnown` leaves it as it is.
* `within_insert`, `within_update`, `within_delete`, `within_advanceCounter` — no change takes a
  table or an id counter away, or counts down.
-/

namespace OfferBook

namespace Dict

variable {α : Type} {d : Dict α} {key k : String}

theorem contains_insert (value : α) (h : d.contains k = true) :
    (d.insert key value).contains k = true := by
  rw [contains, get?_insert]
  split
  · rfl
  · exact h

theorem contains_insertIfNew (value : α) (h : d.contains k = true) :
    (d.insertIfNew key value).contains k = true := by
  rw [contains, get?_insertIfNew]
  split
  · rfl
  · exact h

theorem contains_insertIfNew_self (d : Dict α) (key : String) (value : α) :
    (d.insertIfNew key value).contains key = true := by
  rw [contains, get?_insertIfNew, if_pos rfl]
  rfl

theorem insertIfNew_of_contains (value : α) (h : d.contains key = true) :
    d.insertIfNew key value = d := if_pos h

end Dict

namespace Document

variable {doc doc' doc'' : Document} {t : String}

/-- All tables and id counters of the first document are in the second, and none of the counters
    has a lower value there. -/
structure Within (doc doc' : Document) : Prop where
  tables : ∀ t, doc.hasTable t = true → doc'.hasTable t = true
  counters : ∀ t, doc.counters.contains t = true → doc'.counters.contains t = true
  ids : ∀ t, doc.lastId t ≤ doc'.lastId t

theorem Within.refl (doc : Document) : Within doc doc :=
  ⟨fun _ => id, fun _ => id, fun _ => Int.le_refl _⟩

theorem Within.trans (h : Within doc doc') (h' : Within doc' doc'') : Within doc doc'' where
  tables t ht := h'.tables t (h.tables t ht)
  counters t ht := h'.counters t (h.counters t ht)
  ids t := Int.le_trans (h.ids t) (h'.ids t)

/-! ## Known tables -/

/-- The table is there, and its id counter where it has one. -/
structure Has (doc : Document) (t : String) : Prop where
  table : doc.hasTable t = true
  counter : t ≠ countersTable → doc.counters.contains t = true

theorem Has.mono (h : doc.Has t) (within : Within doc doc') : doc'.Has t :=
  ⟨within.tables t h.table, fun named => within.counters t (h.counter named)⟩

theorem ensureTable_of_has (h : doc.Has t) : doc.ensureTable t = doc := by
  have tables : doc.tables.insertIfNew t [] = doc.tables := Dict.insertIfNew_of_contains _ h.table
  unfold ensureTable
  rw [tables]
  split
  · rfl
  · next named => rw [Dict.insertIfNew_of_contains _ (h.counter named)]

theorem has_ensureTable (doc : Document) (t : String) : (doc.ensureTable t).Has t where
  table := Dict.contains_insertIfNew_self ..
  counter named := by
    simp only [ensureTable, if_neg named]
    exact Dict.contains_insertIfNew_self ..

@[simp] theorem lastId_ensureTable (doc : Document) (name t : String) :
    (doc.ensureTable name).lastId t = doc.lastId t := by
  unfold lastId ensureTable
  dsimp only
  split
  · rfl
  · rw [Dict.get?_insertIfNew]
    split
    · next same => rw [same]; cases doc.counters.get? name <;> rfl
    · rfl

theorem within_ensureTable (doc : Document) (t : String) : Within doc (doc.ensureTable t) where
  tables _ ht := Dict.contains_insertIfNew _ ht
  counters k hk := by
    simp only [ensureTable]
    split
    · exact hk
    · exact Dict.contains_insertIfNew _ hk
  ids k := Int.le_of_eq (lastId_ensureTable doc t k).symm

def IsKnown (doc : Document) : Prop := ∀ t ∈ knownTables, doc.Has t

theorem IsKnown.mono (h : doc.IsKnown) (within : Within doc doc') : doc'.IsKnown :=
  fun t ht => (h t ht).mono within

theorem IsKnown.ensureKnown (h : doc.IsKnown) : doc.ensureKnown = doc := by
  have fixed (names : List String) (has : ∀ t ∈ names, doc.Has t) :
      names.foldl ensureTable doc = doc := by
    induction names with
    | nil => rfl
    | cons t rest ih =>
      rw [List.foldl_cons, ensureTable_of_has (has t List.mem_cons_self)]
      exact ih fun t ht => has t (List.mem_cons_of_mem _ ht)
  exact fixed knownTables h

theorem isKnown_ensureKnown (doc : Document) : doc.ensureKnown.IsKnown := by
  -- What is added early stays while the rest is added.
  have grown (names : List String) (doc : Document) :
      Within doc (names.foldl ensureTable doc) ∧
        ∀ t ∈ names, (names.foldl ensureTable doc).Has t := by
    induction names generalizing doc with
    | nil => exact ⟨.refl doc, by simp⟩
    | cons t rest ih =>
      obtain ⟨within, has⟩ := ih (doc.ensureTable t)
      refine ⟨(within_ensureTable doc t).trans within, fun t' ht' => ?_⟩
      rcases List.mem_cons.mp ht' with rfl | later
      · exact (has_ensureTable doc t').mono within
      · exact has t' later
  exact (grown knownTables doc).2

/-! ## Changes -/

theorem within_setTable (doc : Document) (name : String) (rows : List Record) :
    Within doc (doc.setTable name rows) :=
  ⟨fun _ ht => Dict.contains_insert rows ht, fun _ => id, fun _ => Int.le_refl _⟩

theorem within_append (doc : Document) (name : String) (row : Record) :
    Within doc (doc.append name row) := within_setTable ..

theorem within_nextId (doc : Document) (name : String) : Within doc (doc.nextId name).2 where
  tables _ := id
  counters _ ht := Dict.contains_insert _ ht
  ids t := by
    rw [lastId_nextId]
    split <;> omega

theorem within_advanceCounter (now : Instant) (key : String) (doc : Document) :
    Within doc (doc.advanceCounter now key).2 := by
  unfold advanceCounter
  split
  · exact within_setTable ..
  · exact (within_nextId doc countersTable).trans (within_append ..)

theorem within_insert (now : Instant) (params : List Json) (s : Insert) (doc : Document) :
    Within doc (s.apply now params doc).2 :=
  (within_nextId doc s.table).trans (within_append ..)

theorem within_update (now : Instant) (params : List Json) (s : Update) (doc : Document) :
    Within doc (s.apply now params doc).2 := by
  unfold Update.apply
  dsimp only
  split
  · exact within_setTable ..
  · exact .refl doc

theorem within_delete (now : Instant) (params : List Json) (s : Delete) (doc : Document) :
    Within doc (s.apply now params doc).2 := by
  unfold Delete.apply
  dsimp only
  split
  · exact within_setTable ..
  · exact .refl doc

end Document

end OfferBook
