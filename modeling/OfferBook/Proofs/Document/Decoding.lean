import OfferBook.Proofs.Document.Encoding
import OfferBook.Proofs.Json.Reading
import OfferBook.Store.JsonFile

/-! # What is read as a document

* `Document.kept_of_ofJson?` — what is so of every document that is read from a value.
* `Document.Legible` — which documents can be read from their own texts.
* `JsonFile.proper_of_decode?`, `JsonFile.legible_of_decode?` — what is so of every document that is
  read from a text.
-/

namespace OfferBook

theorem exists_of_mem_mapM {α β : Type _} {f : α → Option β} {l : List α} {bs : List β} {b : β}
    (h : l.mapM f = some bs) (hb : b ∈ bs) : ∃ a ∈ l, f a = some b := by
  induction l generalizing bs with
  | nil =>
    obtain rfl := Option.some.inj h
    exact absurd hb List.not_mem_nil
  | cons a l ih =>
    rw [List.mapM_cons] at h
    obtain ⟨first, ha, h⟩ := Option.bind_eq_some_iff.mp h
    obtain ⟨others, hl, h⟩ := Option.bind_eq_some_iff.mp h
    obtain rfl := Option.some.inj h
    rcases List.mem_cons.mp hb with rfl | later
    · exact ⟨a, List.mem_cons_self, ha⟩
    · obtain ⟨a', mem, found⟩ := ih hl later
      exact ⟨a', List.mem_cons_of_mem a mem, found⟩

namespace Document

variable {doc : Document} {fields : List (String × Json)}

theorem counters_of_countersOfJson? {v : Json} {counters : Dict Int}
    (h : countersOfJson? v = some counters) : ∀ e ∈ counters.entries, fitsSigned e.2 := by
  unfold countersOfJson? at h
  split at h
  · obtain ⟨entries, read, rfl⟩ := Option.map_eq_some_iff.mp h
    intro e he
    obtain ⟨f, -, found⟩ := exists_of_mem_mapM read (Entries.mem_of_mem_ofList he)
    obtain ⟨n, signed, rfl⟩ := Option.map_eq_some_iff.mp found
    exact Json.fitsSigned_of_signed? signed
  · exact absurd h nofun

theorem counters_of_countersOfFields? {counters : Dict Int}
    (h : countersOfFields? fields = some counters) : ∀ e ∈ counters.entries, fitsSigned e.2 := by
  unfold countersOfFields? at h
  split at h
  · obtain rfl := Option.some.inj h
    exact nofun
  · exact counters_of_countersOfJson? h
  · exact absurd h nofun

/-- The rows of a value are two levels above their own values. -/
theorem kept_of_rowsOfJson? {v : Json} {rows : List Record} {depth : Nat}
    (kept : v.Kept (depth + 2)) (h : rowsOfJson? v = some rows) :
    ∀ row ∈ rows, ∀ e ∈ row.entries, e.2.Kept depth := by
  unfold rowsOfJson? at h
  split at h
  · intro row hrow e he
    obtain ⟨item, hitem, found⟩ := exists_of_mem_mapM h hrow
    unfold Json.record? at found
    split at found
    · obtain rfl := Option.some.inj found
      exact (kept.item _ hitem).field e (Entries.mem_of_mem_ofList he)
    · exact absurd found nofun
  · exact absurd h nofun

theorem mem_tablesOfFields? {tables : Dict (List Record)} (h : tablesOfFields? fields = some tables)
    {e : String × List Record} (he : e ∈ tables.entries) :
    e.1 ≠ countersField ∧ ∃ v, (e.1, v) ∈ fields ∧ rowsOfJson? v = some e.2 := by
  obtain ⟨entries, read, rfl⟩ := Option.map_eq_some_iff.mp h
  obtain ⟨f, hf, found⟩ := exists_of_mem_mapM read (Entries.mem_of_mem_ofList he)
  obtain ⟨rows, rowsRead, rfl⟩ := Option.map_eq_some_iff.mp found
  obtain ⟨mem, other⟩ := List.mem_filter.mp hf
  exact ⟨of_decide_eq_true other, f.2, mem, rowsRead⟩

/-- What is read holds no table named as the counters, and its values are three levels deep. -/
theorem kept_of_ofJson? {v : Json} {depth : Nat} (held : v.Held (depth + 3))
    (h : ofJson? v = some doc) :
    (∀ e ∈ doc.counters.entries, fitsSigned e.2) ∧ doc.hasTable countersField = false ∧
      doc.Values (·.Kept depth) := by
  unfold ofJson? at h
  split at h
  · next fields =>
    obtain ⟨counters, hcounters, h⟩ := Option.bind_eq_some_iff.mp h
    obtain ⟨tables, htables, h⟩ := Option.bind_eq_some_iff.mp h
    obtain rfl := Option.some.inj h
    have below : ∀ e ∈ fields, e.2.Held (depth + 2) := fun e he =>
      ⟨Json.nestingFields_le_iff.mp (Nat.le_of_succ_le_succ held.nesting) e he,
        Json.numbersOfFields_iff.mp held.words e he⟩
    refine ⟨counters_of_countersOfFields? hcounters, ?_, values_iff.mpr fun e he => ?_⟩
    · rw [hasTable, Bool.eq_false_iff]
      intro there
      obtain ⟨e, he, named⟩ := List.mem_map.mp (Dict.contains_iff_mem_keys.mp there)
      exact (mem_tablesOfFields? htables he).1 named
    · obtain ⟨-, v, hv, read⟩ := mem_tablesOfFields? htables he
      obtain ⟨f, hf, same⟩ := List.mem_map.mp hv
      obtain ⟨-, rfl⟩ := Prod.mk.inj same
      exact kept_of_rowsOfJson? (.of_held (below f hf)) read
  · exact absurd h nofun

end Document

/-- What can be read from its own text: no table has the name of the field for the counters, and
    values are three levels less deep than what is read. -/
structure Document.Legible (doc : Document) : Prop where
  free : doc.hasTable countersField = false
  shallow : doc.Values (·.nesting ≤ 124)

instance (doc : Document) : Decidable doc.Legible :=
  decidable_of_iff (doc.hasTable Document.countersField = false ∧ doc.Values (·.nesting ≤ 124))
    ⟨fun ⟨free, shallow⟩ => ⟨free, shallow⟩, fun h => ⟨h.free, h.shallow⟩⟩

namespace JsonFile

variable {text : String} {doc : Document}

theorem kept_of_decode? (h : decode? text = some doc) :
    (∀ e ∈ doc.counters.entries, fitsSigned e.2) ∧
      doc.hasTable Document.countersField = false ∧ doc.Values (·.Kept 124) := by
  obtain ⟨v, read, h⟩ := Option.bind_eq_some_iff.mp h
  exact Document.kept_of_ofJson? (Json.held_of_readTree? read) h

theorem proper_of_decode? (h : decode? text = some doc) : doc.Proper :=
  ⟨(kept_of_decode? h).1, (kept_of_decode? h).2.2.mono fun _ kept => kept.proper⟩

theorem legible_of_decode? (h : decode? text = some doc) : doc.Legible :=
  ⟨(kept_of_decode? h).2.1, (kept_of_decode? h).2.2.mono fun _ kept => kept.nesting⟩

end JsonFile

end OfferBook
