import OfferBook.Model.Decoding
import OfferBook.Proofs.Document.Form
import OfferBook.Proofs.Json.Values

/-! # Reading rows

A row has each field once, so that a typed record is always read by the names of its fields.

* `Fields.ofObject?_ofRecord` — the fields of a row.
* `Fields.optional_of_mayBeText`, … — fields of a form can be read.
-/

namespace OfferBook

/-- What follows a field that can be read. -/
theorem exists_of_bind {α β : Type} {x : Option α} {f : α → Option β} {P : β → Prop} {a : α}
    (read : x = some a) (rest : ∃ b, f a = some b ∧ P b) : ∃ b, (x >>= f) = some b ∧ P b :=
  read ▸ rest

/-- What two reads have in common that go on alike. -/
theorem exists_of_bind_eq {α β γ : Type} {x x' : Option α} {f : α → Option β} {f' : α → Option γ}
    {b : β} {P : γ → Prop} (h : (x >>= f) = some b) (same : x' = x)
    (next : ∀ a, f a = some b → ∃ c, f' a = some c ∧ P c) : ∃ c, (x' >>= f') = some c ∧ P c := by
  obtain ⟨a, ha, h⟩ := Option.bind_eq_some_iff.mp h
  exact exists_of_bind (same.trans ha) (next a h)

namespace Fields

variable {α : Type} {names : List String} {name : String} {row : Record}

theorem distinct_of_ordered {fields : Fields} (h : Entries.Ordered fields) :
    distinct names fields = true := by
  simp only [distinct, List.all_eq_true, decide_eq_true_eq]
  intro name _
  induction fields with
  | nil => simp
  | cons f rest ih =>
    obtain ⟨hf, hrest⟩ := List.pairwise_cons.mp h
    rw [List.countP_cons]
    split
    · next hname =>
      -- The name does not occur again.
      have : rest.countP (·.1 = name) = 0 := by
        rw [List.countP_eq_zero]
        intro g hg same
        have := hf g.1 (List.mem_map_of_mem hg)
        simp_all
      omega
    · exact ih hrest

theorem ofObject?_ofRecord (names : List String) (row : Record) :
    ofObject? names (Json.ofRecord row) = some row.entries :=
  if_pos (distinct_of_ordered row.ordered)

theorem ofJson?_ofRecord (names : List String) (row : Record) :
    ofJson? names (Json.ofRecord row) = some row.entries := ofObject?_ofRecord names row

theorem bind_ofRecord {f : Fields → Option α} :
    (ofJson? names (Json.ofRecord row) >>= f) = f row.entries := by
  rw [ofJson?_ofRecord]
  rfl

theorem required_entries {read : Json → Option α} :
    required name read row.entries = (row.get? name).bind read := rfl

theorem required_congr {read : Json → Option α} {row' : Record}
    (same : row.get? name = row'.get? name) :
    required name read row.entries = required name read row'.entries :=
  congrArg (Option.bind · read) same

theorem orDefault_entries {read : Json → Option α} {default : α} :
    orDefault default name read row.entries =
      match row.get? name with
      | some v => read v
      | none => some default := rfl

theorem orDefault_congr {read : Json → Option α} {default : α} {row' : Record}
    (same : row.get? name = row'.get? name) :
    orDefault default name read row.entries = orDefault default name read row'.entries := by
  rw [orDefault_entries, orDefault_entries, same]

theorem orDefault_always {f : Json → α} {default : α} :
    orDefault default name (always f) row.entries =
      some (((row.get? name).map f).getD default) := by
  rw [orDefault_entries]
  cases row.get? name <;> rfl

theorem required_signed {n : Int} (h : row.get? name = some (.int n)) :
    required name Strict.integer? row.entries = if fitsSigned n then some n else none := by
  rw [required_entries, h]
  rfl

theorem required_text {s : String} (h : row.get? name = some (.text s)) :
    required name Strict.text? row.entries = some s := by
  rw [required_entries, h]
  rfl

theorem orDefault_text {default s : String} (h : row.get? name = some (.text s)) :
    orDefault default name (nullAs default Strict.text?) row.entries = some s := by
  rw [orDefault_entries, h]
  rfl

theorem orDefault_kind {default k : SheetKind} (h : row.get? name = some (.text k.name)) :
    orDefault default name (nullAs default SheetKind.ofJson?) row.entries = some k := by
  rw [orDefault_entries, h]
  cases k <;> rfl

theorem orDefault_status {default s : OfferStatus} (h : row.get? name = some (.text s.name)) :
    orDefault default name (nullAs default OfferStatus.ofJson?) row.entries = some s := by
  rw [orDefault_entries, h]
  cases s <;> rfl

theorem optional_of_mayBeText (h : Field.MayBeText (row.get? name)) :
    ∃ s, optional name Strict.text? row.entries = some s := by
  unfold optional
  rw [orDefault_entries]
  rcases h with h | h | ⟨s, h⟩ <;> rw [h]
  · exact ⟨none, rfl⟩
  · exact ⟨none, rfl⟩
  · exact ⟨some s, rfl⟩

theorem optional_of_mayBeSigned (h : Field.MayBeSigned (row.get? name)) :
    ∃ n, optional name Strict.integer? row.entries = some n := by
  unfold optional
  rw [orDefault_entries]
  rcases h with h | h | ⟨n, fits, h⟩ <;> rw [h]
  · exact ⟨none, rfl⟩
  · exact ⟨none, rfl⟩
  · refine ⟨some n, ?_⟩
    simp [Json.isNull, Json.int, Strict.integer?, Json.signed?, Number.signed?, fits]

end Fields

end OfferBook
