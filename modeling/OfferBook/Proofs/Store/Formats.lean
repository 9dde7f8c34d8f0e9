import OfferBook.Proofs.Document.Decoding
import OfferBook.Proofs.Json.Writing
import OfferBook.Proofs.Store.Texts
import OfferBook.Proofs.Store.Work
import OfferBook.Store.RowFile

/-! # Two formats of documents

* `JsonFile.decode?_encode` — what is read from the text of a document.
* `RowFile.decode?_encode` — what is read from its rows.
* `Store.formats_agree` — a document that is saved in either format is loaded from it, and a store
  that is opened on the one is like a store that is opened on the other.
-/

namespace OfferBook

namespace Document

variable {doc : Document}

theorem Proper.readsBack (proper : doc.Proper)
    (doubles : doc.Values (·.Numbers Number.KeepsDouble)) :
    doc.Values (·.Numbers Number.ReadsBack) := fun t row hrow e he =>
  Json.readsBack_of_keepsDouble (proper.values t row hrow e he).words (doubles t row hrow e he)

end Document

/-! ## One text -/

/-- A proper document is read from its text, or nothing is. -/
theorem JsonFile.decode?_encode {doc : Document} (proper : doc.Proper)
    (doubles : doc.Values (·.Numbers Number.KeepsDouble)) :
    decode? (encode doc) = if doc.Legible then some doc else none := by
  have readsBack := Document.readsBack_toJson proper.counters (proper.readsBack doubles)
  have written := Json.written_prettyChars doc.toJson 0 readsBack
  have depth : doc.toJson.nesting ≤ Json.maxDepth ↔ doc.Values (·.nesting ≤ 124) :=
    Document.nesting_toJson_le_iff
  rw [decode?, encode, Json.pretty, String.toList_ofList, Json.readTree?_of_written written]
  by_cases shallow : doc.Values (·.nesting ≤ 124)
  · rw [if_pos (depth.mpr shallow), Option.bind_some, Document.ofJson?_toJson proper]
    cases free : doc.hasTable Document.countersField with
    | false => exact (if_pos ⟨free, shallow⟩).symm
    | true => exact (if_neg fun legible => Bool.false_ne_true (legible.free.symm.trans free)).symm
  · rw [if_neg fun fits => shallow (depth.mp fits), if_neg fun legible => shallow legible.shallow,
      Option.bind_none]

/-! ## Named rows -/

namespace RowFile

variable {doc : Document}

theorem decodeCounters?_compact {counters : Dict Int}
    (fits : ∀ e ∈ counters.entries, fitsSigned e.2) :
    decodeCounters? (Document.countersToJson counters).compact = some counters := by
  have written := Json.written_compactChars _ (Document.readsBack_countersToJson fits)
  rw [decodeCounters?, readBody?, Json.compact, String.toList_ofList,
    Json.readTree?_of_written written, Document.nesting_countersToJson, if_pos (by decide),
    Option.bind_some, Document.countersOfJson?_countersToJson fits]

theorem decodeTable?_compact {rows : List Record}
    (proper : ∀ row ∈ rows, ∀ e ∈ row.entries, e.2.Proper)
    (readsBack : ∀ row ∈ rows, ∀ e ∈ row.entries, e.2.Numbers Number.ReadsBack)
    (shallow : ∀ row ∈ rows, ∀ e ∈ row.entries, e.2.nesting ≤ 125) :
    decodeTable? (Document.rowsToJson rows).compact = some rows := by
  have written := Json.written_compactChars _ (Document.numbers_rowsToJson readsBack)
  have fits : (Document.rowsToJson rows).nesting ≤ Json.maxDepth :=
    Document.nesting_rowsToJson_le_iff.mpr shallow
  rw [decodeTable?, readBody?, Json.compact, String.toList_ofList,
    Json.readTree?_of_written written, if_pos fits, Option.bind_some,
    Document.sorted_rowsToJson proper, Document.rowsOfJson?_rowsToJson]

/-- A row says what is so in a document. -/
def Tells (doc : Document) (e : String × String) : Prop :=
  if e.1 = countersRow then decodeCounters? e.2 = some doc.counters
  else ∃ rows, doc.tables.get? e.1 = some rows ∧ decodeTable? e.2 = some rows

theorem decodeRow?_of_tells {e : String × String} (h : Tells doc e) (start : Document) :
    ∃ read, decodeRow? start e.1 e.2 = some read ∧
      read.counters = (if e.1 = countersRow then doc.counters else start.counters) ∧
      ∀ t, read.tables.get? t =
        if t = e.1 ∧ t ≠ countersRow then doc.tables.get? t else start.tables.get? t := by
  unfold Tells at h
  by_cases named : e.1 = countersRow
  · rw [if_pos named] at h
    refine ⟨{ start with counters := doc.counters }, ?_, by simp [named], fun t => ?_⟩
    · rw [decodeRow?, if_pos named, h, Option.map_some]
    · rw [if_neg fun both => both.2 (both.1.trans named)]
  · rw [if_neg named] at h
    obtain ⟨rows, found, read⟩ := h
    refine ⟨start.setTable e.1 rows, ?_, by simp [named, Document.setTable], fun t => ?_⟩
    · rw [decodeRow?, if_neg named, read, Option.map_some]
    · rw [Document.setTable, Dict.get?_insert]
      by_cases same : t = e.1
      · rw [if_pos same, if_pos ⟨same, same ▸ named⟩, same, found]
      · rw [if_neg same, if_neg fun both => same both.1]

/-- Rows that say what is so are taken in one after the other. Of what they name, the document that
    is read has what is so; of all else, what was there at the start. -/
theorem foldlM_decodeRow? {entries : List (String × String)} (tells : ∀ e ∈ entries, Tells doc e)
    (start : Document) :
    ∃ read, entries.foldlM (fun d e => decodeRow? d e.1 e.2) start = some read ∧
      read.counters =
        (if countersRow ∈ entries.map Prod.fst then doc.counters else start.counters) ∧
      ∀ t, read.tables.get? t =
        if t ∈ entries.map Prod.fst ∧ t ≠ countersRow then doc.tables.get? t
        else start.tables.get? t := by
  induction entries generalizing start with
  | nil => exact ⟨start, rfl, by simp, by simp⟩
  | cons e rest ih =>
    obtain ⟨first, others⟩ := List.forall_mem_cons.mp tells
    obtain ⟨next, taken, counters, tables⟩ := decodeRow?_of_tells first start
    obtain ⟨read, found, counters', tables'⟩ := ih others next
    refine ⟨read, ?_, ?_, fun t => ?_⟩
    · rw [List.foldlM_cons, taken]
      exact found
    · rw [counters', counters, List.map_cons]
      by_cases named : e.1 = countersRow
      · simp [named]
      · have other : ¬ countersRow = e.1 := fun same => named same.symm
        simp only [List.mem_cons, other, false_or, if_neg named]
    · rw [tables' t, tables t]
      by_cases same : t = e.1 <;> by_cases later : t ∈ rest.map Prod.fst <;> simp_all

theorem tells_encode (proper : doc.Proper)
    (readsBack : doc.Values (·.Numbers Number.ReadsBack)) (shallow : doc.Values (·.nesting ≤ 124))
    (free : doc.hasTable countersRow = false) : ∀ e ∈ (encode doc).entries, Tells doc e := by
  intro e he
  unfold Tells
  rcases List.mem_cons.mp (Entries.mem_of_mem_ofList he) with rfl | he
  · rw [if_pos rfl]
    exact decodeCounters?_compact proper.counters
  · obtain ⟨f, hf, rfl⟩ := List.mem_map.mp he
    have there : doc.hasTable f.1 = true :=
      Dict.contains_iff_mem_keys.mpr (List.mem_map_of_mem hf)
    have other : f.1 ≠ countersRow := fun same =>
      Bool.false_ne_true (free.symm.trans (same ▸ there))
    rw [if_neg other]
    refine ⟨f.2, Dict.get?_eq_some_iff.mpr hf, decodeTable?_compact ?_ ?_ ?_⟩
    · exact Document.values_iff.mp proper.values f hf
    · exact Document.values_iff.mp readsBack f hf
    · exact fun row hrow g hg =>
        Nat.le_succ_of_le (Document.values_iff.mp shallow f hf row hrow g hg)

theorem mem_keys_encode {t : String} :
    t ∈ (encode doc).entries.map Prod.fst ↔ t = countersRow ∨ doc.hasTable t = true := by
  rw [encode, Dict.ofList, Entries.mem_keys_ofList, List.map_cons, List.mem_cons, tableRows,
    List.map_map, Document.hasTable, Dict.contains_iff_mem_keys]
  rfl

theorem decode?_encode (proper : doc.Proper) (doubles : doc.Values (·.Numbers Number.KeepsDouble))
    (shallow : doc.Values (·.nesting ≤ 124)) (free : doc.hasTable countersRow = false) :
    decode? (encode doc) = some doc := by
  obtain ⟨read, found, counters, tables⟩ :=
    foldlM_decodeRow? (tells_encode proper (proper.readsBack doubles) shallow free) Document.blank
  have same : read = doc := by
    have sameCounters : read.counters = doc.counters := by
      rw [counters, if_pos (mem_keys_encode.mpr (.inl rfl))]
    have sameTables : read.tables = doc.tables := by
      refine Dict.ext_get? fun t => ?_
      rw [tables t]
      by_cases there : doc.hasTable t = true
      · have other : t ≠ countersRow := fun same =>
          Bool.false_ne_true (free.symm.trans (same ▸ there))
        rw [if_pos ⟨mem_keys_encode.mpr (.inr there), other⟩]
      · have absent : doc.tables.get? t = none := by
          simpa [Document.hasTable, Dict.contains] using there
        rw [absent]
        split <;> rfl
    calc read = ⟨read.counters, read.tables⟩ := rfl
      _ = doc := by rw [sameCounters, sameTables]
  rw [decode?, found, same]

end RowFile

/-! ## Both formats -/

theorem JsonFile.load_encode {doc : Document} (proper : doc.Proper)
    (doubles : doc.Values (·.Numbers Number.KeepsDouble)) :
    load ⟨some (encode doc)⟩ = if doc.Legible then .ok (some doc) else .error .unreadable := by
  by_cases legible : doc.Legible
  · simp only [load, decode?_encode proper doubles, if_pos legible]
  · simp only [load, decode?_encode proper doubles, if_neg legible]

theorem RowFile.load_encode {doc : Document} (h : decode? (encode doc) = some doc) :
    load ⟨encode doc⟩ = .ok (some doc) := by
  have there : countersRow ∈ (encode doc).entries.map Prod.fst := mem_keys_encode.mpr (.inl rfl)
  have filled : ¬ (encode doc).entries.isEmpty := fun none => by
    rw [List.isEmpty_iff.mp none] at there
    exact List.not_mem_nil there
  rw [load, if_neg filled, h]

namespace Store

theorem openFrom_of_load {m : Type} [Medium m] {medium : m} {doc : Document}
    (h : Medium.load medium = .ok (some doc)) :
    openFrom medium = (.ok doc.ensureKnown, medium) := by
  simp only [openFrom, h]

/-- A proper document without a table named as the counters, and with values that are nested in no
    more than 124 levels, is saved and loaded again as a text and as rows, whatever was stored
    before. Opened from the one or from the other, it is the same. -/
theorem formats_agree {m : Type} [Medium m] [TextMedium m] {doc : Document} (proper : doc.Proper)
    (free : doc.hasTable "counters" = false) (shallow : doc.Values (·.nesting ≤ 124))
    (doubles : doc.Values (·.Numbers Number.KeepsDouble)) {f f' : m}
    (saved : Medium.save doc f = (.ok (), f')) (r : RowFile) :
    ∃ r', Medium.save doc r = (.ok (), r') ∧
      Medium.load f' = .ok (some doc) ∧ Medium.load r' = .ok (some doc) ∧
      openFrom f' = (.ok doc.ensureKnown, f') ∧ openFrom r' = (.ok doc.ensureKnown, r') := by
  have text : Medium.load f' = .ok (some doc) := by
    rw [TextMedium.load_of_save_ok saved, JsonFile.load_encode proper doubles,
      if_pos ⟨free, shallow⟩]
  have rows : RowFile.load ⟨RowFile.encode doc⟩ = .ok (some doc) :=
    RowFile.load_encode (RowFile.decode?_encode proper doubles shallow free)
  have stored : RowFile.save doc r = (.ok (), ⟨RowFile.encode doc⟩) :=
    if_neg fun taken => Bool.false_ne_true (free.symm.trans taken)
  exact ⟨_, stored, text, rows, openFrom_of_load text, openFrom_of_load rows⟩

/-- A quote and a control character, integers at both ends, and a double that is no decimal
    fraction of few digits. -/
def manyKinds : Document where
  counters := .ofList [("a \"table\"", -9223372036854775808)]
  tables := .ofList [("a \"table\"",
    [.ofList [("", .text "\x01\\ü"), ("d", .double ⟨true, ⟨4591870180066957722, by decide⟩⟩),
      ("n", .array [.int 18446744073709551615, .object [("k", .array [.null])]])]])]

/-- The document is saved over a file that holds none. -/
theorem formats_agree_on_many_kinds :
    ∃ (f : JsonFile) (r : RowFile), Medium.save manyKinds ⟨some "["⟩ = (.ok (), f) ∧
      Medium.save manyKinds RowFile.blank = (.ok (), r) ∧
      Medium.load f = .ok (some manyKinds) ∧ Medium.load r = .ok (some manyKinds) ∧
      openFrom f = (.ok manyKinds.ensureKnown, f) ∧
      openFrom r = (.ok manyKinds.ensureKnown, r) := by
  have saved : Medium.save manyKinds (⟨some "["⟩ : JsonFile) =
      (.ok (), ⟨some (JsonFile.encode manyKinds)⟩) := rfl
  obtain ⟨r, both⟩ := formats_agree (by decide +kernel) (by decide) (by decide)
    (by decide +kernel) saved RowFile.blank
  exact ⟨_, r, saved, both⟩

end Store

end OfferBook
