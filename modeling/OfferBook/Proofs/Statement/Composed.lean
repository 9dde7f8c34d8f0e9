import OfferBook.Proofs.Query.Conditions
import OfferBook.Proofs.Statement.Rendering

/-! # Composed insertions

The text of an insertion is put together from the names of a table and its columns. It is read as
the insertion that is meant, and with one value for each column it adds one row of these values.

* `Token.Laid.commas`, `Separated.commas` — names or placeholders with commas between them.
* `Insert.spelled_ofColumns`, `Insert.laid_compose` — the tokens of an insertion, and its text.
* `Insert.get?_row_ofColumns` — the fields of the row, of which some columns may be repeated.
* `Store.composed_insertion_adds_row` — what such a text does.
-/

namespace OfferBook

/-! ## Texts with commas -/

namespace Token

namespace Laid

variable {t : Token} {ts : List Token} {cs rest : List Char}

theorem sign (c : Char) (more : Laid BothLong ts rest) :
    Laid BothLong (ofSign c :: ts) (c :: rest) := by
  refine .token (g := []) rfl (.sign c) (fun u _ both => ?_) more
  exact Bool.noConfusion ((isLong_ofSign c).symm.trans both.1)

theorem before_sign (written : t.Written cs) (c : Char) (more : Laid BothLong ts rest) :
    Laid BothLong (t :: ofSign c :: ts) (cs ++ c :: rest) := by
  refine .token (g := []) rfl written (fun u ahead both => ?_) (more.sign c)
  obtain rfl : ofSign c = u := Option.some.inj ahead
  exact Bool.noConfusion ((isLong_ofSign c).symm.trans both.2)

theorem before_blank (written : t.Written cs) (more : Laid BothLong ts rest) :
    Laid BothLong (t :: ts) (cs ++ ' ' :: rest) :=
  .token (g := []) rfl written (fun _ _ _ => ⟨' ', rfl, by decide⟩) (more.blank (by decide))

/-- Items with commas between them, in front of a sign. -/
theorem commas {α : Type} (item : α → Token) (shown : α → String) {as : List α}
    (written : ∀ a ∈ as, (item a).Written (shown a).toList) (c : Char)
    (more : Laid BothLong ts rest) :
    Laid BothLong ((as.map item).intersperse .comma ++ ofSign c :: ts)
      ((", ".intercalate (as.map shown)).toList ++ c :: rest) := by
  rw [String.toList_intercalate]
  induction as with
  | nil => exact more.sign c
  | cons a others ih =>
    obtain ⟨first, written⟩ := List.forall_mem_cons.mp written
    cases others with
    | nil => simpa using before_sign first c more
    | cons b others =>
      have next := before_sign first ',' ((ih written).blank (c := ' ') (by decide))
      simpa [ofSign] using next

end Laid

end Token

/-- Items of one token each, with commas between them. -/
theorem Separated.commas {α : Type} {spelled : α → List Token → Prop} (item : α → Token)
    {as : List α} (items : ∀ a ∈ as, spelled a [item a]) (filled : as ≠ []) :
    Separated (· = .comma) spelled as ((as.map item).intersperse .comma) := by
  induction as with
  | nil => exact absurd rfl filled
  | cons a others ih =>
    obtain ⟨first, items⟩ := List.forall_mem_cons.mp items
    cases others with
    | nil => exact .one first
    | cons b others => exact .more first rfl (ih items (List.cons_ne_nil b others))

namespace Insert

/-! ## The text of an insertion -/

section Texts

variable {table : String} {columns : List String}

/-- The tokens of an insertion with one placeholder for each column. -/
def tokens (table : String) (columns : List String) : List Token :=
  .word "insert" :: .word "into" :: .word table :: .leftParen ::
    ((columns.map Token.word).intersperse .comma ++ .rightParen :: .word "values" :: .leftParen ::
      (((columns.map fun _ => Operand.placeholder).map fun _ =>
        Token.placeholder).intersperse .comma ++ [.rightParen]))

theorem spelled_ofColumns (named : IsName table) (names : ∀ c ∈ columns, IsName c)
    (filled : columns ≠ []) :
    (Statement.insert (ofColumns table columns)).Spelled Operand.Spelled
      (tokens table columns) := by
  have keyword {k : Keyword} {w : String} (h : k.isWord w) : k.Spells (.word w) := ⟨w, rfl, h⟩
  have columnList := Separated.commas .word (fun c mem => Named.mk (names c mem)) filled
  have places : ∀ o ∈ columns.map fun _ => Operand.placeholder, o.Spelled [.placeholder] := by
    intro o mem
    obtain ⟨_, _, rfl⟩ := List.mem_map.mp mem
    exact .placeholder
  have valueList := Separated.commas (fun _ => .placeholder) places (by simpa using filled)
  exact .insert (keyword (by decide)) (.mk (keyword (by decide)) named columnList
    (keyword (by decide)) valueList)

theorem laid_compose (named : (Token.word table).IsWritable)
    (names : ∀ c ∈ columns, (Token.word c).IsWritable) :
    Token.Laid Token.BothLong (tokens table columns) (compose table columns).toList := by
  have written {n : String} : (Token.word n).IsWritable → (Token.word n).Written n.toList := by
    rintro ⟨cs, written⟩
    exact (Token.written_word_iff.mp written).1 ▸ written
  have places := Token.Laid.commas (fun _ : Operand => .placeholder) (fun _ => "?")
    (fun o (_ : o ∈ columns.map fun _ => .placeholder) => .sign '?') ')' (.finish (g := []) rfl)
  have values := Token.Laid.before_blank (t := .word "values") (.word (by decide) (by decide))
    (places.sign '(')
  have names := Token.Laid.commas .word id (fun c mem => written (names c mem)) ')'
    (values.blank (c := ' ') (by decide))
  have whole := Token.Laid.before_blank (t := .word "insert") (.word (by decide) (by decide))
    (Token.Laid.before_blank (t := .word "into") (.word (by decide) (by decide))
      (Token.Laid.before_blank (written named) (names.sign '(')))
  have text : (compose table columns).toList = "insert".toList ++ ' ' :: ("into".toList ++
      ' ' :: (table.toList ++ ' ' :: '(' :: ((", ".intercalate (columns.map id)).toList ++
        ')' :: ' ' :: ("values".toList ++ ' ' :: '(' ::
          ((", ".intercalate ((columns.map fun _ => Operand.placeholder).map
            fun _ => "?")).toList ++ [')']))))) := by
    have front : "insert into ".toList = "insert".toList ++ ' ' :: ("into".toList ++ [' ']) := by
      decide
    have middle : ") values (".toList = ')' :: ' ' :: ("values".toList ++ [' ', '(']) := by decide
    unfold compose
    simp only [String.toList_append, front, middle, List.map_id, List.map_map, List.append_assoc,
      List.cons_append, List.nil_append]
    rfl
  rw [text]
  exact whole

theorem parse?_compose (named : IsNameWord table) (names : ∀ c ∈ columns, IsNameWord c)
    (filled : columns ≠ []) :
    Statement.parse? (compose table columns) = some (.insert (ofColumns table columns)) := by
  have spelled := spelled_ofColumns named.name (fun c mem => (names c mem).name) filled
  have laid := laid_compose named.word fun c mem => (names c mem).word
  exact Statement.parse?_eq_some_iff.mpr
    ⟨_, Token.scanChars_of_laid laid spelled.shows.apart spelled.shows.plain, spelled⟩

end Texts

/-! ## The row of an insertion -/

section Rows

variable {table : String} {columns : List String} {values : List Json}

theorem fillAll_placeholders (before : List Json) (enough : values.length = columns.length) :
    Operand.fillAll (before ++ values) before.length (columns.map fun _ => .placeholder) =
      values.map .literal := by
  induction columns generalizing before values with
  | nil =>
    rw [List.length_eq_zero_iff.mp enough]
    rfl
  | cons c others ih =>
    obtain ⟨value, rest, rfl⟩ := List.exists_cons_of_length_eq_add_one enough
    -- The first value counts among those before the others.
    have next := ih (before ++ [value]) (Nat.add_right_cancel enough)
    rw [List.append_assoc, List.length_append] at next
    have first : (before ++ value :: rest).getD before.length .null = value := by simp
    simp only [List.map_cons, Operand.fillAll, Operand.fill, first]
    exact congrArg _ next

/-- Placeholders become the values in their places. -/
theorem fill_ofColumns (enough : values.length = columns.length) :
    (ofColumns table columns).fill values = ofValues table columns values := by
  simp only [fill, ofColumns, ofValues, ← fillAll_placeholders [] enough, List.nil_append,
    List.length_nil]

theorem assignments_ofColumns (now : Instant) (enough : values.length = columns.length) :
    (ofColumns table columns).assignments now values = columns.zip values := by
  rw [← assignments_fill, fill_ofColumns enough, assignments_ofValues now table enough]

/-- Placeholders with values do what the values do in their places. -/
theorem apply_ofColumns (now : Instant) (enough : values.length = columns.length)
    (doc : Document) : (ofColumns table columns).apply now values doc =
      (ofValues table columns values).apply now [] doc := by
  rw [← apply_fill, fill_ofColumns enough]

/-- A column has its last value. The id and the time are filled in where they are no columns. -/
theorem get?_row_ofColumns (now : Instant) (enough : values.length = columns.length) (id : Int)
    (field : String) :
    ((ofColumns table columns).row now values id).get? field =
      (assigned? field (columns.zip values)).or (if field = "id" then some (.int id)
        else if field = "created_at" then some (.text now.timestamp) else none) := by
  have given := rewritten_assign (columns.zip values) (Dict.empty.insert "id" (.int id))
  simp only [row, assignments_ofColumns now enough, Dict.get?_insertIfNew, given _,
    Dict.get?_insert, Dict.get?_empty]
  by_cases created : field = "created_at"
  · subst created
    cases assigned? "created_at" (columns.zip values) <;> simp
  · simp only [created, if_false]

end Rows

end Insert

/-! ## What is done -/

namespace Store

/-- The text for a table and its columns is read as the insertion of these columns, with one
    placeholder for each. With one value for each it adds one row behind those of the table: a
    column has its value, the last one if it is repeated, and where they are no columns the id and
    the time are filled in. That is the insertion of the values themselves. The document stays as it
    is where it cannot be saved. -/
theorem composed_insertion_adds_row {m : Type} [Medium m] (s : Store m) (now : Instant)
    {table : String} {columns : List String} {values : List Json} (named : IsNameWord table)
    (names : ∀ c ∈ columns, IsNameWord c) (filled : columns ≠ [])
    (enough : values.length = columns.length) :
    Statement.parse? (Insert.compose table columns) =
      some (.insert ⟨table, columns, columns.map fun _ => .placeholder⟩) ∧
    ∃ row doc,
      (∀ field, row.get? field = (assigned? field (columns.zip values)).or
        (if field = "id" then some (.int (s.document.lastId table + 1))
          else if field = "created_at" then some (.text now.timestamp) else none)) ∧
      doc.table table = s.document.table table ++ [row] ∧
      (∀ t, t ≠ table → doc.tables.get? t = s.document.tables.get? t) ∧
      doc.counters = s.document.counters.insert table (s.document.lastId table + 1) ∧
      doc = ((Insert.ofValues table columns values).apply now [] s.document).2 ∧
      (∀ medium, Medium.save doc s.medium = (.ok (), medium) →
        (run now values (Insert.compose table columns)).run.run s =
          (.ok ⟨1, (row.get? "id").getD .null⟩, ⟨doc, medium⟩)) ∧
      ∀ e medium, Medium.save doc s.medium = (.error e, medium) →
        (run now values (Insert.compose table columns)).run.run s =
          (.error e, ⟨s.document, medium⟩) := by
  have read := Insert.parse?_compose named names filled
  refine ⟨read, (Insert.ofColumns table columns).row now values (s.document.lastId table + 1),
    ((Insert.ofColumns table columns).apply now values s.document).2,
    Insert.get?_row_ofColumns now enough _, ?_, fun t other => ?_, rfl,
    congrArg Prod.snd (Insert.apply_ofColumns now enough s.document),
    fun medium saved => run_insert read saved, fun e medium failed => run_insert_error read failed⟩
  · exact (Document.table_append _ table table _).trans (if_pos rfl)
  · exact Dict.get?_insert_of_ne _ other _

/-- The name is given twice, and the id is a column. -/
theorem composed_insertion_adds_row_of_repeated_column :
    Insert.compose "users" ["name", "id", "name"] =
      "insert into users (name, id, name) values (?, ?, ?)" ∧
    ∃ (row : Record) (doc : Document) (medium : Memory),
      (run 0 [.text "a", .int 7, .text "b"]
          "insert into users (name, id, name) values (?, ?, ?)").run.run
        (⟨Document.fresh, ⟨none, false, none, 0⟩⟩ : Store Memory) =
          (.ok ⟨1, .int 7⟩, ⟨doc, medium⟩) ∧
      doc.table "users" = [row] ∧ row.get? "name" = some (.text "b") ∧
      row.get? "id" = some (.int 7) ∧
      row.get? "created_at" = some (.text (Instant.timestamp 0)) := by
  have composed : Insert.compose "users" ["name", "id", "name"] =
      "insert into users (name, id, name) values (?, ?, ?)" := by decide
  have users : IsNameWord "users" := by decide +kernel
  have names : ∀ c ∈ ["name", "id", "name"], IsNameWord c := by decide +kernel
  have enough : [Json.text "a", .int 7, .text "b"].length = ["name", "id", "name"].length := rfl
  obtain ⟨-, row, doc, fields, rows, -, -, -, saved, -⟩ := composed_insertion_adds_row
    (⟨Document.fresh, ⟨none, false, none, 0⟩⟩ : Store Memory) 0 users names (by decide) enough
  have given : row.get? "id" = some (.int 7) := fields "id"
  have done := saved _ rfl
  rw [composed, given] at done
  exact ⟨composed, row, doc, _, done, rows, fields "name", given, fields "created_at"⟩

end Store

end OfferBook
