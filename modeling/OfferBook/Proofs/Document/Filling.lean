import OfferBook.Proofs.Document.Encoding
import OfferBook.Proofs.Document.Known
import OfferBook.Proofs.Statement.Parsing

/-! # What statements fill rows with

* `Json.IsScalar` — what can be a literal, a timestamp or an id.
* `Operand.bindAll_all` — a condition that parameters and scalars meet is met by all values that
  are bound.
* `Document.Fills` — a condition on all values in the rows, for as long as the ids have 64 bits.
* `Fills.insert`, `Fills.update`, `Fills.delete` — what a statement makes of such a document.
-/

namespace OfferBook

/-! ## Scalars -/

/-- Neither a list nor an object, and an integer only with a sign and 64 bits. -/
def Json.IsScalar : Json → Prop
  | .array _ | .object _ => False
  | .number (.int n) => fitsSigned n
  | .number (.double _) | .null | .bool _ | .text _ => True

/-- A condition on values that all scalars meet. -/
def TakesScalars (p : Json → Prop) : Prop := ∀ v : Json, v.IsScalar → p v

theorem takesScalars_proper : TakesScalars Json.Proper := by
  intro v h
  cases v with
  | array | object => exact h.elim
  | null | bool | text => exact ⟨rfl, trivial⟩
  | number n =>
    cases n with
    | double => exact ⟨rfl, trivial⟩
    | int n =>
      obtain ⟨low, high⟩ := fitsSigned_iff.mp h
      exact ⟨rfl, low, by unfold longLimit; omega⟩

theorem takesScalars_nesting (depth : Nat) : TakesScalars (·.nesting ≤ depth) := by
  intro v h
  cases v with
  | array | object => exact h.elim
  | null | bool | text | number => exact Nat.zero_le _

/-- A literal is a scalar. -/
def Operand.IsPlain (o : Operand) : Prop := ∀ v, o = .literal v → v.IsScalar

theorem isScalar_of_numberValue? {digits : String} {v : Json}
    (h : Token.numberValue? digits = some v) : v.IsScalar := by
  unfold Token.numberValue? at h
  split at h
  · next n read =>
    obtain rfl := Option.some.inj h
    exact (Option.filter_eq_some_iff.mp read).2
  · obtain ⟨d, -, rfl⟩ := Option.map_eq_some_iff.mp h
    trivial

theorem Operand.Spelled.isPlain {o : Operand} {us : List Token} (h : o.Spelled us) : o.IsPlain := by
  intro v same
  cases h with
  | placeholder | now => exact absurd same nofun
  | text | null | trueWord | falseWord =>
    obtain rfl := Operand.literal.inj same
    trivial
  | integer _ fits =>
    obtain rfl := Operand.literal.inj same
    exact fits
  | number read =>
    obtain rfl := Operand.literal.inj same
    exact isScalar_of_numberValue? read

theorem Token.Carries.isPlain {os : List Operand} {ts : List Token} (h : Carries os ts) :
    ∀ o ∈ os, o.IsPlain := by
  induction h with
  | nil => exact nofun
  | pass _ _ ih => exact ih
  | operand spelled _ ih => exact List.forall_mem_cons.mpr ⟨spelled.isPlain, ih⟩

/-- No text has a list or an object for a literal. -/
theorem Statement.isPlain_of_parse? {sql : String} {s : Statement} (h : parse? sql = some s) :
    ∀ o ∈ s.operands, o.IsPlain := by
  obtain ⟨ts, -, spelled⟩ := parse?_eq_some_iff.mp h
  exact spelled.shows.carries.isPlain

/-! ## Values that are bound -/

section Binding

variable {p : Json → Prop} (now : Instant) {params : List Json}

theorem Operand.bind_all (scalars : TakesScalars p) {o : Operand} (plain : o.IsPlain)
    (given : ∀ v ∈ params, p v) :
    p (o.bind now params).1 ∧ ∀ v ∈ (o.bind now params).2, p v := by
  cases o with
  | placeholder =>
    refine ⟨?_, fun v hv => given v (List.mem_of_mem_tail hv)⟩
    cases params with
    | nil => exact scalars .null trivial
    | cons v rest => exact given v List.mem_cons_self
  | literal v => exact ⟨scalars v (plain v rfl), given⟩
  | now => exact ⟨scalars (.text now.timestamp) trivial, given⟩

theorem Operand.bindAll_all (scalars : TakesScalars p) {os : List Operand}
    (plain : ∀ o ∈ os, o.IsPlain) (given : ∀ v ∈ params, p v) :
    ∀ v ∈ (bindAll now params os).1, p v := by
  induction os generalizing params with
  | nil => exact nofun
  | cons o rest ih =>
    obtain ⟨first, others⟩ := List.forall_mem_cons.mp plain
    obtain ⟨bound, remaining⟩ := bind_all now scalars first given
    exact List.forall_mem_cons.mpr ⟨bound, ih others remaining⟩

/-- Columns without a value get null. -/
theorem Insert.assignments_all (scalars : TakesScalars p) {s : Insert}
    (plain : ∀ o ∈ s.values, o.IsPlain) (given : ∀ v ∈ params, p v) :
    ∀ a ∈ s.assignments now params, p a.2 := by
  intro a ha
  rcases List.mem_append.mp (List.of_mem_zip ha).2 with bound | missing
  · exact Operand.bindAll_all now scalars (fun o ho => plain o (List.mem_of_mem_take ho)) given _
      bound
  · rw [List.eq_of_mem_replicate missing]
    exact scalars .null trivial

theorem Update.bound_all (scalars : TakesScalars p) {s : Update}
    (plain : ∀ o ∈ s.assignments.map Prod.snd, o.IsPlain) (given : ∀ v ∈ params, p v) :
    ∀ a ∈ (s.bound now params).1, p a.2 := by
  intro a ha
  exact Operand.bindAll_all now scalars plain given _ (List.of_mem_zip ha).2

end Binding

/-! ## Rows -/

section Rows

variable {p : Json → Prop} {row : Record}

theorem Dict.forall_mem_insert {key : String} {value : Json} (h : ∀ e ∈ row.entries, p e.2)
    (hv : p value) : ∀ e ∈ (row.insert key value).entries, p e.2 := by
  intro e he
  rcases Entries.mem_insert he with rfl | he
  · exact hv
  · exact h e he

theorem forall_mem_assign {assignments : List (String × Json)} (h : ∀ e ∈ row.entries, p e.2)
    (given : ∀ a ∈ assignments, p a.2) : ∀ e ∈ (assign assignments row).entries, p e.2 := by
  unfold assign
  induction assignments generalizing row with
  | nil => exact h
  | cons a rest ih =>
    obtain ⟨first, others⟩ := List.forall_mem_cons.mp given
    exact ih (Dict.forall_mem_insert h first) others

theorem Insert.forall_mem_row (scalars : TakesScalars p) {s : Insert} {now : Instant}
    {params : List Json} (plain : ∀ o ∈ s.values, o.IsPlain) (given : ∀ v ∈ params, p v) {id : Int}
    (fits : fitsSigned id) : ∀ e ∈ (s.row now params id).entries, p e.2 := by
  have numbered : ∀ e ∈ ((Dict.empty : Record).insert "id" (.int id)).entries, p e.2 :=
    Dict.forall_mem_insert nofun (scalars (.int id) fits)
  have assigned := forall_mem_assign numbered (assignments_all now scalars plain given)
  unfold row Dict.insertIfNew
  dsimp only
  split
  · exact assigned
  · exact Dict.forall_mem_insert assigned (scalars (.text now.timestamp) trivial)

end Rows

/-! ## Documents -/

namespace Document

/-- All ids that were given out have 64 bits. -/
def CountersFit (doc : Document) : Prop := ∀ t, fitsSigned (doc.lastId t)

theorem countersFit_iff {doc : Document} :
    doc.CountersFit ↔ ∀ e ∈ doc.counters.entries, fitsSigned e.2 := by
  constructor
  · intro h e he
    have := h e.1
    rwa [lastId, Dict.get?_eq_some_iff.mpr he] at this
  · intro h t
    unfold lastId
    cases found : doc.counters.get? t with
    | none => rfl
    | some n => exact h (t, n) (Dict.get?_eq_some_iff.mp found)

/-- Where the ids have 64 bits in the end, none before was beyond the greatest integer of that
    width. -/
theorem CountersFit.lastId_lt {doc doc' : Document} (fits : doc'.CountersFit)
    (within : doc.Within doc') (t : String) : doc.lastId t < 9223372036854775808 :=
  Int.lt_of_le_of_lt (within.ids t) (fitsSigned_iff.mp (fits t)).2

/-- The ids start above the least integer of 64 bits. For as long as they have not passed the
    greatest one, all values in the rows meet the condition. -/
structure Fills (p : Json → Prop) (doc : Document) : Prop where
  low : ∀ t, -9223372036854775808 ≤ doc.lastId t
  values : doc.CountersFit → doc.Values p

namespace Fills

variable {p : Json → Prop} {doc doc' : Document} {now : Instant} {params : List Json}

/-- Ids are only counted up, so that those before a change fit if those after it do. -/
theorem of_change (h : doc.Fills p) (within : doc.Within doc')
    (kept : doc'.CountersFit → doc.Values p → doc'.Values p) : doc'.Fills p where
  low t := Int.le_trans (h.low t) (within.ids t)
  values fits :=
    kept fits (h.values fun t => fitsSigned_iff.mpr ⟨h.low t, fits.lastId_lt within t⟩)

theorem insert (scalars : TakesScalars p) (h : doc.Fills p) {s : Insert}
    (plain : ∀ o ∈ s.values, o.IsPlain) (given : ∀ v ∈ params, p v) :
    (s.apply now params doc).2.Fills p := by
  refine h.of_change (within_insert ..) fun fits values t row hrow => ?_
  have rows : (s.apply now params doc).2.table t =
      if t = s.table then doc.table t ++ [s.row now params (doc.lastId s.table + 1)]
      else doc.table t := by simp [Insert.apply]
  rw [rows] at hrow
  split at hrow
  · rcases List.mem_append.mp hrow with old | new
    · exact values t row old
    · rw [List.mem_singleton.mp new]
      have counted : (s.apply now params doc).2.lastId s.table = doc.lastId s.table + 1 := by
        simp [Insert.apply]
      exact Insert.forall_mem_row scalars plain given (counted ▸ fits s.table)
  · exact values t row hrow

theorem update (scalars : TakesScalars p) (h : doc.Fills p) {s : Update}
    (plain : ∀ o ∈ s.assignments.map Prod.snd, o.IsPlain) (given : ∀ v ∈ params, p v) :
    (s.apply now params doc).2.Fills p := by
  unfold Update.apply
  dsimp only
  split
  · refine h.of_change (within_setTable ..) fun _ values t row hrow => ?_
    rw [table_setTable] at hrow
    split at hrow
    · obtain ⟨old, there, rfl⟩ := List.mem_map.mp hrow
      split
      · exact forall_mem_assign (values s.table old there)
          (Update.bound_all now scalars plain given)
      · exact values s.table old there
    · exact values t row hrow
  · exact h

theorem delete (h : doc.Fills p) (s : Delete) : (s.apply now params doc).2.Fills p := by
  unfold Delete.apply
  dsimp only
  split
  · refine h.of_change (within_setTable ..) fun _ values t row hrow => ?_
    rw [table_setTable] at hrow
    split at hrow
    · exact values s.table row (List.mem_filter.mp hrow).1
    · exact values t row hrow
  · exact h

end Fills

/-! ## Tables -/

variable {doc : Document} {now : Instant} {params : List Json} {t : String}

theorem hasTable_setTable (name : String) (rows : List Record) :
    (doc.setTable name rows).hasTable t = (decide (t = name) || doc.hasTable t) := by
  unfold hasTable setTable Dict.contains
  rw [Dict.get?_insert]
  split
  · next same => rw [decide_eq_true same]; rfl
  · next other => rw [decide_eq_false other, Bool.false_or]

theorem hasTable_setTable_of_hasTable {name : String} (there : doc.hasTable name)
    (rows : List Record) : (doc.setTable name rows).hasTable t = doc.hasTable t := by
  rw [hasTable_setTable]
  by_cases same : t = name
  · rw [same, there, Bool.or_true]
  · rw [decide_eq_false same, Bool.false_or]

/-- Only an insertion makes a table. -/
theorem hasTable_insert (s : Insert) :
    (s.apply now params doc).2.hasTable t = (decide (t = s.table) || doc.hasTable t) :=
  hasTable_setTable ..

theorem hasTable_update (s : Update) : (s.apply now params doc).2.hasTable t = doc.hasTable t := by
  unfold Update.apply
  dsimp only
  split
  · next there => exact hasTable_setTable_of_hasTable there _
  · rfl

theorem hasTable_delete (s : Delete) : (s.apply now params doc).2.hasTable t = doc.hasTable t := by
  unfold Delete.apply
  dsimp only
  split
  · next there => exact hasTable_setTable_of_hasTable there _
  · rfl

end Document

end OfferBook
