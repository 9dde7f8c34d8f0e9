import OfferBook.Statement.Reading

/-! # The grammar of statements

How the parts of a statement are spelled in words and signs, said without the readers.

* `Keyword.Spells`, `IsName` — keywords, in any case of their letters, and the words that are
  none.
* `Separated`, `Clause`, `SecondName` — lists, parts that may be left out, second names.
* `Numeral` — integers in digits.
* `Operand.Spelled`, `Condition.Spelled`, … — one rule for each way to spell a part.
* `Statement.Spelled` — a whole statement. What may stand after `LIMIT` and `OFFSET` is given to
  it: any value (`Operand.Spelled`), or only counts (`Operand.Counted`).
-/

namespace OfferBook

/-- A token is this keyword. -/
def Keyword.Spells (k : Keyword) (t : Token) : Prop := ∃ w, t = .word w ∧ k.isWord w

/-- A word that can name a table, a column or a label. -/
def IsName (word : String) : Prop := Keyword.reserves word = false

instance (word : String) : Decidable (IsName word) :=
  inferInstanceAs (Decidable (Keyword.reserves word = false))

/-! ## Lists and parts that may be left out -/

section Combinations

variable {α : Type}

/-- At least one item, with a separator between any two. -/
inductive Separated (separator : Token → Prop) (item : α → List Token → Prop) :
    List α → List Token → Prop
  | one {a : α} {us : List Token} (h : item a us) : Separated separator item [a] us
  | more {a : α} {rest : List α} {t : Token} {us vs : List Token} (h : item a us)
      (between : separator t) (more : Separated separator item rest vs) :
      Separated separator item (a :: rest) (us ++ t :: vs)

/-- A part that begins with a keyword and may be left out. -/
inductive Clause (k : Keyword) (part : α → List Token → Prop) : Option α → List Token → Prop
  | absent : Clause k part none []
  | present {a : α} {t : Token} {us : List Token} (h : k.Spells t) (spelled : part a us) :
      Clause k part (some a) (t :: us)

/-- A keyword that may be left out. -/
inductive Optionally (k : Keyword) : List Token → Prop
  | absent : Optionally k []
  | present {t : Token} (h : k.Spells t) : Optionally k [t]

/-- A second name, with or without `AS`, or none. -/
inductive SecondName : Option String → List Token → Prop
  | absent : SecondName none []
  | plain {n : String} (h : IsName n) : SecondName (some n) [.word n]
  | named {n : String} {t : Token} (asWord : Keyword.as.Spells t) (h : IsName n) :
      SecondName (some n) [t, .word n]

end Combinations

/-- A name alone. -/
inductive Named : String → List Token → Prop
  | mk {n : String} (h : IsName n) : Named n [.word n]

/-! ## Parts of statements -/

/-- A column, qualified or not. -/
inductive Column.Spelled : Column → List Token → Prop
  | bare {n : String} (h : IsName n) : Spelled (.bare n) [.word n]
  | qualified {q n : String} (hq : IsName q) (h : IsName n) :
      Spelled ⟨some q, n⟩ [.word q, .dot, .word n]

/-- Digits, with or without a minus sign before them, and the integer that they write. -/
inductive Numeral : Int → List Char → Prop
  | plain {cs : List Char} (some : cs ≠ []) (digits : cs.all isAsciiDigit) :
      Numeral (natOfDigits cs) cs
  | minus {cs : List Char} (some : cs ≠ []) (digits : cs.all isAsciiDigit) :
      Numeral (-(natOfDigits cs : Int)) ('-' :: cs)

namespace Operand

/-- A value. A numeral stands for its integer, and any number for what it reads as. -/
inductive Spelled : Operand → List Token → Prop
  | placeholder : Spelled .placeholder [.placeholder]
  | text (s : String) : Spelled (.literal (.text s)) [.text s]
  | integer {n : Int} {cs : List Char} (h : Numeral n cs) (fits : fitsSigned n) :
      Spelled (.literal (.int n)) [.number (String.ofList cs)]
  | number {digits : String} {v : Json} (h : Token.numberValue? digits = some v) :
      Spelled (.literal v) [.number digits]
  | null {t : Token} (h : Keyword.null.Spells t) : Spelled (.literal .null) [t]
  | trueWord {t : Token} (h : Keyword.true.Spells t) : Spelled (.literal (.bool true)) [t]
  | falseWord {t : Token} (h : Keyword.false.Spells t) : Spelled (.literal (.bool false)) [t]
  | now {w s : String} (h : Text.equalsIgnoringCase "datetime" w = true)
      (hs : Text.equalsIgnoringCase "now" s = true) :
      Spelled .now [.word w, .leftParen, .text s, .rightParen]

/-- A number or a placeholder. -/
inductive Counted : Operand → List Token → Prop
  | placeholder : Counted .placeholder [.placeholder]
  | number {digits : String} {v : Json} (h : Token.numberValue? digits = some v) :
      Counted (.literal v) [.number digits]

theorem Counted.spelled {o : Operand} {us : List Token} (h : o.Counted us) : o.Spelled us := by
  cases h with
  | placeholder => exact .placeholder
  | number h => exact .number h

end Operand

inductive Condition.Spelled : Condition → List Token → Prop
  | isNull {c : Column} {us : List Token} {i n : Token} (column : c.Spelled us)
      (isWord : Keyword.is.Spells i) (nullWord : Keyword.null.Spells n) :
      Spelled (.isNull c) (us ++ [i, n])
  | isNotNull {c : Column} {us : List Token} {i m n : Token} (column : c.Spelled us)
      (isWord : Keyword.is.Spells i) (notWord : Keyword.not.Spells m)
      (nullWord : Keyword.null.Spells n) : Spelled (.isNotNull c) (us ++ [i, m, n])
  | equals {c : Column} {o : Operand} {us vs : List Token} (column : c.Spelled us)
      (operand : o.Spelled vs) : Spelled (.equals c o) (us ++ .equal :: vs)

/-- Conditions joined by `AND`. -/
abbrev Condition.AllSpelled : List Condition → List Token → Prop :=
  Separated Keyword.and.Spells Condition.Spelled

inductive Projection.Spelled : Projection → List Token → Prop
  | all : Spelled .all [.star]
  | allOf (q : String) : Spelled (.allOf q) [.word q, .dot, .star]
  | column {c : Column} {label : Option String} {us vs : List Token} (column : c.Spelled us)
      (labelled : SecondName label vs) : Spelled (.column c label) (us ++ vs)

/-- A column that gets a value. -/
inductive Assigned : String × Operand → List Token → Prop
  | mk {n : String} {o : Operand} {us : List Token} (h : IsName n) (operand : o.Spelled us) :
      Assigned (n, o) (.word n :: .equal :: us)

/-- The join after `LEFT`. Without a second name the table goes by its own. -/
inductive Join.Spelled : Join → List Token → Prop
  | mk {table : String} {short : Option String} {left right : Column} {j o : Token}
      {us vs ls rs : List Token} (outer : Optionally .outer us) (joinWord : Keyword.join.Spells j)
      (named : IsName table) (second : SecondName short vs) (onWord : Keyword.on.Spells o)
      (leftSide : left.Spelled ls) (rightSide : right.Spelled rs) :
      Spelled ⟨table, short.getD table, left, right⟩
        (us ++ j :: .word table :: (vs ++ o :: (ls ++ .equal :: rs)))

/-- The order after `ORDER`. -/
inductive OrderBy.Spelled : OrderBy → List Token → Prop
  | ascending {c : Column} {b : Token} {us vs : List Token} (byWord : Keyword.by.Spells b)
      (column : c.Spelled us) (asc : Optionally .asc vs) : Spelled ⟨c, false⟩ (b :: (us ++ vs))
  | descending {c : Column} {b d : Token} {us : List Token} (byWord : Keyword.by.Spells b)
      (column : c.Spelled us) (desc : Keyword.desc.Spells d) :
      Spelled ⟨c, true⟩ (b :: (us ++ [d]))

/-- The window after `LIMIT`. -/
inductive Bounds (count : Operand → List Token → Prop) :
    Operand × Option Operand → List Token → Prop
  | mk {limit : Operand} {offset : Option Operand} {us vs : List Token} (h : count limit us)
      (skipped : Clause .offset count offset vs) : Bounds count (limit, offset) (us ++ vs)

/-! ## Statements -/

/-- What follows `INSERT`. -/
inductive Insert.Spelled : Insert → List Token → Prop
  | mk {table : String} {columns : List String} {values : List Operand} {i v : Token}
      {us vs : List Token} (intoWord : Keyword.into.Spells i) (named : IsName table)
      (columnList : Separated (· = .comma) Named columns us) (valuesWord : Keyword.values.Spells v)
      (valueList : Separated (· = .comma) Operand.Spelled values vs) :
      Spelled ⟨table, columns, values⟩
        (i :: .word table :: .leftParen ::
          (us ++ .rightParen :: v :: .leftParen :: (vs ++ [.rightParen])))

/-- What follows `SELECT`. -/
inductive Select.Spelled (count : Operand → List Token → Prop) : Select → List Token → Prop
  | mk {projection : List Projection} {table : String} {short : Option String}
      {join : Option Join} {conditions : Option (List Condition)} {order : Option OrderBy}
      {window : Option (Operand × Option Operand)} {f : Token} {ps ss js cs os ws : List Token}
      (projected : Separated (· = .comma) Projection.Spelled projection ps)
      (fromWord : Keyword.from.Spells f) (named : IsName table) (second : SecondName short ss)
      (joined : Clause .left Join.Spelled join js)
      (tested : Clause .where Condition.AllSpelled conditions cs)
      (ordered : Clause .order OrderBy.Spelled order os)
      (limited : Clause .limit (Bounds count) window ws) :
      Spelled count ⟨projection, table, short, join, conditions.getD [], order,
          window.map Prod.fst, window.bind Prod.snd⟩
        (ps ++ f :: .word table :: (ss ++ (js ++ (cs ++ (os ++ ws)))))

/-- What follows `UPDATE`. -/
inductive Update.Spelled : Update → List Token → Prop
  | mk {table : String} {assignments : List (String × Operand)} {conditions : List Condition}
      {s w : Token} {us vs : List Token} (named : IsName table) (setWord : Keyword.set.Spells s)
      (assigned : Separated (· = .comma) Assigned assignments us)
      (whereWord : Keyword.where.Spells w) (tested : Condition.AllSpelled conditions vs) :
      Spelled ⟨table, assignments, conditions⟩ (.word table :: s :: (us ++ w :: vs))

/-- What follows `DELETE`. -/
inductive Delete.Spelled : Delete → List Token → Prop
  | mk {table : String} {conditions : List Condition} {f w : Token} {us : List Token}
      (fromWord : Keyword.from.Spells f) (named : IsName table) (whereWord : Keyword.where.Spells w)
      (tested : Condition.AllSpelled conditions us) :
      Spelled ⟨table, conditions⟩ (f :: .word table :: w :: us)

/-- A whole statement. -/
inductive Statement.Spelled (count : Operand → List Token → Prop) : Statement → List Token → Prop
  | insert {s : Insert} {t : Token} {us : List Token} (h : Keyword.insert.Spells t)
      (spelled : s.Spelled us) : Spelled count (.insert s) (t :: us)
  | select {s : Select} {t : Token} {us : List Token} (h : Keyword.select.Spells t)
      (spelled : s.Spelled count us) : Spelled count (.select s) (t :: us)
  | update {s : Update} {t : Token} {us : List Token} (h : Keyword.update.Spells t)
      (spelled : s.Spelled us) : Spelled count (.update s) (t :: us)
  | delete {s : Delete} {t : Token} {us : List Token} (h : Keyword.delete.Spells t)
      (spelled : s.Spelled us) : Spelled count (.delete s) (t :: us)

end OfferBook
