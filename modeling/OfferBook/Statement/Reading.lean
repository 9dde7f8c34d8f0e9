import OfferBook.Statement.Basic
import OfferBook.Statement.Token

/-! # Reading statements

The grammar, keywords in any case, `col` possibly qualified as `name.col`:

* `INSERT INTO table (col, ...) VALUES (value, ...)`
* `SELECT projection FROM table [[AS] alias]
  [LEFT [OUTER] JOIN table2 [[AS] alias2] ON col = col] [WHERE condition [AND condition]*]
  [ORDER BY col [ASC | DESC]] [LIMIT value [OFFSET value]]`
* `UPDATE table SET col = value [, col = value]* WHERE condition [AND condition]*`
* `DELETE FROM table WHERE condition [AND condition]*`
* value: `?`, a text, a number, `NULL`, `TRUE`, `FALSE` or `datetime('now')`
* condition: `col IS [NOT] NULL` or `col = value`
* projection: `*`, `name.*` or `col [[AS] label]`, several divided by commas

Each reader takes its part from the front of the tokens and returns the rest. `Statement.parse?`
reads a whole text; one of any other shape is no statement.
-/

namespace OfferBook

namespace Token

/-- The rest after a keyword. -/
def keyword? (k : Keyword) : List Token → Option (List Token)
  | .word w :: r => if k.isWord w then some r else none
  | _ => none

/-- The rest after a keyword that may be left out. -/
def skipKeyword (k : Keyword) (ts : List Token) : List Token := (keyword? k ts).getD ts

/-- The rest after a token. -/
def expect? (t : Token) : List Token → Option (List Token)
  | u :: r => if u = t then some r else none
  | [] => none

/-- A word that is no keyword. -/
def name? : List Token → Option (String × List Token)
  | .word w :: r => if Keyword.reserves w then none else some (w, r)
  | _ => none

/-- A name that may be left out. -/
def optionalName (ts : List Token) : Option String × List Token :=
  match name? ts with
  | some (n, r) => (some n, r)
  | none => (none, ts)

/-- A second name for what stands before it, with or without `AS`. -/
def secondName? (ts : List Token) : Option (Option String × List Token) :=
  match keyword? .as ts with
  | some r => (name? r).map fun (n, r) => (some n, r)
  | none => some (optionalName ts)

/-- At least one item, with a separator between any two. The fuel bounds their number. -/
def separated? (separator : List Token → Option (List Token))
    (item : List Token → Option (α × List Token)) :
    (fuel : Nat) → List Token → Option (List α × List Token)
  | 0, _ => none
  | fuel + 1, ts => do
    let (a, r) ← item ts
    match separator r with
    | some r =>
      let (rest, r) ← separated? separator item fuel r
      some (a :: rest, r)
    | none => some ([a], r)

/-- Items divided by commas. -/
def list? (item : List Token → Option (α × List Token)) (ts : List Token) :
    Option (List α × List Token) :=
  separated? (expect? .comma) item ts.length ts

/-- Items divided by commas, between parentheses. -/
def enclosed? (item : List Token → Option (α × List Token)) (ts : List Token) :
    Option (List α × List Token) := do
  let (items, r) ← list? item (← expect? .leftParen ts)
  some (items, ← expect? .rightParen r)

/-- The value of a number: an integer of 64 bits, else the nearest double. -/
def numberValue? (digits : String) : Option Json :=
  match parseSigned? digits.toList with
  | some n => some (.int n)
  | none => (Double.parse? digits).map .double

def column? (ts : List Token) : Option (Column × List Token) := do
  let (first, r) ← name? ts
  match expect? .dot r with
  | some r =>
    let (name, r) ← name? r
    some (⟨some first, name⟩, r)
  | none => some (.bare first, r)

/-- A word that stands for a value. -/
def wordOperand? (w : String) (r : List Token) : Option (Operand × List Token) :=
  if Keyword.isWord .null w then some (.literal .null, r)
  else if Keyword.isWord .true w then some (.literal (.bool true), r)
  else if Keyword.isWord .false w then some (.literal (.bool false), r)
  else if Text.equalsIgnoringCase "datetime" w then
    match r with
    | .leftParen :: .text s :: .rightParen :: r =>
      if Text.equalsIgnoringCase "now" s then some (.now, r) else none
    | _ => none
  else none

def operand? : List Token → Option (Operand × List Token)
  | .placeholder :: r => some (.placeholder, r)
  | .text s :: r => some (.literal (.text s), r)
  | .number digits :: r => (numberValue? digits).map fun v => (.literal v, r)
  | .word w :: r => wordOperand? w r
  | _ => none

def condition? (ts : List Token) : Option (Condition × List Token) := do
  let (column, r) ← column? ts
  match keyword? .is r with
  | some r =>
    match keyword? .not r with
    | some r => some (.isNotNull column, ← keyword? .null r)
    | none => some (.isNull column, ← keyword? .null r)
  | none =>
    let (operand, r) ← operand? (← expect? .equal r)
    some (.equals column operand, r)

/-- Conditions joined by `AND`. -/
def conditions? (ts : List Token) : Option (List Condition × List Token) :=
  separated? (keyword? .and) condition? ts.length ts

/-- The conditions after `WHERE`. -/
def where? (ts : List Token) : Option (List Condition × List Token) := do
  conditions? (← keyword? .where ts)

def projection? : List Token → Option (Projection × List Token)
  | .star :: r => some (.all, r)
  | .word q :: .dot :: .star :: r => some (.allOf q, r)
  | ts => do
    let (column, r) ← column? ts
    let (label, r) ← secondName? r
    some (.column column label, r)

def assignment? (ts : List Token) : Option ((String × Operand) × List Token) := do
  let (column, r) ← name? ts
  let (operand, r) ← operand? (← expect? .equal r)
  some ((column, operand), r)

/-- The join after `LEFT`. -/
def join? (ts : List Token) : Option (Join × List Token) := do
  let (table, r) ← name? (← keyword? .join (skipKeyword .outer ts))
  let (shortName, r) ← secondName? r
  let (left, r) ← column? (← keyword? .on r)
  let (right, r) ← column? (← expect? .equal r)
  some (⟨table, shortName.getD table, left, right⟩, r)

/-- A part that begins with a keyword and may be left out. -/
def clause? (k : Keyword) (part : List Token → Option (α × List Token)) (ts : List Token) :
    Option (Option α × List Token) :=
  match keyword? k ts with
  | some r => (part r).map fun (a, r) => (some a, r)
  | none => some (none, ts)

/-- The order after `ORDER`. -/
def order? (ts : List Token) : Option (OrderBy × List Token) := do
  let (column, r) ← column? (← keyword? .by ts)
  match keyword? .desc r with
  | some r => some (⟨column, true⟩, r)
  | none => some (⟨column, false⟩, skipKeyword .asc r)

/-- The window after `LIMIT`. -/
def window? (ts : List Token) : Option ((Operand × Option Operand) × List Token) := do
  let (limit, r) ← operand? ts
  let (offset, r) ← clause? .offset operand? r
  some ((limit, offset), r)

/-- What follows `INSERT`. -/
def insert? (ts : List Token) : Option (Insert × List Token) := do
  let (table, r) ← name? (← keyword? .into ts)
  let (columns, r) ← enclosed? name? r
  let (values, r) ← enclosed? operand? (← keyword? .values r)
  some (⟨table, columns, values⟩, r)

/-- What follows `SELECT`. -/
def select? (ts : List Token) : Option (Select × List Token) := do
  let (projection, r) ← list? projection? ts
  let (table, r) ← name? (← keyword? .from r)
  let (shortName, r) ← secondName? r
  let (join, r) ← clause? .left join? r
  let (conditions, r) ← clause? .where conditions? r
  let (orderBy, r) ← clause? .order order? r
  let (window, r) ← clause? .limit window? r
  some (⟨projection, table, shortName, join, conditions.getD [], orderBy, window.map Prod.fst,
    window.bind Prod.snd⟩, r)

/-- What follows `UPDATE`. -/
def update? (ts : List Token) : Option (Update × List Token) := do
  let (table, r) ← name? ts
  let (assignments, r) ← list? assignment? (← keyword? .set r)
  let (conditions, r) ← where? r
  some (⟨table, assignments, conditions⟩, r)

/-- What follows `DELETE`. -/
def delete? (ts : List Token) : Option (Delete × List Token) := do
  let (table, r) ← name? (← keyword? .from ts)
  let (conditions, r) ← where? r
  some (⟨table, conditions⟩, r)

/-- A statement at the front of some tokens. -/
def statement? : List Token → Option (Statement × List Token)
  | .word w :: r =>
    if Keyword.isWord .insert w then (insert? r).map fun (s, r) => (.insert s, r)
    else if Keyword.isWord .select w then (select? r).map fun (s, r) => (.select s, r)
    else if Keyword.isWord .update w then (update? r).map fun (s, r) => (.update s, r)
    else if Keyword.isWord .delete w then (delete? r).map fun (s, r) => (.delete s, r)
    else none
  | _ => none

end Token

/-- The statement written by a text. -/
def Statement.parse? (sql : String) : Option Statement :=
  match (Token.scan sql).bind Token.statement? with
  | some (s, []) => some s
  | _ => none

end OfferBook
