import OfferBook.Proofs.Document.Change
import OfferBook.Proofs.Statement.Parts
import OfferBook.Store.Basic

/-! # Parameters in the places of placeholders

Parameters that are bound while a statement is executed have the effect of literals that are
written into it before.

* `Statement.fill` — a statement with a literal in the place of each placeholder.
* `Operand.bindAll_drop`, `Condition.bindAll_drop` — parts that are bound after others take the
  values with which they would be filled.
* `Statement.fill_congr` — only as many parameters count as there are placeholders.
* `Store.binding_is_substitution` — executing a statement with parameters, and without.
-/

namespace OfferBook

/-! ## Operands -/

namespace Operand

/-- How many of some operands are placeholders. -/
def placeholders (os : List Operand) : Nat := os.count .placeholder

theorem placeholders_cons (o : Operand) (rest : List Operand) :
    placeholders (o :: rest) = placeholders [o] + placeholders rest := by
  rw [← List.singleton_append]
  exact List.count_append

theorem placeholders_append (os rest : List Operand) :
    placeholders (os ++ rest) = placeholders os + placeholders rest := List.count_append

/-- A placeholder becomes the parameter with the index `k`, or null where there is none. -/
def fill (params : List Json) (k : Nat) : Operand → Operand
  | .placeholder => .literal (params.getD k .null)
  | o => o

/-- Fill operands that come after `k` placeholders. -/
def fillAll (params : List Json) (k : Nat) : List Operand → List Operand
  | [] => []
  | o :: rest => o.fill params k :: fillAll params (k + placeholders [o]) rest

variable {params params' : List Json} {k : Nat} {os : List Operand}

@[simp] theorem length_fillAll : (fillAll params k os).length = os.length := by
  induction os generalizing k with
  | nil => rfl
  | cons o rest ih => rw [fillAll, List.length_cons, ih, List.length_cons]

theorem fillAll_append (rest : List Operand) : fillAll params k (os ++ rest) =
    fillAll params k os ++ fillAll params (k + placeholders os) rest := by
  induction os generalizing k with
  | nil => rfl
  | cons o os ih =>
    rw [List.cons_append, fillAll, ih, placeholders_cons o os, ← Nat.add_assoc]
    rfl

theorem take_fillAll (n : Nat) : (fillAll params k os).take n = fillAll params k (os.take n) := by
  induction os generalizing k n with
  | nil => rw [fillAll, List.take_nil, fillAll]
  | cons o rest ih =>
    cases n with
    | zero => rfl
    | succ n => rw [fillAll, List.take_succ_cons, ih, List.take_succ_cons, fillAll]

/-- Each placeholder is filled with the parameter of its number. -/
theorem fillAll_eq_mapIdx : fillAll params k os =
    os.mapIdx fun i o => o.fill params (k + placeholders (os.take i)) := by
  induction os generalizing k with
  | nil => rfl
  | cons o rest ih =>
    rw [fillAll, ih, List.mapIdx_cons]
    congr 1
    refine congrArg (fun f => rest.mapIdx f) (funext fun i => funext fun o' => ?_)
    rw [List.take_succ_cons, placeholders_cons o (rest.take i), Nat.add_assoc]

theorem fill_congr {o : Operand}
    (same : ∀ i, i < k + placeholders [o] → params.getD i .null = params'.getD i .null) :
    o.fill params k = o.fill params' k := by
  cases o with
  | placeholder => exact congrArg literal (same k (Nat.lt_succ_self k))
  | literal | now => rfl

theorem fillAll_congr (os : List Operand)
    (same : ∀ i, i < k + placeholders os → params.getD i .null = params'.getD i .null) :
    fillAll params k os = fillAll params' k os := by
  induction os generalizing k with
  | nil => rfl
  | cons o rest ih =>
    rw [placeholders_cons] at same
    rw [fillAll, fillAll, fill_congr fun i hi => same i (by omega),
      ih fun i hi => same i (by omega)]

theorem map_fill_congr {o : Option Operand}
    (same : ∀ i, i < k + placeholders o.toList → params.getD i .null = params'.getD i .null) :
    o.map (·.fill params k) = o.map (·.fill params' k) := by
  cases o with
  | none => rfl
  | some o => exact congrArg some (fill_congr same)

theorem bind_drop (now : Instant) (o : Operand) : o.bind now (params.drop k) =
    ((o.fill params k).value now, params.drop (k + placeholders [o])) := by
  cases o with
  | placeholder =>
    -- What is left of the parameters begins with the one of index `k`, if it exists.
    have one : placeholders [.placeholder] = 1 := rfl
    rw [bind, List.tail_drop, one, List.headD_eq_head?_getD, List.head?_drop, fill, value_literal,
      List.getD_eq_getElem?_getD]
  | literal | now => rfl

theorem bindAll_drop (now : Instant) : bindAll now (params.drop k) os =
    ((fillAll params k os).map (value now), params.drop (k + placeholders os)) := by
  induction os generalizing k with
  | nil => rfl
  | cons o rest ih =>
    rw [placeholders_cons, ← Nat.add_assoc]
    simp only [bindAll, bind_drop, ih]
    rfl

theorem bindOption_drop (now : Instant) (o : Option Operand) :
    bindOption now (params.drop k) o = ((o.map (·.fill params k)).map (value now),
      params.drop (k + placeholders o.toList)) := by
  cases o with
  | none => rfl
  | some o =>
    simp only [bindOption, bind_drop]
    rfl

end Operand

/-! ## Conditions -/

namespace Condition

def fill (params : List Json) (k : Nat) : Condition → Condition
  | .equals c o => .equals c (o.fill params k)
  | c => c

/-- Fill conditions that come after `k` placeholders. -/
def fillAll (params : List Json) (k : Nat) : List Condition → List Condition
  | [] => []
  | c :: rest =>
    c.fill params k :: fillAll params (k + Operand.placeholders c.operands) rest

/-- What a condition without placeholders asks of a row. -/
def test (now : Instant) (scope : Scope) : Condition → Test
  | .isNull c => ⟨scope.field c, .isNull⟩
  | .isNotNull c => ⟨scope.field c, .isNotNull⟩
  | .equals c o => ⟨scope.field c, .equals (o.value now)⟩

variable {params params' : List Json} {k : Nat} {cs : List Condition}

theorem operands_fill (c : Condition) :
    (c.fill params k).operands = Operand.fillAll params k c.operands := by cases c <;> rfl

theorem operands_fillAll : (fillAll params k cs).flatMap operands =
    Operand.fillAll params k (cs.flatMap operands) := by
  induction cs generalizing k with
  | nil => rfl
  | cons c rest ih =>
    rw [fillAll, List.flatMap_cons, List.flatMap_cons, Operand.fillAll_append, operands_fill, ih]

theorem fill_congr {c : Condition} (same : ∀ i, i < k + Operand.placeholders c.operands →
      params.getD i .null = params'.getD i .null) : c.fill params k = c.fill params' k := by
  cases c with
  | isNull | isNotNull => rfl
  | equals c o => exact congrArg (equals c) (Operand.fill_congr same)

theorem fillAll_congr (cs : List Condition)
    (same : ∀ i, i < k + Operand.placeholders (cs.flatMap operands) →
      params.getD i .null = params'.getD i .null) :
    fillAll params k cs = fillAll params' k cs := by
  induction cs generalizing k with
  | nil => rfl
  | cons c rest ih =>
    rw [List.flatMap_cons, Operand.placeholders_append] at same
    rw [fillAll, fillAll, fill_congr fun i hi => same i (by omega),
      ih fun i hi => same i (by omega)]

theorem bind_drop (now : Instant) (scope : Scope) (c : Condition) :
    c.bind now scope (params.drop k) =
      ((c.fill params k).test now scope, params.drop (k + Operand.placeholders c.operands)) := by
  cases c with
  | isNull | isNotNull => rfl
  | equals c o =>
    simp only [bind, Operand.bind_drop]
    rfl

theorem bindAll_drop (now : Instant) (scope : Scope) : bindAll now scope (params.drop k) cs =
    ((fillAll params k cs).map (test now scope),
      params.drop (k + Operand.placeholders (cs.flatMap operands))) := by
  induction cs generalizing k with
  | nil => rfl
  | cons c rest ih =>
    rw [List.flatMap_cons, Operand.placeholders_append, ← Nat.add_assoc]
    simp only [bindAll, bind_drop, ih]
    rfl

end Condition

/-! ## Statements -/

def Insert.fill (params : List Json) (s : Insert) : Insert :=
  { s with values := Operand.fillAll params 0 s.values }

def Select.fill (params : List Json) (s : Select) : Select :=
  let k := Operand.placeholders (s.conditions.flatMap Condition.operands)
  { s with
    conditions := Condition.fillAll params 0 s.conditions
    limit := s.limit.map (·.fill params k)
    offset := s.offset.map (·.fill params (k + Operand.placeholders s.limit.toList)) }

def Update.fill (params : List Json) (s : Update) : Update :=
  let values := s.assignments.map Prod.snd
  { s with
    assignments := (s.assignments.map Prod.fst).zip (Operand.fillAll params 0 values)
    conditions := Condition.fillAll params (Operand.placeholders values) s.conditions }

def Delete.fill (params : List Json) (s : Delete) : Delete :=
  { s with conditions := Condition.fillAll params 0 s.conditions }

/-- Parameters in the places of placeholders. -/
def Statement.fill (params : List Json) : Statement → Statement
  | .insert s => .insert (s.fill params)
  | .select s => .select (s.fill params)
  | .update s => .update (s.fill params)
  | .delete s => .delete (s.fill params)

theorem Operand.fillAll_toList (params : List Json) (k : Nat) (o : Option Operand) :
    (o.map (·.fill params k)).toList = fillAll params k o.toList := by cases o <;> rfl

theorem Update.assigned_fill (params : List Json) (s : Update) :
    (s.fill params).assignments.map Prod.fst = s.assignments.map Prod.fst ∧
    (s.fill params).assignments.map Prod.snd =
      Operand.fillAll params 0 (s.assignments.map Prod.snd) := by
  constructor
  · exact List.map_fst_zip (by simp)
  · exact List.map_snd_zip (by simp)

theorem Statement.operands_fill (params : List Json) (s : Statement) :
    (s.fill params).operands = Operand.fillAll params 0 s.operands := by
  cases s with
  | insert s => rfl
  | select s =>
    simp only [fill, operands, Select.fill, Operand.fillAll_append, Condition.operands_fillAll,
      Operand.fillAll_toList, Nat.zero_add]
  | update s =>
    simp only [fill, operands, (Update.assigned_fill params s).2, Operand.fillAll_append]
    simp only [Update.fill, Condition.operands_fillAll, Nat.zero_add]
  | delete s => exact Condition.operands_fillAll

/-- Only as many parameters count as there are placeholders. -/
theorem Statement.fill_congr {params params' : List Json} {s : Statement}
    (same : ∀ i, i < Operand.placeholders s.operands →
      params.getD i .null = params'.getD i .null) : s.fill params = s.fill params' := by
  cases s with
  | insert s =>
    have values : Operand.fillAll params 0 s.values = Operand.fillAll params' 0 s.values :=
      Operand.fillAll_congr s.values fun i hi => same i (by simpa [operands] using hi)
    simp only [fill, Insert.fill, values]
  | select s =>
    simp only [operands, Operand.placeholders_append] at same
    have conditions := Condition.fillAll_congr (k := 0) s.conditions fun i hi =>
      same i (by omega)
    have limit := Operand.map_fill_congr (o := s.limit)
      (k := Operand.placeholders (s.conditions.flatMap Condition.operands)) fun i hi =>
        same i (by omega)
    have offset := Operand.map_fill_congr (o := s.offset)
      (k := Operand.placeholders (s.conditions.flatMap Condition.operands) +
        Operand.placeholders s.limit.toList) fun i hi => same i (by omega)
    simp only [fill, Select.fill, conditions, limit, offset]
  | update s =>
    simp only [operands, Operand.placeholders_append] at same
    have values := Operand.fillAll_congr (k := 0) (s.assignments.map Prod.snd) fun i hi =>
      same i (by omega)
    have conditions := Condition.fillAll_congr s.conditions
      (k := Operand.placeholders (s.assignments.map Prod.snd)) fun i hi => same i (by omega)
    simp only [fill, Update.fill, values, conditions]
  | delete s =>
    have conditions := Condition.fillAll_congr (k := 0) s.conditions fun i hi =>
      same i (by simpa [operands] using hi)
    simp only [fill, Delete.fill, conditions]

/-! ## Effects -/

theorem Operand.bindAll_eq (now : Instant) (params : List Json) (os : List Operand) :
    bindAll now params os =
      ((fillAll params 0 os).map (value now), params.drop (placeholders os)) := by
  have bound : bindAll now (params.drop 0) os = _ := bindAll_drop now
  rwa [List.drop_zero, Nat.zero_add] at bound

theorem Operand.bindOption_nil (now : Instant) (o : Option Operand) :
    bindOption now [] o = (o.map (value now), []) := by
  cases o with
  | none => rfl
  | some o => cases o <;> rfl

namespace Condition

variable (now : Instant) (scope : Scope) (cs : List Condition)

theorem bindAll_eq (params : List Json) : bindAll now scope params cs =
    ((fillAll params 0 cs).map (test now scope),
      params.drop (Operand.placeholders (cs.flatMap operands))) := by
  have bound : bindAll now scope (params.drop 0) cs = _ := bindAll_drop now scope
  rwa [List.drop_zero, Nat.zero_add] at bound

theorem bindAll_nil : bindAll now scope [] cs = (cs.map (test now scope), []) := by
  induction cs with
  | nil => rfl
  | cons c rest ih =>
    have first : c.bind now scope [] = (c.test now scope, []) := by
      cases c with
      | isNull | isNotNull => rfl
      | equals c o => cases o <;> rfl
    simp only [bindAll, first, ih, List.map_cons]

end Condition

namespace Select

/-- The rows that a selection without placeholders leaves out and takes. -/
def window (now : Instant) (s : Select) : Window :=
  ⟨((s.offset.map (·.value now)).bind Json.count?).getD 0,
    (s.limit.map (·.value now)).bind Json.count?⟩

/-- Rows in the order that is asked for. -/
def arrange (s : Select) (rows : List Record) : List Record :=
  match s.orderBy with
  | some order => order.sort s.join rows
  | none => rows

end Select

section Effects

variable (now : Instant) (params : List Json) (doc : Document)

theorem Insert.assignments_fill (s : Insert) :
    (s.fill params).assignments now [] = s.assignments now params := by
  simp only [assignments, fill, Operand.bindAll_eq now params, Operand.bindAll_nil,
    Operand.take_fillAll]

theorem Insert.apply_fill (s : Insert) :
    (s.fill params).apply now [] doc = s.apply now params doc := by
  simp only [apply, row, assignments_fill]
  rfl

theorem Update.bound_fill (s : Update) : (s.fill params).bound now [] = s.bound now params := by
  obtain ⟨names, values⟩ := assigned_fill params s
  have conditions : (s.fill params).conditions = Condition.fillAll params
      (Operand.placeholders (s.assignments.map Prod.snd)) s.conditions := rfl
  simp only [bound, names, values, conditions, Operand.bindAll_eq now params, Operand.bindAll_nil,
    Condition.bindAll_drop, Condition.bindAll_nil]

theorem Update.apply_fill (s : Update) :
    (s.fill params).apply now [] doc = s.apply now params doc := by
  simp only [apply, bound_fill]
  rfl

theorem Delete.apply_fill (s : Delete) :
    (s.fill params).apply now [] doc = s.apply now params doc := by
  simp only [apply, fill, Condition.bindAll_eq now none s.conditions params,
    Condition.bindAll_nil]

theorem Select.rows_nil (s : Select) : s.rows now [] doc =
    (s.window now).apply (s.arrange ((s.candidates doc).filter
      (Test.allHold (s.conditions.map (Condition.test now s.join))))) := by
  simp only [rows, Condition.bindAll_nil, Operand.bindOption_nil]
  rfl

theorem Select.rows_fill (s : Select) :
    (s.fill params).rows now [] doc = s.rows now params doc := by
  rw [rows_nil]
  simp only [rows, Condition.bindAll_eq now s.join s.conditions params, Operand.bindOption_drop]
  rfl

end Effects

namespace Store

variable {m : Type} [Medium m]

theorem execute_fill (now : Instant) (params : List Json) (s : Statement) :
    execute (m := m) now [] (s.fill params) = execute now params s := by
  cases s with
  | insert s =>
    have same : (s.fill params).apply now [] = s.apply now params :=
      funext (Insert.apply_fill now params · s)
    simp only [execute, Statement.fill, same]
  | select s =>
    have same : select (m := m) now [] (s.fill params) = select now params s := by
      simp only [select, Select.rows_fill]
    simp only [execute, Statement.fill, same]
  | update s =>
    have same : (s.fill params).apply now [] = s.apply now params :=
      funext (Update.apply_fill now params · s)
    simp only [execute, Statement.fill, same]
  | delete s =>
    have same : (s.fill params).apply now [] = s.apply now params :=
      funext (Delete.apply_fill now params · s)
    simp only [execute, Statement.fill, same]

/-- Executing a statement with parameters is executing it without any, after each placeholder has
    been replaced by the parameter of its number in the order of the text, or by null. Parameters
    beyond the placeholders have no effect. -/
theorem binding_is_substitution (now : Instant) (params : List Json) (s : Statement) :
    (s.fill params).operands = s.operands.mapIdx (fun i o =>
      o.fill params (Operand.placeholders (s.operands.take i))) ∧
    execute (m := m) now params s = execute now [] (s.fill params) ∧
    execute (m := m) now params s =
      execute now (params.take (Operand.placeholders s.operands)) s := by
  refine ⟨?_, (execute_fill now params s).symm, ?_⟩
  · simpa only [Nat.zero_add] using
      (Statement.operands_fill params s).trans Operand.fillAll_eq_mapIdx
  · rw [← execute_fill now params, ← execute_fill now (params.take _)]
    -- Filling reads no parameter behind those that were taken.
    refine congrArg _ (Statement.fill_congr fun i hi => ?_)
    rw [List.getD_eq_getElem?_getD, List.getD_eq_getElem?_getD, List.getElem?_take_of_lt hi]

end Store

end OfferBook
