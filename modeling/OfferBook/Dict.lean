/-! # Dictionaries

Finite maps from texts to values, kept as a list in strictly increasing order of the keys
(by code point):

* `Entries.lookup`, `Entries.insert` — the operations on the bare list.
* `Dict` — a list of entries with its order as a proof, so that equal maps are equal values.
* `Dict.get?_insert_self`, `Dict.get?_insert_of_ne` — what an insertion does to the view `get?`.
-/

namespace OfferBook

namespace Entries

variable {α : Type _}

/-- The value of a key. -/
def lookup (key : String) : List (String × α) → Option α
  | [] => none
  | (k, v) :: r => if k = key then some v else lookup key r

/-- Set the value of a key in a list ordered by keys. -/
def insert (key : String) (value : α) : List (String × α) → List (String × α)
  | [] => [(key, value)]
  | (k, v) :: r =>
    if key < k then (key, value) :: (k, v) :: r
    else if k < key then (k, v) :: insert key value r
    else (key, value) :: r

/-- Keys in strictly increasing order. -/
def Ordered (entries : List (String × α)) : Prop := (entries.map Prod.fst).Pairwise (· < ·)

theorem mem_keys_insert {key k : String} {value : α} {entries : List (String × α)} :
    k ∈ (insert key value entries).map Prod.fst ↔ k = key ∨ k ∈ entries.map Prod.fst := by
  induction entries with
  | nil => simp [insert]
  | cons e r ih =>
    obtain ⟨l, v⟩ := e
    unfold insert
    split
    · simp
    · split
      · simp only [List.map_cons, List.mem_cons, ih]
        grind
      · next h₁ h₂ =>
        have : l = key := String.le_antisymm (String.not_lt.mp h₁) (String.not_lt.mp h₂)
        simp [this]

theorem Ordered.insert {entries : List (String × α)} (h : Ordered entries) (key : String)
    (value : α) : Ordered (insert key value entries) := by
  induction entries with
  | nil => simp [Ordered, Entries.insert]
  | cons e r ih =>
    obtain ⟨l, v⟩ := e
    obtain ⟨hl, hr⟩ := List.pairwise_cons.mp h
    unfold Entries.insert
    split
    · next hlt =>
      refine List.pairwise_cons.mpr ⟨?_, h⟩
      intro k hk
      rcases List.mem_cons.mp hk with rfl | hk
      · exact hlt
      · exact String.lt_trans hlt (hl k hk)
    · next hge =>
      split
      · next hlt =>
        refine List.pairwise_cons.mpr ⟨?_, ih hr⟩
        intro k hk
        rcases mem_keys_insert.mp hk with rfl | hk
        · exact hlt
        · exact hl k hk
      · next hle =>
        have : l = key := String.le_antisymm (String.not_lt.mp hge) (String.not_lt.mp hle)
        subst this
        exact List.pairwise_cons.mpr ⟨hl, hr⟩

theorem lookup_insert_self (key : String) (value : α) (entries : List (String × α)) :
    lookup key (insert key value entries) = some value := by
  induction entries with
  | nil => simp [insert, lookup]
  | cons e r ih =>
    obtain ⟨l, v⟩ := e
    unfold insert
    split
    · simp [lookup]
    · split
      · next hlt =>
        have : l ≠ key := fun h => String.lt_irrefl key (h ▸ hlt)
        simp [lookup, this, ih]
      · simp [lookup]

theorem lookup_insert_of_ne {key k : String} (hne : k ≠ key) (value : α)
    (entries : List (String × α)) : lookup k (insert key value entries) = lookup k entries := by
  induction entries with
  | nil => simp [insert, lookup, hne.symm]
  | cons e r ih =>
    obtain ⟨l, v⟩ := e
    unfold insert
    split
    · simp [lookup, hne.symm]
    · split
      · simp [lookup, ih]
      · next h₁ h₂ =>
        have : l = key := String.le_antisymm (String.not_lt.mp h₁) (String.not_lt.mp h₂)
        subst this
        simp [lookup, hne.symm]

theorem lookup_eq_none {key : String} {entries : List (String × α)} :
    lookup key entries = none ↔ key ∉ entries.map Prod.fst := by
  induction entries with
  | nil => simp [lookup]
  | cons e r ih =>
    obtain ⟨k, v⟩ := e
    by_cases h : k = key <;> simp_all [lookup, eq_comm]

theorem insert_of_lookup {key : String} {value : α} {entries : List (String × α)}
    (ordered : Ordered entries) (h : lookup key entries = some value) :
    insert key value entries = entries := by
  induction entries with
  | nil => cases h
  | cons e r ih =>
    obtain ⟨l, v⟩ := e
    obtain ⟨least, ordered⟩ := List.pairwise_cons.mp ordered
    unfold lookup at h
    unfold insert
    split at h
    · next same =>
      subst same
      simp only [String.lt_irrefl, if_false, Option.some.inj h]
    · -- The key comes after the first one, since it has an entry.
      have later : l < key := by
        refine least key (Decidable.not_not.mp fun notin => ?_)
        rw [lookup_eq_none.mpr notin] at h
        cases h
      rw [if_neg (String.lt_asymm later), if_pos later, ih ordered h]

theorem lookup_of_mem {key : String} {value : α} {entries : List (String × α)}
    (distinct : (entries.map Prod.fst).Nodup) (mem : (key, value) ∈ entries) :
    lookup key entries = some value := by
  induction entries with
  | nil => exact absurd mem List.not_mem_nil
  | cons e r ih =>
    obtain ⟨notin, distinct⟩ := List.nodup_cons.mp distinct
    unfold lookup
    rcases List.mem_cons.mp mem with rfl | mem
    · exact if_pos rfl
    · rw [if_neg, ih distinct mem]
      rintro rfl
      exact notin (List.mem_map.mpr ⟨_, mem, rfl⟩)

/-- Leave out the entry of a key. -/
def erase (key : String) (entries : List (String × α)) : List (String × α) :=
  entries.filter (·.1 ≠ key)

theorem Ordered.erase {entries : List (String × α)} (h : Ordered entries) (key : String) :
    Ordered (erase key entries) :=
  List.Pairwise.sublist (List.filter_sublist.map Prod.fst) h

theorem lookup_erase (key k : String) (entries : List (String × α)) :
    lookup k (erase key entries) = if k = key then none else lookup k entries := by
  induction entries with
  | nil => simp [erase, lookup]
  | cons e r ih =>
    obtain ⟨l, v⟩ := e
    unfold erase at ih ⊢
    grind [lookup]

/-- Collect entries into an ordered list; of several with one key the last counts. -/
def ofList (entries : List (String × α)) : List (String × α) :=
  entries.foldl (fun acc e => insert e.1 e.2 acc) []

theorem ordered_foldl_insert (entries acc : List (String × α)) (h : Ordered acc) :
    Ordered (entries.foldl (fun acc e => insert e.1 e.2 acc) acc) := by
  induction entries generalizing acc with
  | nil => exact h
  | cons e r ih => exact ih _ (h.insert e.1 e.2)

theorem ordered_ofList (entries : List (String × α)) : Ordered (ofList entries) :=
  ordered_foldl_insert entries [] List.Pairwise.nil

end Entries

/-- A finite map from texts, listed in increasing order of its keys. -/
structure Dict (α : Type u) where
  entries : List (String × α)
  ordered : Entries.Ordered entries

namespace Dict

variable {α : Type u}

@[ext] theorem ext {a b : Dict α} (h : a.entries = b.entries) : a = b := by
  cases a; cases b; simp_all

instance [DecidableEq α] : DecidableEq (Dict α) := fun a b =>
  decidable_of_iff (a.entries = b.entries) ⟨ext, fun h => h ▸ rfl⟩

def empty : Dict α := ⟨[], List.Pairwise.nil⟩

instance : Inhabited (Dict α) := ⟨empty⟩
instance : EmptyCollection (Dict α) := ⟨empty⟩

def get? (d : Dict α) (key : String) : Option α := Entries.lookup key d.entries

def contains (d : Dict α) (key : String) : Bool := (d.get? key).isSome

def insert (d : Dict α) (key : String) (value : α) : Dict α :=
  ⟨Entries.insert key value d.entries, d.ordered.insert key value⟩

def erase (d : Dict α) (key : String) : Dict α :=
  ⟨Entries.erase key d.entries, d.ordered.erase key⟩

/-- Set the value of a key that has none. -/
def insertIfNew (d : Dict α) (key : String) (value : α) : Dict α :=
  if d.contains key then d else d.insert key value

/-- The map of a list of entries; of several with one key the last counts. -/
def ofList (entries : List (String × α)) : Dict α :=
  ⟨Entries.ofList entries, Entries.ordered_ofList entries⟩

def keys (d : Dict α) : List String := d.entries.map Prod.fst

def size (d : Dict α) : Nat := d.entries.length

@[simp] theorem get?_insert_self (d : Dict α) (key : String) (value : α) :
    (d.insert key value).get? key = some value :=
  Entries.lookup_insert_self key value d.entries

theorem get?_insert_of_ne (d : Dict α) {key k : String} (h : k ≠ key) (value : α) :
    (d.insert key value).get? k = d.get? k :=
  Entries.lookup_insert_of_ne h value d.entries

theorem get?_insert (d : Dict α) (key k : String) (value : α) :
    (d.insert key value).get? k = if k = key then some value else d.get? k := by
  split
  · next h => rw [h, get?_insert_self]
  · next h => exact get?_insert_of_ne d h value

theorem insert_of_get? {d : Dict α} {key : String} {value : α} (h : d.get? key = some value) :
    d.insert key value = d := ext (Entries.insert_of_lookup d.ordered h)

theorem get?_erase (d : Dict α) (key k : String) :
    (d.erase key).get? k = if k = key then none else d.get? k :=
  Entries.lookup_erase key k d.entries

@[simp] theorem get?_empty (key : String) : (empty : Dict α).get? key = none := rfl

theorem contains_eq_true {d : Dict α} {key : String} :
    d.contains key = true ↔ ∃ value, d.get? key = some value := Option.isSome_iff_exists

theorem get?_insertIfNew (d : Dict α) (key k : String) (value : α) :
    (d.insertIfNew key value).get? k =
      if k = key then some ((d.get? key).getD value) else d.get? k := by
  unfold insertIfNew
  split
  · next h =>
    obtain ⟨v, hv⟩ := contains_eq_true.mp h
    split
    · next hk => rw [hk, hv, Option.getD_some]
    · rfl
  · next h =>
    have : d.get? key = none := by simpa [contains] using h
    rw [get?_insert, this, Option.getD_none]

/-- Entries are collected by inserting one after the other. -/
theorem ofList_eq_foldl (entries : List (String × α)) :
    ofList entries = entries.foldl (fun d e => d.insert e.1 e.2) empty := by
  have collected (d : Dict α) : (entries.foldl (fun d e => d.insert e.1 e.2) d).entries =
      entries.foldl (fun acc e => Entries.insert e.1 e.2 acc) d.entries := by
    induction entries generalizing d with
    | nil => rfl
    | cons e rest ih => exact ih (d.insert e.1 e.2)
  exact ext (collected empty).symm

end Dict

end OfferBook
