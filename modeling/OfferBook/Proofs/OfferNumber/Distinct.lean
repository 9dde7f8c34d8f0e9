import OfferBook.Proofs.OfferNumber.Issued

/-! # Offer numbers are distinct

* `OfferNumber.partsOf?`, `OfferNumber.baseOf?` — what stands around the last dot of a row's number.
* `Office.Distinguished` — numbers tell rows apart, their bases tell chains apart.
* `Office.Ledger.distinguished` — the ledger has each number once.
* `Office.numbers_stay_distinct` — what becomes of the numbers of an office that was new.
-/

namespace OfferBook

namespace OfferNumber

/-- What stands before and after the last dot of a field. -/
def parts? : Option Json → Option (List Char × List Char)
  | some (.text s) => splitLastDot? s.toList
  | _ => none

/-- What stands before and after the last dot of a row's number. -/
def partsOf? (row : Record) : Option (List Char × List Char) := parts? (ofRow row)

/-- The base of a row's number. -/
def baseOf? (row : Record) : Option (List Char) := (partsOf? row).map Prod.fst

variable {offerPrefix : String}

theorem number_inj {i i' : Issue} {version version' : Int} :
    i.number offerPrefix version = i'.number offerPrefix version' ↔
      i = i' ∧ version = version' := by
  constructor
  · intro same
    obtain ⟨years, counters⟩ := ofCounter_base_iff.mp (congrArg base same)
    cases i
    cases i'
    exact ⟨congr (congrArg Issue.mk years) counters, congrArg OfferNumber.version same⟩
  · rintro ⟨rfl, rfl⟩
    rfl

theorem base_number_iff {i i' : Issue} {version version' : Int} :
    (i.number offerPrefix version).base = (i'.number offerPrefix version').base ↔ i = i' := by
  constructor
  · intro same
    obtain ⟨years, counters⟩ := ofCounter_base_iff.mp same
    cases i
    cases i'
    exact congr (congrArg Issue.mk years) counters
  · rintro rfl
    rfl

theorem partsOf?_of_number {row : Record} {n : OfferNumber} (h : ofRow row = some (.text n.text)) :
    partsOf? row = some (n.base.toList, intChars n.version) := by
  rw [partsOf?, h]
  exact splitLastDot?_text n

theorem baseOf?_of_number {row : Record} {n : OfferNumber} (h : ofRow row = some (.text n.text)) :
    baseOf? row = some n.base.toList := by
  rw [baseOf?, partsOf?_of_number h]
  rfl

/-- Rows have one base where their numbers are based on one issue. -/
theorem baseOf?_eq_iff {row row' : Record} {i i' : Issue} {version version' : Int}
    (h : ofRow row = some (.text (i.number offerPrefix version).text))
    (h' : ofRow row' = some (.text (i'.number offerPrefix version').text)) :
    baseOf? row = baseOf? row' ↔ i = i' := by
  rw [baseOf?_of_number h, baseOf?_of_number h', Option.some_inj, String.toList_inj]
  exact base_number_iff

end OfferNumber

namespace Office

variable {m : Type} {offerPrefix : String} {o : Office m}

/-- Offer numbers tell rows apart, and their bases chains. -/
structure Distinguished (o : Office m) : Prop where
  numbers : ((o.calculations ++ o.offers).map OfferNumber.ofRow).Nodup
  versions : ∀ row ∈ o.calculations, ∃ base version,
    OfferNumber.partsOf? row = some (base, intChars version) ∧
      row.get? "version" = some (.int version)
  offers : ∀ row ∈ o.offers, ∃ base, OfferNumber.partsOf? row = some (base, intChars 1)
  chains : ∀ row ∈ o.calculations, ∀ row' ∈ o.calculations,
    OfferNumber.baseOf? row = OfferNumber.baseOf? row' ↔
      row.get? "calculation_uuid" = row'.get? "calculation_uuid"
  alone : (o.offers.map OfferNumber.baseOf?).Nodup
  apart : ∀ row ∈ o.calculations, ∀ offer ∈ o.offers,
    OfferNumber.baseOf? row ≠ OfferNumber.baseOf? offer

namespace Ledger

variable {entries : List Entry} {issues : List Issue}

theorem exists_issue (h : Ledger offerPrefix o entries issues) {row : Record}
    (mem : row ∈ o.offers) : ∃ i ∈ issues, OfferNumber.ofRow row = i.signature offerPrefix := by
  have := List.mem_map_of_mem (f := OfferNumber.ofRow) mem
  rw [h.offers] at this
  obtain ⟨i, hi, same⟩ := List.mem_map.mp this
  exact ⟨i, hi, same.symm⟩

theorem map_ofRow (h : Ledger offerPrefix o entries issues) :
    (o.calculations ++ o.offers).map OfferNumber.ofRow =
      ((entries.map fun e : Entry => (e.issue, e.version)) ++ issues.map fun i => (i, 1)).map
        fun source : Issue × Int => some (.text (source.1.number offerPrefix source.2).text) := by
  have calculations : o.calculations.map OfferNumber.ofRow =
      (entries.map (Entry.signature offerPrefix)).map (·.2.2) := by
    rw [← h.calculations, List.map_map]
    rfl
  rw [List.map_append, calculations, h.offers, List.map_append, List.map_map, List.map_map,
    List.map_map]
  rfl

theorem nodup_numbers (h : Ledger offerPrefix o entries issues) :
    ((o.calculations ++ o.offers).map OfferNumber.ofRow).Nodup := by
  -- Versions of one chain differ, offers have issues of their own.
  have sources : ((entries.map fun e => (e.issue, e.version)) ++
      issues.map fun i => (i, (1 : Int))).Nodup := by
    refine List.nodup_append.mpr ⟨h.versions, ?_, fun a ha b hb same => ?_⟩
    · exact List.pairwise_map.mpr (h.alone.imp fun differs same => differs (Prod.mk.inj same).1)
    · obtain ⟨e, he, rfl⟩ := List.mem_map.mp ha
      obtain ⟨i, hi, rfl⟩ := List.mem_map.mp hb
      exact h.apart e he ((Prod.mk.inj same).1 ▸ hi)
  -- The texts differ because what they are made of does.
  rw [h.map_ofRow]
  refine List.pairwise_map.mpr (sources.imp fun differs same => differs ?_)
  obtain ⟨issue, version⟩ := OfferNumber.number_inj.mp (OfferNumber.text_injective
    (Json.text.inj (Option.some.inj same)))
  exact Prod.ext issue version

theorem distinguished (h : Ledger offerPrefix o entries issues) : o.Distinguished where
  numbers := h.nodup_numbers
  versions row mem := by
    obtain ⟨e, -, same⟩ := h.exists_entry mem
    exact ⟨_, e.version, OfferNumber.partsOf?_of_number (congrArg (·.2.2) same),
      congrArg (·.2.1) same⟩
  offers row mem := by
    obtain ⟨i, -, same⟩ := h.exists_issue mem
    exact ⟨_, OfferNumber.partsOf?_of_number same⟩
  chains row mem row' mem' := by
    obtain ⟨e, he, same⟩ := h.exists_entry mem
    obtain ⟨e', he', same'⟩ := h.exists_entry mem'
    have named : row.get? "calculation_uuid" = some (.text e.uuid) := congrArg (·.1) same
    have named' : row'.get? "calculation_uuid" = some (.text e'.uuid) := congrArg (·.1) same'
    rw [OfferNumber.baseOf?_eq_iff (congrArg (·.2.2) same) (congrArg (·.2.2) same'),
      h.shared e he e' he', named, named']
    simp
  alone := by
    have bases : o.offers.map OfferNumber.baseOf? =
        issues.map fun i => some (i.number offerPrefix 1).base.toList := by
      have shown : OfferNumber.baseOf? =
          (fun v => (OfferNumber.parts? v).map Prod.fst) ∘ OfferNumber.ofRow := rfl
      rw [shown, ← List.map_map, h.offers, List.map_map]
      refine List.map_congr_left fun i _ => ?_
      exact congrArg (Option.map Prod.fst) (OfferNumber.splitLastDot?_text _)
    rw [bases]
    refine List.pairwise_map.mpr (h.alone.imp fun differs same => differs ?_)
    exact OfferNumber.base_number_iff.mp (String.toList_injective (Option.some.inj same))
  apart row mem offer mem' := by
    obtain ⟨e, he, same⟩ := h.exists_entry mem
    obtain ⟨i, hi, same'⟩ := h.exists_issue mem'
    rw [Ne, OfferNumber.baseOf?_eq_iff (congrArg (·.2.2) same) same']
    exact fun issue => h.apart e he (issue ▸ hi)

end Ledger

/-! ## Runs -/

variable [Medium m]

theorem Numbered.serveAll (h : o.IsNew) (rs : List Request)
    (short : rs.length ≤ Double.exactLimit) :
    Numbered offerPrefix rs.length (serveAll offerPrefix o rs) := by
  have step (n : Nat) (o : Office m) (r : Request)
      (ih : n ≤ Double.exactLimit → Numbered offerPrefix n o) (short : n + 1 ≤ Double.exactLimit) :
      Numbered offerPrefix (n + 1) (Office.serve offerPrefix o r) :=
    (ih (Nat.le_of_succ_le short)).serve short r
  have := serveAll_induction (n := 0)
    (P := fun n o => n ≤ Double.exactLimit → Numbered offerPrefix n o) (fun _ => h.numbered) step rs
  rw [Nat.zero_add] at this
  exact this short

/-- Whatever is asked of a new office, in whichever years, and whichever saves fail, no number is
    stored twice, and bases stand for chains. The numbers taken in a year carry the values of its
    counter from one on, and nothing else counts it up. -/
theorem numbers_stay_distinct (h : o.IsNew) (rs : List Request)
    (short : rs.length < Double.exactLimit) :
    (serveAll offerPrefix o rs).Distinguished ∧
    ∀ year, (serveAll offerPrefix o rs).counter year =
        (issuedIn offerPrefix o rs year).length ∧
      ∀ (k : Nat) (number : OfferNumber), (issuedIn offerPrefix o rs year)[k]? = some number →
        ∃ version, number = .ofCounter offerPrefix year (k + 1) version := by
  have new : Numbered offerPrefix 0 o := h.numbered
  have numbered : Numbered offerPrefix rs.length _ := Numbered.serveAll h rs (Nat.le_of_lt short)
  obtain ⟨entries, issues, ledger⟩ := numbered.ledger
  refine ⟨ledger.distinguished, fun year => ?_⟩
  -- A new office has shown no counter yet.
  have unused : o.counter year = 0 := by
    have empty : o.counters = [] := (h.isEmpty _).1
    rw [counter, empty]
    rfl
  have counted := issuedIn_counters new rs (by omega) year
  simpa only [unused, Int.zero_add] using counted

/-- A calculation, its second version and an offer, and between them a number that nothing uses. -/
def threeRows : List Request :=
  [⟨0, .createCalculation emptyCalculation somebody⟩, ⟨0, .allocate 1970 1⟩,
   ⟨86400000, .updateCalculation 1 emptyCalculation somebody⟩,
   ⟨0, .createOffer emptyOffer somebody⟩]

theorem numbers_distinct_in_three_rows :
    (serveAll "FHD" inMemory threeRows).Distinguished ∧
      (serveAll "FHD" inMemory threeRows).counter 1970 = 3 := by
  obtain ⟨distinguished, counters⟩ :=
    @numbers_stay_distinct Memory "FHD" inMemory _ (isNew_opened _ 0) threeRows (by decide)
  have taken : (issuedIn "FHD" inMemory threeRows 1970).length = 3 := by decide +kernel
  exact ⟨distinguished, (counters 1970).1.trans (congrArg _ taken)⟩

end Office

end OfferBook
