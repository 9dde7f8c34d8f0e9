import OfferBook.Store.JsonPlace

/-! # Media that hold one text

* `FileTree.find?_write`, `FileTree.find?_rename` — what is at a path that was written to, and
  where a file was put.
* `TextMedium` — a medium that holds the text of the document that was saved last.
-/

namespace OfferBook

namespace FileTree

variable {t t' : FileTree} {path text : String} {place here : Place}

/-- Where there is no directory, a file can be put without closing any way. -/
theorem entry?_put_of_directory (entry : FileEntry) (free : t.entry? place ≠ some .directory)
    (there : t.entry? here = some .directory) :
    FileTree.entry? (t.put place entry) here = some .directory := by
  unfold entry? at there ⊢
  split
  · rfl
  · next below =>
    rw [if_neg below] at there
    have other : here.key ≠ place.key := by
      intro same
      refine free ?_
      unfold entry?
      split
      · rfl
      · rw [← same, there]
    rw [put, Dict.get?_insert, if_neg other, there]

theorem entry?_put_self (entry : FileEntry) (free : t.entry? place ≠ some .directory) :
    FileTree.entry? (t.put place entry) place = some entry := by
  unfold entry? at free ⊢
  split
  · next origin => exact absurd (if_pos origin) free
  · rw [put, Dict.get?_insert_self]

theorem follow_put {name : String} {next : Place} (entry : FileEntry)
    (free : t.entry? place ≠ some .directory) (h : t.follow here name = .ok next) :
    (t.put place entry).follow here name = .ok next := by
  unfold follow at h ⊢
  split at h
  · exact absurd h nofun
  · exact absurd h nofun
  · next there => rw [entry?_put_of_directory entry free there]; exact h

theorem locate_put {found : Place} (entry : FileEntry) (free : t.entry? place ≠ some .directory)
    (h : t.locate path = .ok found) : (t.put place entry).locate path = .ok found := by
  have words (names : List String) (start : Place) (h : names.foldlM t.follow start = .ok found) :
      names.foldlM (t.put place entry).follow start = .ok found := by
    induction names generalizing start with
    | nil => exact h
    | cons name rest ih =>
      rw [List.foldlM_cons] at h ⊢
      cases followed : t.follow start name with
      | error e => rw [followed] at h; exact absurd h nofun
      | ok next =>
        rw [followed] at h
        rw [follow_put entry free followed]
        exact ih next h
  unfold locate at h ⊢
  split at h
  · exact absurd h nofun
  · next filled =>
    rw [if_neg filled]
    split at h
    · exact absurd h nofun
    · next plain =>
      rw [if_neg plain]
      exact words _ _ h

theorem filePlace_eq_ok (h : t.filePlace path = .ok place) :
    t.locate path = .ok place ∧ t.entry? place ≠ some .directory := by
  unfold filePlace at h
  cases located : t.locate path with
  | error e => rw [located] at h; exact absurd h nofun
  | ok found =>
    rw [located] at h
    change (if _ then _ else _) = _ at h
    split at h
    · split at h
      · exact absurd h nofun
      · next free =>
        obtain rfl := Except.ok.inj h
        exact ⟨rfl, free⟩
    · exact absurd h nofun

theorem find?_write (h : t.write path text = .ok t') : t'.find? path = some (.file text) := by
  unfold write at h
  cases placed : t.filePlace path with
  | error e => rw [placed] at h; exact absurd h nofun
  | ok place =>
    rw [placed] at h
    obtain rfl := Except.ok.inj h
    obtain ⟨located, free⟩ := filePlace_eq_ok placed
    rw [find?, locate_put _ free located]
    exact entry?_put_self _ free

theorem find?_rename {source target : String} (there : t.find? source = some (.file text))
    (h : t.rename source target = .ok t') : t'.find? target = some (.file text) := by
  unfold rename at h
  rw [text?, there] at h
  exact find?_write h

end FileTree

/-- A medium whose document is the one of a text. -/
class TextMedium (m : Type) [Medium m] : Prop where
  load_of_save_ok {doc : Document} {s t : m} : Medium.save doc s = (.ok (), t) →
    Medium.load t = JsonFile.load ⟨some (JsonFile.encode doc)⟩
  decode?_of_load {doc : Document} {s : m} : Medium.load s = .ok (some doc) →
    ∃ text, JsonFile.decode? text = some doc

theorem JsonFile.decode?_of_load {doc : Document} {f : JsonFile} (h : load f = .ok (some doc)) :
    ∃ text, decode? text = some doc := by
  unfold load at h
  split at h
  · exact absurd h nofun
  · next text _ =>
    split at h
    · next read =>
      obtain rfl := Option.some.inj (Except.ok.inj h)
      exact ⟨text, read⟩
    · exact absurd h nofun

instance : TextMedium JsonFile where
  load_of_save_ok h := (Prod.mk.inj h).2 ▸ rfl
  decode?_of_load h := JsonFile.decode?_of_load h

instance : TextMedium JsonPlace where
  load_of_save_ok {doc p q} h := by
    change JsonPlace.save doc p = _ at h
    change JsonPlace.load q = _
    unfold JsonPlace.save at h
    split at h
    · exact absurd (Prod.mk.inj h).1 nofun
    split at h
    · exact absurd (Prod.mk.inj h).1 nofun
    · next written =>
      split at h
      · exact absurd (Prod.mk.inj h).1 nofun
      · next renamed =>
        obtain rfl := (Prod.mk.inj h).2
        have put := FileTree.find?_rename (FileTree.find?_write written) renamed
        simp only [JsonPlace.load, put]
  decode?_of_load {doc p} h := by
    change JsonPlace.load p = _ at h
    unfold JsonPlace.load at h
    split at h
    · exact absurd h nofun
    · exact absurd h nofun
    · exact JsonFile.decode?_of_load h

end OfferBook
