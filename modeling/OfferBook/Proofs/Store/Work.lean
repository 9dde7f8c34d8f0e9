import OfferBook.Store.Basic

/-! # Work on a store

* `run_bind_ok`, `run_bind_error` — one piece of work after another.
* `Store.run_commit_ok`, `Store.run_commit_error` — a change that can be saved, and one that
  cannot.
* `Store.run_insert`, `Store.run_insert_error` — so it is with the text of an insertion.
-/

namespace OfferBook

section Composition

variable {ε σ α β : Type} {work : ExceptT ε (StateM σ) α} {next : α → ExceptT ε (StateM σ) β}
  {s s' : σ}

theorem run_bind_ok {a : α} (done : work.run.run s = (.ok a, s')) :
    (work >>= next).run.run s = (next a).run.run s' := by
  change (ExceptT.bind work next).run.run s = _
  simp only [ExceptT.run, StateT.run] at done
  simp only [ExceptT.bind, ExceptT.mk, ExceptT.run, StateT.run, bind, StateT.bind, done]
  rfl

theorem run_bind_error {e : ε} (failed : work.run.run s = (.error e, s')) :
    (work >>= next).run.run s = (.error e, s') := by
  change (ExceptT.bind work next).run.run s = _
  simp only [ExceptT.run, StateT.run] at failed
  simp only [ExceptT.bind, ExceptT.mk, ExceptT.run, StateT.run, bind, StateT.bind, failed]
  rfl

end Composition

namespace Store

variable {m α : Type} [Medium m] {s : Store m} {change : Document → α × Document} {medium : m}

theorem run_commit_ok (saved : Medium.save (change s.document).2 s.medium = (.ok (), medium)) :
    (commit change).run.run s = (.ok (change s.document).1, ⟨(change s.document).2, medium⟩) := by
  have got : (get : StoreM m (Store m)).run.run s = (.ok s, s) := rfl
  refine (run_bind_ok got).trans ?_
  simp only [saved]
  rfl

theorem run_commit_error {e : StorageError}
    (failed : Medium.save (change s.document).2 s.medium = (.error e, medium)) :
    (commit change).run.run s = (.error e, ⟨s.document, medium⟩) := by
  have got : (get : StoreM m (Store m)).run.run s = (.ok s, s) := rfl
  refine (run_bind_ok got).trans ?_
  simp only [failed]
  rfl

section Insertions

variable {now : Instant} {params : List Json} {sql : String} {inserted : Insert}

theorem run_insert (read : Statement.parse? sql = some (.insert inserted))
    (saved : Medium.save (inserted.apply now params s.document).2 s.medium = (.ok (), medium)) :
    (run now params sql).run.run s = (.ok (inserted.apply now params s.document).1,
      ⟨(inserted.apply now params s.document).2, medium⟩) := by
  have executed : (execute now params (.insert inserted)).run.run s =
      (.ok (.changed (inserted.apply now params s.document).1),
        ⟨(inserted.apply now params s.document).2, medium⟩) :=
    run_bind_ok (run_commit_ok saved)
  rw [run, read]
  exact run_bind_ok executed

theorem run_insert_error {e : StorageError}
    (read : Statement.parse? sql = some (.insert inserted))
    (failed : Medium.save (inserted.apply now params s.document).2 s.medium = (.error e, medium)) :
    (run now params sql).run.run s = (.error e, ⟨s.document, medium⟩) := by
  have executed : (execute now params (.insert inserted)).run.run s =
      (.error e, ⟨s.document, medium⟩) := run_bind_error (run_commit_error failed)
  rw [run, read]
  exact run_bind_error executed

end Insertions

end Store

end OfferBook
