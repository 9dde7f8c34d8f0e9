import OfferBook.Office.Gate
import OfferBook.Proofs.Office.Outcome

/-! # Visits to the gate

* `Visit`, `Reply` — an attempt at the admin area, and what it was answered.
* `Gate.record`, `Gate.after` — the replies to visits one after the other, and the gate then.
* `Verdict`, `Gate.verdict` — what one attempt can lead to; every other fact about attempts
  follows from it.
* `Gate.enter_ends` — in an office the gate decides on its own.
* `Gate.Alike.record` — the replies to a user do not depend on the visits of others.
-/

namespace OfferBook

abbrev Answer := Except ServiceError Unit

namespace Answer

def isSuccess : Answer → Bool
  | .ok _ => true
  | .error _ => false

/-- The password was wrong. -/
def isWrong : Answer → Bool
  | .error (.unauthorized _) => true
  | _ => false

/-- The user is locked out. -/
def isRefused : Answer → Bool
  | .error (.tooManyAttempts _) => true
  | _ => false

variable {answer : Answer}

theorem noSuccess_of_wrong (wrong : answer.isWrong = true) : answer.isSuccess = false := by
  cases answer with
  | ok _ => cases wrong
  | error _ => rfl

theorem noSuccess_of_refused (refused : answer.isRefused = true) : answer.isSuccess = false := by
  cases answer with
  | ok _ => cases refused
  | error _ => rfl

theorem notWrong_of_refused (refused : answer.isRefused = true) : answer.isWrong = false := by
  unfold isRefused at refused
  split at refused
  · rfl
  · cases refused

end Answer

/-- An attempt of a user. -/
structure Visit where
  user : String
  password : String
  moment : Moment
deriving DecidableEq

/-- A visit and its answer. -/
structure Reply extends Visit where
  answer : Answer

namespace Gate

variable {g h : Gate} {user password : String} {now : Moment}

/-! ## One attempt -/

/-- What an attempt is answered, and what is kept of the user's attempts after it. -/
inductive Verdict (g : Gate) (user : String) (now : Moment) : Answer → Option Attempts → Prop
  | refused (minutes : Nat) (full : maxAttempts ≤ (g.current user now).failed) :
    Verdict g user now (.error (.tooManyAttempts minutes)) (some (g.current user now))
  /-- There was no password to be checked, or no hash to check it by. -/
  | undecided {answer : Answer} (free : (g.current user now).failed < maxAttempts)
      (neither : answer.isSuccess = false ∧ answer.isWrong = false ∧ answer.isRefused = false) :
    Verdict g user now answer (some (g.current user now))
  | wrong (remaining : Option Nat) (free : (g.current user now).failed < maxAttempts) :
    Verdict g user now (.error (.unauthorized remaining))
      (some ⟨(g.current user now).failed + 1, now⟩)
  | right (free : (g.current user now).failed < maxAttempts) : Verdict g user now (.ok ()) none

theorem verdict (g : Gate) (user password : String) (now : Moment) :
    Verdict g user now (g.verify user password now).1
      ((g.verify user password now).2.attempts.get? user) := by
  unfold verify
  dsimp only
  split
  · next full =>
    simp only [setAttempts, Dict.get?_insert_self]
    exact .refused _ full
  · next free =>
    have free := Nat.lt_of_not_le free
    split
    · simp only [setAttempts, Dict.get?_insert_self]
      exact .undecided free ⟨rfl, rfl, rfl⟩
    · split
      · simp only [setAttempts, Dict.get?_insert_self]
        exact .undecided free ⟨rfl, rfl, rfl⟩
      · simp only [setAttempts, Dict.get?_insert_self]
        exact .wrong _ free
      · simp only [forget, Dict.get?_erase, if_true]
        exact .right free

theorem get?_verify_of_ne {other : String} (differs : other ≠ user) (g : Gate)
    (password : String) (now : Moment) :
    (g.verify user password now).2.attempts.get? other = g.attempts.get? other := by
  have kept (a : Attempts) (g : Gate) :
      (g.setAttempts user a).attempts.get? other = g.attempts.get? other :=
    Dict.get?_insert_of_ne _ differs _
  have forgotten (g : Gate) : (g.forget user).attempts.get? other = g.attempts.get? other := by
    rw [forget, Dict.get?_erase, if_neg differs]
  unfold verify
  dsimp only
  split
  · exact kept _ _
  · split
    · exact kept _ _
    · split
      · exact kept _ _
      · rw [kept, kept]
      · rw [forgotten, kept]

theorem secret_verify (g : Gate) (user password : String) (now : Moment) :
    (g.verify user password now).2.secret = g.secret := by
  unfold verify
  dsimp only
  repeat' split
  all_goals rfl

/-- A lock-out is over when it has lasted for its time, so that what is left of it is a
    difference of natural numbers. -/
theorem elapsed_le_of_full (full : maxAttempts ≤ (g.current user now).failed) :
    elapsed (g.current user now).last now ≤ lockout := by
  unfold current at full ⊢
  dsimp only at full ⊢
  split at full
  · exact absurd full (Nat.not_succ_le_zero _)
  · next lasts =>
    rw [if_neg lasts]
    exact Nat.le_of_not_lt lasts

open Office in
/-- The gate decides about an attempt on its own; the office is left as it is, unless a success is
    recorded. -/
theorem enter_ends {m : Type} [Medium m] (g : Gate) (caller : Caller) (password : String)
    (o : Office m) :
    Ends (g.enter caller password) o
      (fun entered o' => entered = g.verify caller.id password (.ofInstant o.now) ∧
        (entered.1.isOk = false → o' = o)) fun _ _ => False := by
  unfold enter
  refine ends_bind.mpr (ends_get.mpr ?_)
  dsimp only
  generalize g.verify caller.id password (.ofInstant o.now) = entered
  by_cases success : entered.1.isOk = true
  · rw [if_pos success]
    refine ends_bind.mpr (Ends.record ?_ ?_)
    all_goals exact fun _ => ends_pure.mpr ⟨rfl, fun failed => absurd success (by simp [failed])⟩
  · rw [if_neg success]
    exact ends_pure.mpr ⟨rfl, fun _ => rfl⟩

/-! ## Several visits -/

/-- The answer to a visit. -/
def reply (g : Gate) (v : Visit) : Reply := ⟨v, (g.verify v.user v.password v.moment).1⟩

/-- The gate after a visit. -/
def next (g : Gate) (v : Visit) : Gate := (g.verify v.user v.password v.moment).2

/-- The replies to visits that are made one after the other. -/
def record (g : Gate) : List Visit → List Reply
  | [] => []
  | v :: rest => g.reply v :: (g.next v).record rest

/-- The gate after some visits. -/
def after (g : Gate) (visits : List Visit) : Gate := visits.foldl next g

theorem record_append (g : Gate) (visits more : List Visit) :
    g.record (visits ++ more) = g.record visits ++ (g.after visits).record more := by
  induction visits generalizing g with
  | nil => rfl
  | cons v rest ih =>
    rw [List.cons_append, record, record, ih, List.cons_append]
    rfl

theorem record_snoc (g : Gate) (visits : List Visit) (v : Visit) :
    g.record (visits ++ [v]) = g.record visits ++ [(g.after visits).reply v] :=
  record_append g visits [v]

theorem after_append (g : Gate) (visits more : List Visit) :
    g.after (visits ++ more) = (g.after visits).after more := List.foldl_append

theorem after_snoc (g : Gate) (visits : List Visit) (v : Visit) :
    g.after (visits ++ [v]) = (g.after visits).next v := after_append g visits [v]

/-! ## One user among others -/

/-- Gates that a user cannot tell apart. -/
structure Alike (user : String) (g h : Gate) : Prop where
  secret : g.secret = h.secret
  attempts : g.attempts.get? user = h.attempts.get? user

namespace Alike

theorem refl (user : String) (g : Gate) : Alike user g g := ⟨rfl, rfl⟩

theorem trans {k : Gate} (alike : Alike user g h) (alike' : Alike user h k) : Alike user g k :=
  ⟨alike.secret.trans alike'.secret, alike.attempts.trans alike'.attempts⟩

/-- The visit of somebody else. -/
theorem of_other {v : Visit} (other : v.user ≠ user) (g : Gate) : Alike user (g.next v) g :=
  ⟨secret_verify g _ _ _, get?_verify_of_ne other.symm g _ _⟩

theorem current (alike : Alike user g h) (now : Moment) :
    g.current user now = h.current user now := by
  unfold Gate.current
  rw [alike.attempts]

theorem answer (alike : Alike user g h) (password : String) (now : Moment) :
    (g.verify user password now).1 = (h.verify user password now).1 := by
  unfold verify
  simp only [alike.current now, setAttempts, alike.secret]
  repeat' split
  all_goals rfl

theorem reply {v : Visit} (alike : Alike v.user g h) : g.reply v = h.reply v := by
  unfold Gate.reply
  rw [alike.answer v.password v.moment]

theorem next {v : Visit} (alike : Alike v.user g h) : Alike v.user (g.next v) (h.next v) := by
  refine ⟨?_, ?_⟩
  · rw [Gate.next, Gate.next, secret_verify, secret_verify, alike.secret]
  · have first := g.verdict v.user v.password v.moment
    have second := h.verdict v.user v.password v.moment
    rw [alike.answer v.password v.moment] at first
    unfold Gate.next
    generalize (h.verify v.user v.password v.moment).1 = answer at first second
    generalize (g.verify v.user v.password v.moment).2.attempts.get? v.user = kept at first ⊢
    generalize (h.verify v.user v.password v.moment).2.attempts.get? v.user = kept' at second ⊢
    -- The answer tells the four cases apart, so that the gates agree in what they keep.
    cases first <;> cases second <;>
      simp_all [alike.current v.moment, Answer.isSuccess, Answer.isWrong, Answer.isRefused]

/-- A user gets the replies that would have been given without the visits of others. -/
theorem record (alike : Alike user g h) (visits : List Visit) :
    (g.record visits).filter (·.user = user) = h.record (visits.filter (·.user = user)) := by
  induction visits generalizing g h with
  | nil => rfl
  | cons v rest ih =>
    rw [Gate.record]
    by_cases own : v.user = user
    · subst own
      rw [List.filter_cons_of_pos (by simp [Gate.reply]), List.filter_cons_of_pos (by simp),
        Gate.record, alike.reply, ih alike.next]
    · rw [List.filter_cons_of_neg (by simp [Gate.reply, own]),
        List.filter_cons_of_neg (by simp [own]), ih ((of_other own g).trans alike)]

end Alike

end Gate

end OfferBook
