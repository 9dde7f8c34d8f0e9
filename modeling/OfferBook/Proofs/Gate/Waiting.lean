import OfferBook.Proofs.Gate.Lockout

/-! # Waiting times

Whoever is locked out is told how many minutes are left. The rest of the lock-out is cut to whole
seconds before it is rounded up to minutes, and the lock-out still holds at its last moment.

* `Streak.left` — what is left of the lock-out after a streak.
* `Gate.outlasts_iff` — when the announced minutes end after the lock-out;
  `Gate.left_lt_with_second` — with one second more they always do.
* `Gate.streak_of_none_wrong` — only a wrong password can prolong a lock-out.
* `Gate.announced_minutes_are_enough` — after the announced minutes the right password is let in.
-/

namespace OfferBook

open Gate (lockout maxAttempts elapsed minutesOf)

/-- What is left at a moment of the lock-out after a streak. -/
def Streak.left (s : Streak) (now : Moment) : Nat := lockout - elapsed s.last now

namespace Gate

variable {g : Gate} {user password : String} {now : Moment} {minutes : Nat} {secret : Secret}

/-- Nanoseconds of a second. -/
def second : Nat := 1000000000

/-- Nanoseconds of a minute. -/
def minute : Nat := 60 * second

/-! ## Rounding -/

/-- The announced minutes end after the lock-out, unless the whole seconds that are left make up
    whole minutes, or there are none. -/
theorem outlasts_iff (left : Nat) :
    1 ≤ minutesOf left ∧ left < minutesOf left * minute ↔ left / second % 60 ≠ 0 := by
  simp only [minutesOf, minute, second]
  omega

theorem left_lt_with_second (left : Nat) : left < minutesOf left * minute + second := by
  simp only [minutesOf, minute, second]
  omega

/-- What outlasts the rest of a lock-out ends after it. -/
theorem past_of_outlasts {since now later : Int} {time : Nat} (before : since ≤ now)
    (outlasts : lockout - elapsed since now < time) (waited : now + time ≤ later) :
    since + lockout < later := by
  unfold elapsed at outlasts
  omega

/-! ## One attempt -/

theorem eq_of_refused
    (refused : (g.verify user password now).1 = .error (.tooManyAttempts minutes)) :
    maxAttempts ≤ (g.current user now).failed ∧
      minutes = minutesOf (lockout - elapsed (g.current user now).last now) := by
  unfold verify at refused
  dsimp only at refused
  split at refused
  · next full =>
    simp only [Except.error.injEq, ServiceError.tooManyAttempts.injEq] at refused
    exact ⟨full, refused.symm⟩
  · split at refused
    · simp at refused
    · split at refused <;> simp at refused

theorem verify_of_right (free : (g.current user now).failed < maxAttempts) (given : password ≠ "")
    (right : g.secret.check password = .ok true) : (g.verify user password now).1 = .ok () := by
  have locked : ¬ maxAttempts ≤ (g.current user now).failed := Nat.not_le.mpr free
  simp [verify, locked, given, setAttempts, right]

/-! ## Between two visits -/

theorem InOrder.of_append {visits more : List Visit} (h : InOrder (visits ++ more)) :
    InOrder visits := (List.pairwise_append.mp h).1

theorem secret_after (g : Gate) (visits : List Visit) : (g.after visits).secret = g.secret := by
  induction visits generalizing g with
  | nil => rfl
  | cons v rest ih => exact (ih (g.next v)).trans (secret_verify g _ _ _)

/-- A streak goes on or is forgotten while no further password of the user is wrong. -/
theorem streak_of_none_wrong {before between : List Visit}
    (noneWrong : ∀ r ∈ ((closed secret).after before).record between, r.user = user →
      r.answer.isWrong = false) :
    streak secret user (before ++ between) = streak secret user before ∨
      streak secret user (before ++ between) = Streak.none := by
  induction between using List.reverseRecOn with
  | nil => simp
  | append_singleton between v ih =>
    rw [record_snoc, ← after_append] at noneWrong
    have same := ih fun r hr => noneWrong r (List.mem_append_left _ hr)
    rw [← List.append_assoc]
    by_cases own : v.user = user
    · have notWrong := noneWrong (((closed secret).after (before ++ between)).reply v) (by simp) own
      rw [streak_snoc_own own]
      by_cases success : (((closed secret).after (before ++ between)).reply v).answer.isSuccess
      · exact .inr (Streak.extend_of_success success)
      · rwa [Streak.extend_of_neither (by simpa using success) notWrong]
    · rwa [streak_snoc_other own]

/-- Once a lock-out is over, nobody is refused who has given no further wrong password. -/
theorem answer_of_waited {before between : List Visit} {w : Visit}
    (ordered : InOrder (before ++ between ++ [w]))
    (noneWrong : ∀ r ∈ ((closed secret).after before).record between, r.user = w.user →
      r.answer.isWrong = false)
    (past : (streak secret w.user before).last + lockout < w.moment)
    (given : w.password ≠ "") (right : secret.check w.password = .ok true) :
    (((closed secret).after (before ++ between)).reply w).answer = .ok () := by
  obtain ⟨ordered, earlier⟩ := ordered.snoc
  have tracks : Tracks _ w.user _ w.moment := tracks_after secret ordered earlier
  have free : (streak secret w.user (before ++ between)).lengthAt w.moment = 0 := by
    rcases streak_of_none_wrong noneWrong with same | none
    · rw [same]
      exact Streak.lengthAt_of_lt past
    · rw [none]
      exact Nat.eq_zero_of_le_zero (Streak.lengthAt_le _ _)
  refine verify_of_right ?_ given ?_
  · rw [tracks.current_failed, free]
    decide
  · rwa [secret_after]

/-! ## Waiting -/

/-- Whoever is refused is told a number of minutes, while times do not go back. Afterwards the
    right password is let in, provided that no other password of the user has been wrong since:
    * from the end of these minutes on, of which there is at least one, unless the whole seconds
      that were left of the lock-out made up whole minutes or there were none;
    * in any case a second later. -/
theorem announced_minutes_are_enough (secret : Secret) {before between : List Visit} {v w : Visit}
    (ordered : InOrder (before ++ [v] ++ between ++ [w])) (own : w.user = v.user)
    (told : (((closed secret).after before).reply v).answer = .error (.tooManyAttempts minutes))
    (noneWrong : ∀ r ∈ ((closed secret).after (before ++ [v])).record between, r.user = v.user →
      r.answer.isWrong = false)
    (given : w.password ≠ "") (right : secret.check w.password = .ok true) :
    ((streak secret v.user before).left v.moment / second % 60 ≠ 0 →
      1 ≤ minutes ∧ (v.moment + (minutes * minute : Nat) ≤ w.moment →
        (((closed secret).after (before ++ [v] ++ between)).reply w).answer = .ok ())) ∧
    (v.moment + (minutes * minute + second : Nat) ≤ w.moment →
      (((closed secret).after (before ++ [v] ++ between)).reply w).answer = .ok ()) := by
  have first : InOrder (before ++ [v]) := ordered.of_append.of_append
  obtain ⟨ordered', earlier⟩ := first.snoc
  have tracks : Tracks _ v.user _ v.moment := tracks_after secret ordered' earlier
  have refused : (((closed secret).after before).reply v).answer.isRefused = true := by
    rw [told]
    rfl
  have long := tracks.isRefused_iff.mp refused
  -- The streak has not ended, so that the gate has its last moment.
  have counts : (streak secret v.user before).lengthAt v.moment ≠ 0 := by
    intro ended
    rw [ended] at long
    exact absurd long (by decide)
  have rounded := (eq_of_refused told).2
  rw [tracks.current_eq counts] at rounded
  change minutes = minutesOf ((streak secret v.user before).left v.moment) at rounded
  have kept : streak secret v.user (before ++ [v]) = streak secret v.user before := by
    rw [streak_snoc_own rfl, Streak.extend_of_neither (Answer.noSuccess_of_refused refused)
      (Answer.notWrong_of_refused refused)]
  have last : (streak secret v.user before).last ≤ v.moment :=
    tracks.past (Nat.pos_of_ne_zero fun none => counts (Nat.eq_zero_of_le_zero
      (none ▸ Streak.lengthAt_le _ _)))
  have waited {time : Nat} (outlasts : (streak secret v.user before).left v.moment < time)
      (later : v.moment + time ≤ w.moment) :
      (((closed secret).after (before ++ [v] ++ between)).reply w).answer = .ok () := by
    refine answer_of_waited ordered (own ▸ noneWrong) ?_ given right
    rw [own, kept]
    exact past_of_outlasts last outlasts later
  refine ⟨fun uneven => ?_, waited (rounded ▸ left_lt_with_second _)⟩
  obtain ⟨some, outlasts⟩ := (outlasts_iff _).mpr uneven
  rw [← rounded] at some outlasts
  exact ⟨some, waited outlasts⟩

/-- Half a second more than a minute and a half before the end of a lock-out two minutes are
    announced, while somebody else is let in; afterwards the right password is, too. -/
theorem announced_minutes_are_enough_after_two :
    (((closed (.plain "right")).after fiveWrong).reply
      ⟨"1", "right", 809500000004⟩).answer = .error (.tooManyAttempts 2) ∧
    (((closed (.plain "right")).after
      (fiveWrong ++ [⟨"1", "right", 809500000004⟩] ++ [⟨"2", "right", 809500000005⟩])).reply
      ⟨"1", "right", 929500000004⟩).answer = .ok () := by
  have facts : InOrder (fiveWrong ++ [⟨"1", "right", 809500000004⟩] ++
        [⟨"2", "right", 809500000005⟩] ++ [⟨"1", "right", 929500000004⟩]) ∧
      (((closed (.plain "right")).after fiveWrong).reply
        ⟨"1", "right", 809500000004⟩).answer = .error (.tooManyAttempts 2) ∧
      (∀ r ∈ ((closed (.plain "right")).after
          (fiveWrong ++ [⟨"1", "right", 809500000004⟩])).record [⟨"2", "right", 809500000005⟩],
        r.user = "1" → r.answer.isWrong = false) ∧
      (streak (.plain "right") "1" fiveWrong).left 809500000004 / second % 60 ≠ 0 := by
    decide +kernel
  obtain ⟨ordered, told, noneWrong, uneven⟩ := facts
  have enough := announced_minutes_are_enough (.plain "right") ordered rfl told noneWrong
    (by decide) rfl
  exact ⟨told, (enough.1 uneven).2 (by decide)⟩

/-- A minute before the end of a lock-out one minute is announced. When it is over, the right
    password is still refused, and no minutes at all are announced. -/
theorem announced_minute_is_too_short :
    InOrder (fiveWrong ++ [⟨"1", "right", 840000000004⟩, ⟨"1", "right", 900000000004⟩]) ∧
    (((closed (.plain "right")).after fiveWrong).reply
      ⟨"1", "right", 840000000004⟩).answer = .error (.tooManyAttempts 1) ∧
    (900000000004 : Moment) = 840000000004 + (1 * minute : Nat) ∧
    (((closed (.plain "right")).after
      (fiveWrong ++ [⟨"1", "right", 840000000004⟩])).reply
      ⟨"1", "right", 900000000004⟩).answer = .error (.tooManyAttempts 0) := by decide +kernel

end Gate

end OfferBook
