import Mathlib.Data.List.Induction
import OfferBook.Proofs.Gate.Visits

/-! # Lock-outs

How often a password can be guessed, as a property of the replies alone.

* `Streak` — the wrong passwords that count at a moment, read off the replies to a user.
* `Gate.Tracks` — a gate keeps the streak of a user; `Gate.tracks_after` — it does so in each run.
* `Gate.windowed` — in a window without a success, a streak counts all that was wrong.
* `Gate.guessing_is_limited` — windows, lock-outs and the independence of users.
-/

namespace OfferBook

open Gate (lockout maxAttempts elapsed)

variable {user : String} {now t : Moment}

namespace Gate

theorem lockout_lt_elapsed {since : Moment} :
    lockout < elapsed since now ↔ since + lockout < now := by
  rw [elapsed, Int.lt_toNat]
  exact ⟨Int.add_lt_of_lt_sub_left, Int.lt_sub_left_of_add_lt⟩

end Gate

/-- Whether a reply falls into the closed window of a lock-out's length from a start on. -/
def Reply.Within (start : Moment) (r : Reply) : Prop :=
  start ≤ r.moment ∧ r.moment ≤ start + lockout

instance (start : Moment) (r : Reply) : Decidable (r.Within start) :=
  inferInstanceAs (Decidable (_ ∧ _))

/-! ## Streaks -/

/-- Wrong passwords with pauses no longer than a lock-out, and the time of the last. -/
structure Streak where
  length : Nat
  last : Moment
deriving DecidableEq

namespace Streak

variable {s : Streak}

def none : Streak := ⟨0, 0⟩

/-- How many wrong passwords count at a moment. -/
def lengthAt (s : Streak) (now : Moment) : Nat :=
  if lockout < elapsed s.last now then 0 else s.length

/-- The streak after one more answer. -/
def extend (s : Streak) (now : Moment) (answer : Answer) : Streak :=
  if answer.isSuccess then none
  else if answer.isWrong then ⟨s.lengthAt now + 1, now⟩
  else s

/-- The streak of a user after some replies, of which only the user's own count. -/
def ofReplies (user : String) (replies : List Reply) : Streak :=
  (replies.filter (·.user = user)).foldl (fun s r => s.extend r.moment r.answer) none

theorem ofReplies_snoc (user : String) (replies : List Reply) (r : Reply) :
    ofReplies user (replies ++ [r]) =
      if r.user = user then (ofReplies user replies).extend r.moment r.answer
      else ofReplies user replies := by
  unfold ofReplies
  rw [List.filter_append, List.foldl_append]
  split
  · next own => simp [own]
  · next other => simp [other]

theorem extend_of_wrong {answer : Answer} (wrong : answer.isWrong = true) :
    s.extend now answer = ⟨s.lengthAt now + 1, now⟩ := by
  have noSuccess : answer.isSuccess = false := Answer.noSuccess_of_wrong wrong
  simp [extend, noSuccess, wrong]

theorem extend_of_success {answer : Answer} (success : answer.isSuccess = true) :
    s.extend now answer = none := if_pos success

theorem extend_of_neither {answer : Answer} (noSuccess : answer.isSuccess = false)
    (notWrong : answer.isWrong = false) : s.extend now answer = s := by
  simp [extend, noSuccess, notWrong]

theorem lengthAt_le (s : Streak) (now : Moment) : s.lengthAt now ≤ s.length := by
  unfold lengthAt
  split
  · exact Nat.zero_le _
  · exact Nat.le_refl _

theorem lengthAt_of_le (recent : now ≤ s.last + lockout) : s.lengthAt now = s.length :=
  if_neg fun past => absurd recent (Int.not_le.mpr (Gate.lockout_lt_elapsed.mp past))

theorem lengthAt_of_lt (past : s.last + lockout < now) : s.lengthAt now = 0 :=
  if_pos (Gate.lockout_lt_elapsed.mpr past)

/-- A streak that has ended does not come back. -/
theorem lengthAt_eq_zero_of_le (ended : s.lengthAt now = 0) (later : now ≤ t) :
    s.lengthAt t = 0 := by
  rcases Int.lt_or_le (s.last + lockout) t with past | recent
  · exact lengthAt_of_lt past
  · rw [lengthAt_of_le recent, ← ended, lengthAt_of_le (Int.le_trans later recent)]

end Streak

namespace Gate

variable {g g' : Gate} {s : Streak} {v : Visit} {secret : Secret}

/-! ## A gate keeps the streaks -/

/-- From a moment on, what a gate keeps of a user's attempts amounts to a streak. -/
structure Tracks (g : Gate) (user : String) (s : Streak) (now : Moment) : Prop where
  keeps : g.attempts.get? user = some ⟨s.length, s.last⟩ ∨
    (∀ a ∈ g.attempts.get? user, a.failed = 0) ∧ s.lengthAt now = 0
  past : 0 < s.length → s.last ≤ now

namespace Tracks

theorem mono (tracks : Tracks g user s now) (later : now ≤ t) : Tracks g user s t where
  keeps := tracks.keeps.imp id (And.imp_right fun h => Streak.lengthAt_eq_zero_of_le h later)
  past long := Int.le_trans (tracks.past long) later

theorem of_alike (tracks : Tracks g user s now) (alike : Alike user g' g) :
    Tracks g' user s now where
  keeps := alike.attempts ▸ tracks.keeps
  past := tracks.past

theorem current_failed (tracks : Tracks g user s now) :
    (g.current user now).failed = s.lengthAt now := by
  unfold current
  rcases tracks.keeps with kept | ⟨none, ended⟩
  · rw [kept, Option.getD_some]
    unfold Streak.lengthAt
    dsimp only
    split <;> rfl
  · rw [ended]
    have zero : ((g.attempts.get? user).getD ⟨0, now⟩).failed = 0 := by
      cases h : g.attempts.get? user with
      | none => rfl
      | some a => exact none a h
    dsimp only
    split
    · rfl
    · exact zero

/-- A streak that counts is what the gate has. -/
theorem current_eq (tracks : Tracks g user s now) (counts : s.lengthAt now ≠ 0) :
    g.current user now = ⟨s.length, s.last⟩ := by
  rcases tracks.keeps with kept | ⟨-, ended⟩
  · unfold current
    rw [kept, Option.getD_some]
    refine if_neg fun past => counts ?_
    exact Streak.lengthAt_of_lt (lockout_lt_elapsed.mp past)
  · exact absurd ended counts

theorem of_verdict {answer : Answer} (tracks : Tracks g user s now)
    (verdict : Verdict g user now answer (g'.attempts.get? user)) :
    Tracks g' user (s.extend now answer) now := by
  -- Nothing happens to the streak, whether or not the gate has just forgotten it.
  have same (kept : some (g.current user now) = g'.attempts.get? user) :
      Tracks g' user s now := by
    refine ⟨?_, tracks.past⟩
    by_cases counts : s.lengthAt now = 0
    · refine .inr ⟨?_, counts⟩
      intro a ha
      rw [← kept, Option.mem_some_iff] at ha
      rw [← ha, tracks.current_failed, counts]
    · exact .inl (by rw [← kept, tracks.current_eq counts])
  generalize kept : g'.attempts.get? user = left at verdict
  cases verdict with
  | refused minutes full => exact same kept.symm
  | undecided free neither =>
    rw [Streak.extend_of_neither neither.1 neither.2.1]
    exact same kept.symm
  | wrong remaining free =>
    refine ⟨.inl ?_, fun _ => Int.le_refl _⟩
    rw [kept, tracks.current_failed]
    rfl
  | right free =>
    refine ⟨.inr ⟨?_, ?_⟩, fun long => absurd long (Nat.lt_irrefl 0)⟩
    · simp [kept]
    · exact Nat.eq_zero_of_le_zero (Streak.lengthAt_le _ _)

theorem next (tracks : Tracks g v.user s v.moment) :
    Tracks (g.next v) v.user (s.extend v.moment (g.reply v).answer) v.moment :=
  tracks.of_verdict (g.verdict _ _ _)

/-! The streak decides who is refused, and who is told that the password is wrong. -/

theorem isRefused_iff (tracks : Tracks g v.user s v.moment) :
    (g.reply v).answer.isRefused = true ↔ maxAttempts ≤ s.lengthAt v.moment := by
  rw [← tracks.current_failed]
  have verdict := g.verdict v.user v.password v.moment
  unfold reply
  generalize (g.verify v.user v.password v.moment).2.attempts.get? v.user = kept at verdict
  generalize (g.verify v.user v.password v.moment).1 = answer at verdict ⊢
  cases verdict with
  | refused minutes full => exact iff_of_true rfl full
  | undecided free neither =>
    exact iff_of_false (by simp [neither.2.2]) (Nat.not_le_of_lt free)
  | wrong remaining free => exact iff_of_false Bool.false_ne_true (Nat.not_le_of_lt free)
  | right free => exact iff_of_false Bool.false_ne_true (Nat.not_le_of_lt free)

theorem lt_of_isWrong (tracks : Tracks g v.user s v.moment)
    (wrong : (g.reply v).answer.isWrong = true) : s.lengthAt v.moment < maxAttempts := by
  rw [← tracks.current_failed]
  have verdict := g.verdict v.user v.password v.moment
  unfold reply at wrong
  generalize (g.verify v.user v.password v.moment).2.attempts.get? v.user = kept at verdict
  generalize (g.verify v.user v.password v.moment).1 = answer at verdict wrong
  cases verdict with
  | refused minutes full => cases wrong
  | undecided free neither => exact free
  | wrong remaining free => exact free
  | right free => exact free

end Tracks

/-- In the order of their times. -/
def InOrder (visits : List Visit) : Prop := visits.Pairwise (·.moment ≤ ·.moment)

instance (visits : List Visit) : Decidable (InOrder visits) :=
  inferInstanceAs (Decidable (List.Pairwise _ _))

theorem InOrder.snoc {visits : List Visit} (h : InOrder (visits ++ [v])) :
    InOrder visits ∧ ∀ w ∈ visits, w.moment ≤ v.moment := by
  obtain ⟨before, -, last⟩ := List.pairwise_append.mp h
  exact ⟨before, fun w hw => last w hw v (List.mem_singleton_self v)⟩

theorem InOrder.exists_bound {visits : List Visit} (h : InOrder visits) :
    ∃ now, ∀ v ∈ visits, v.moment ≤ now := by
  rcases visits.eq_nil_or_concat with rfl | ⟨earlier, v, rfl⟩
  · exact ⟨0, by simp⟩
  · refine ⟨v.moment, fun w hw => ?_⟩
    rw [List.concat_eq_append] at h hw
    rcases List.mem_append.mp hw with hw | hw
    · exact h.snoc.2 w hw
    · exact Int.le_of_eq (congrArg Visit.moment (List.mem_singleton.mp hw))

/-- The streak of a user after some visits. -/
def streak (secret : Secret) (user : String) (visits : List Visit) : Streak :=
  Streak.ofReplies user ((closed secret).record visits)

theorem streak_snoc_own (own : v.user = user) (visits : List Visit) :
    streak secret user (visits ++ [v]) = (streak secret user visits).extend v.moment
      (((closed secret).after visits).reply v).answer := by
  unfold streak
  rw [record_snoc, Streak.ofReplies_snoc]
  exact if_pos own

theorem streak_snoc_other (other : v.user ≠ user) (visits : List Visit) :
    streak secret user (visits ++ [v]) = streak secret user visits := by
  unfold streak
  rw [record_snoc, Streak.ofReplies_snoc]
  exact if_neg other

theorem tracks_after (secret : Secret) {visits : List Visit} (ordered : InOrder visits)
    (before : ∀ v ∈ visits, v.moment ≤ now) :
    Tracks ((closed secret).after visits) user (streak secret user visits) now := by
  induction visits using List.reverseRecOn generalizing now with
  | nil => exact ⟨.inr ⟨nofun, Nat.eq_zero_of_le_zero (Streak.lengthAt_le _ _)⟩, nofun⟩
  | append_singleton visits v ih =>
    obtain ⟨ordered, earlier⟩ := ordered.snoc
    have tracks := ih ordered earlier
    rw [after_snoc]
    refine Tracks.mono ?_ (before v (by simp))
    by_cases own : v.user = user
    · rw [streak_snoc_own own]
      subst own
      exact tracks.next
    · rw [streak_snoc_other own]
      exact tracks.of_alike (.of_other own _)

/-! ## Windows -/

/-- The wrong passwords of a user in a window. -/
def wrongWithin (user : String) (start : Moment) (replies : List Reply) : Nat :=
  replies.countP fun r => r.user = user ∧ r.Within start ∧ r.answer.isWrong

theorem wrongWithin_snoc (user : String) (start : Moment) (replies : List Reply) (r : Reply) :
    wrongWithin user start (replies ++ [r]) = wrongWithin user start replies +
      if r.user = user ∧ r.Within start ∧ r.answer.isWrong then 1 else 0 := by
  simp [wrongWithin, List.countP_append, List.countP_cons]

/-- Few wrong passwords were given in a window up to a moment; while it is open, the streak counts
    all of them. -/
structure Windowed (start : Moment) (s : Streak) (wrong : Nat) (now : Moment) : Prop where
  few : wrong ≤ maxAttempts
  counted : now ≤ start + lockout → 0 < wrong → wrong ≤ s.length ∧ start ≤ s.last

namespace Windowed

variable {start : Moment} {wrong : Nat}

theorem mono (windowed : Windowed start s wrong now) (later : now ≤ t) :
    Windowed start s wrong t where
  few := windowed.few
  counted isOpen := windowed.counted (Int.le_trans later isOpen)

theorem next (windowed : Windowed start s wrong v.moment) (tracks : Tracks g v.user s v.moment)
    (failing : (g.reply v).Within start → (g.reply v).answer.isSuccess = false) :
    Windowed start (s.extend v.moment (g.reply v).answer)
      (wrong + if (g.reply v).Within start ∧ (g.reply v).answer.isWrong then 1 else 0)
      v.moment := by
  obtain ⟨few, counted⟩ := windowed
  -- After a wrong password in the window, a visit before its end is in it, too.
  have within (isOpen : v.moment ≤ start + lockout) (some : 0 < wrong) :
      (g.reply v).Within start := by
    obtain ⟨long, began⟩ := counted isOpen some
    exact ⟨Int.le_trans began (tracks.past (Nat.lt_of_lt_of_le some long)), isOpen⟩
  by_cases isWrong : (g.reply v).answer.isWrong = true
  · rw [Streak.extend_of_wrong isWrong]
    have short := tracks.lt_of_isWrong isWrong
    by_cases inside : (g.reply v).Within start
    · have all : wrong ≤ s.lengthAt v.moment := by
        rcases Nat.eq_zero_or_pos wrong with none | some
        · exact none ▸ Nat.zero_le _
        · obtain ⟨long, began⟩ := counted inside.2 some
          have recent : v.moment ≤ s.last + lockout :=
            Int.le_trans inside.2 (Int.add_le_add_right began _)
          rwa [Streak.lengthAt_of_le recent]
      rw [if_pos ⟨inside, isWrong⟩]
      exact ⟨Nat.lt_of_le_of_lt all short, fun _ _ => ⟨Nat.succ_le_succ all, inside.1⟩⟩
    · rw [if_neg fun h => inside h.1]
      exact ⟨few, fun isOpen some => absurd (within isOpen some) inside⟩
  · rw [if_neg fun h => isWrong h.2]
    refine ⟨few, fun isOpen some => ?_⟩
    rw [Streak.extend_of_neither (failing (within isOpen some)) (Bool.eq_false_iff.mpr isWrong)]
    exact counted isOpen some

end Windowed

theorem windowed_after {visits : List Visit} {start : Moment} (ordered : InOrder visits)
    (before : ∀ v ∈ visits, v.moment ≤ now)
    (failing : ∀ r ∈ (closed secret).record visits, r.user = user → r.Within start →
      r.answer.isSuccess = false) :
    Windowed start (streak secret user visits)
      (wrongWithin user start ((closed secret).record visits)) now := by
  induction visits using List.reverseRecOn generalizing now with
  | nil => exact ⟨Nat.zero_le _, nofun⟩
  | append_singleton visits v ih =>
    obtain ⟨ordered, earlier⟩ := ordered.snoc
    rw [record_snoc] at failing ⊢
    have windowed := ih ordered earlier fun r hr => failing r (List.mem_append_left _ hr)
    refine Windowed.mono ?_ (before v (by simp))
    rw [wrongWithin_snoc]
    by_cases own : v.user = user
    · rw [streak_snoc_own own]
      simp only [reply, own, true_and]
      subst own
      exact windowed.next (tracks_after secret ordered earlier) (failing _ (by simp) rfl)
    · rw [if_neg fun h => own h.1, streak_snoc_other own]
      exact windowed

/-! ## Lock-outs -/

section Locked

variable {before between : List Visit} {moment : Moment}

theorem isRefused_of_locked {visits : List Visit} (ordered : InOrder (visits ++ [v]))
    (full : streak secret v.user visits = ⟨maxAttempts, moment⟩)
    (during : v.moment ≤ moment + lockout) :
    (((closed secret).after visits).reply v).answer.isRefused = true := by
  obtain ⟨ordered, earlier⟩ := ordered.snoc
  have tracks : Tracks _ v.user _ v.moment := tracks_after secret ordered earlier
  have counted : Streak.lengthAt ⟨maxAttempts, moment⟩ v.moment = maxAttempts :=
    Streak.lengthAt_of_le during
  exact tracks.isRefused_iff.mpr (full ▸ Nat.le_of_eq counted.symm)

/-- Visits during a lock-out do not prolong it. -/
theorem streak_of_locked (ordered : InOrder (before ++ between))
    (full : streak secret user before = ⟨maxAttempts, moment⟩)
    (during : ∀ v ∈ between, v.moment ≤ moment + lockout) :
    streak secret user (before ++ between) = ⟨maxAttempts, moment⟩ := by
  induction between using List.reverseRecOn with
  | nil => rwa [List.append_nil]
  | append_singleton between v ih =>
    rw [← List.append_assoc] at ordered ⊢
    have same := ih ordered.snoc.1 fun w hw => during w (List.mem_append_left _ hw)
    by_cases own : v.user = user
    · subst own
      have refused := isRefused_of_locked ordered same (during v (by simp))
      rw [streak_snoc_own rfl, Streak.extend_of_neither (Answer.noSuccess_of_refused refused)
        (Answer.notWrong_of_refused refused), same]
    · rw [streak_snoc_other own, same]

/-- The wrong passwords of a user. -/
def wrong (user : String) (replies : List Reply) : Nat :=
  replies.countP fun r => r.user = user ∧ r.answer.isWrong

theorem wrong_snoc (user : String) (replies : List Reply) (r : Reply) :
    wrong user (replies ++ [r]) =
      wrong user replies + if r.user = user ∧ r.answer.isWrong then 1 else 0 := by
  simp [wrong, List.countP_append, List.countP_cons]

/-- Once a lock-out is over, only what was wrong since then counts. -/
theorem lengthAt_of_unlocked (ordered : InOrder (before ++ between))
    (full : streak secret user before = ⟨maxAttempts, moment⟩) (past : moment + lockout < now) :
    (streak secret user (before ++ between)).lengthAt now ≤
      wrong user (((closed secret).after before).record between) := by
  induction between using List.reverseRecOn generalizing now with
  | nil =>
    rw [List.append_nil, full, Streak.lengthAt_of_lt past]
    exact Nat.zero_le _
  | append_singleton between v ih =>
    rw [← List.append_assoc] at ordered ⊢
    obtain ⟨ordered', earlier⟩ := ordered.snoc
    rw [record_snoc, wrong_snoc, ← after_append]
    by_cases own : v.user = user
    · rw [streak_snoc_own own]
      subst own
      by_cases isWrong : (((closed secret).after (before ++ between)).reply v).answer.isWrong
      · -- Whoever is told that a password is wrong is not locked out.
        have unlocked : moment + lockout < v.moment := by
          refine Int.not_le.mp fun during => ?_
          have same := streak_of_locked ordered' full fun w hw =>
            Int.le_trans (earlier w (List.mem_append_right _ hw)) during
          have refused := isRefused_of_locked ordered same during
          exact Bool.eq_false_iff.mp (Answer.notWrong_of_refused refused) isWrong
        rw [Streak.extend_of_wrong isWrong, if_pos ⟨rfl, isWrong⟩]
        exact Nat.le_trans (Streak.lengthAt_le _ _) (Nat.succ_le_succ (ih ordered' unlocked))
      · refine Nat.le_trans ?_ (Nat.le_add_right _ _)
        by_cases success : (((closed secret).after (before ++ between)).reply v).answer.isSuccess
        · rw [Streak.extend_of_success success]
          exact Nat.le_trans (Streak.lengthAt_le _ _) (Nat.zero_le _)
        · rw [Streak.extend_of_neither (Bool.eq_false_iff.mpr success)
            (Bool.eq_false_iff.mpr isWrong)]
          exact ih ordered' past
    · rw [streak_snoc_other own]
      exact Nat.le_trans (ih ordered' past) (Nat.le_add_right _ _)

end Locked

/-! ## Guessing -/

/-- Five wrong passwords of one user, one a nanosecond. -/
def fiveWrong : List Visit := (List.range 5).map fun k : Nat => ⟨"1", "guess", (k : Int)⟩

/-- Users of the admin area, in any order and with any passwords, at times that do not go back:
    * in a window of the length of a lock-out in which a user has no success, at most
      `maxAttempts` of the user's passwords are found wrong;
    * when that many have been wrong in a streak, the user is refused until a lock-out has passed
      since the last of them, whatever else is tried in between; afterwards the user is not
      refused before as many have been wrong again;
    * the replies to a user are those that would have been given without the others;
    * what is left of a lock-out is never less than nothing. -/
theorem guessing_is_limited (secret : Secret) (visits : List Visit) (ordered : InOrder visits)
    (user : String) :
    (∀ start, (∀ r ∈ (closed secret).record visits, r.user = user → r.Within start →
        r.answer.isSuccess = false) →
      wrongWithin user start ((closed secret).record visits) ≤ maxAttempts) ∧
    (∀ before between v rest moment, visits = before ++ between ++ v :: rest → v.user = user →
      streak secret user before = ⟨maxAttempts, moment⟩ →
      (v.moment ≤ moment + lockout →
        (((closed secret).after (before ++ between)).reply v).answer.isRefused = true) ∧
      (moment + lockout < v.moment →
        wrong user (((closed secret).after before).record between) < maxAttempts →
        (((closed secret).after (before ++ between)).reply v).answer.isRefused = false)) ∧
    ((closed secret).record visits).filter (·.user = user) =
      (closed secret).record (visits.filter (·.user = user)) ∧
    ∀ before v rest, visits = before ++ v :: rest →
      maxAttempts ≤ (((closed secret).after before).current v.user v.moment).failed →
      elapsed (((closed secret).after before).current v.user v.moment).last v.moment ≤
        lockout := by
  refine ⟨?_, ?_, (Alike.refl user _).record visits, fun _ _ _ _ => elapsed_le_of_full⟩
  · intro start failing
    obtain ⟨now, before⟩ := ordered.exists_bound
    exact (windowed_after ordered before failing).few
  · rintro before between v rest moment rfl rfl full
    have ordered : InOrder (before ++ between ++ [v]) := by
      refine List.Pairwise.sublist ?_ ordered
      exact (List.singleton_sublist.mpr (by simp)).append_left _
    obtain ⟨ordered', earlier⟩ := ordered.snoc
    refine ⟨fun during => ?_, fun past few => ?_⟩
    · refine isRefused_of_locked ordered (streak_of_locked ordered' full ?_) during
      exact fun w hw => Int.le_trans (earlier w (List.mem_append_right _ hw)) during
    · have tracks : Tracks _ v.user _ v.moment := tracks_after secret ordered' earlier
      rw [← Bool.not_eq_true, tracks.isRefused_iff, Nat.not_le]
      exact Nat.lt_of_le_of_lt (lengthAt_of_unlocked ordered' full past) few

/-- After five wrong passwords the right one is refused for as long as a lock-out lasts, while
    somebody else is let in; afterwards it is not. -/
theorem guessing_is_limited_after_five :
    (((closed (.plain "right")).after (fiveWrong ++ [⟨"2", "right", 5⟩])).reply
      ⟨"1", "right", 4 + lockout⟩).answer.isRefused = true ∧
    (((closed (.plain "right")).after (fiveWrong ++ [⟨"2", "right", 5⟩])).reply
      ⟨"1", "right", 5 + lockout⟩).answer.isRefused = false := by
  have limited (v : Visit) (own : v.user = "1")
      (ordered : InOrder (fiveWrong ++ [⟨"2", "right", 5⟩] ++ v :: [])) :=
    (guessing_is_limited (.plain "right") _ ordered "1").2.1 fiveWrong [⟨"2", "right", 5⟩] v [] 4
      rfl own (by decide +kernel)
  exact ⟨(limited ⟨"1", "right", 4 + lockout⟩ rfl (by decide +kernel)).1 (by decide),
    (limited ⟨"1", "right", 5 + lockout⟩ rfl (by decide +kernel)).2 (by decide)
      (by decide +kernel)⟩

end Gate

end OfferBook
