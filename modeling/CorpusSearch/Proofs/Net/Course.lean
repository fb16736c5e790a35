-- The course of a request. A reply that fails for a while is followed by a pause and the next
-- request, up to the limit; the first other reply ends the course, and so does the last one that
-- the limit allows. What the session has to say behind that reply is never asked.
import CorpusSearch.Net.Retry
import CorpusSearch.Proofs.Number.Whole

namespace CorpusSearch.Net

/-! ## Replies -/

/-- A reply that may be another one next time: nothing came in time, there was no connection, or the
status is one of failure that may pass. -/
def IsTransient : Reply → Prop
  | .ok response => response.status ∈ [429, 500, 502, 503, 504]
  | .error failure =>
    failure.trouble ∈
        [.timeout, .connectTimeout, .readTimeout, .connection, .tls, .proxy] ∨
      ∃ code ∈ [429, 500, 502, 503, 504], failure.trouble = .status code

instance instDecidableIsTransient : (reply : Reply) → Decidable (IsTransient reply)
  | .ok _ => inferInstanceAs (Decidable (_ ∈ _))
  | .error _ => inferInstanceAs (Decidable (_ ∨ _))

/-- What a request ends with that ends with a reply: the reply itself, but a response with a status
of failure becomes a failure with this status. -/
inductive Reports : Reply → Reply → Prop
  | response {response : Response} (h : ¬ (400 ≤ response.status ∧ response.status < 600)) :
      Reports (.ok response) (.ok response)
  | status {response : Response} {message : Text}
      (h : 400 ≤ response.status ∧ response.status < 600) :
      Reports (.ok response) (.error ⟨.status response.status, message⟩)
  | failure {failure : Failure} : Reports (.error failure) (.error failure)

variable {url : Text}

theorem mem_passingStatus {code : Int} (h : code ∈ passingStatus) : 400 ≤ code ∧ code < 600 := by
  simp only [passingStatus, List.mem_cons, List.not_mem_nil, or_false] at h
  omega

theorem reports_checked (url : Text) (reply : Reply) : Reports reply (checked url reply) := by
  cases reply with
  | error failure => exact .failure
  | ok response =>
    unfold checked
    dsimp only
    split
    · rename_i hpassing
      exact .status (mem_passingStatus hpassing)
    · split
      · rename_i hclient
        rw [Bool.and_eq_true, decide_eq_true_iff, decide_eq_true_iff] at hclient
        exact .status (by omega)
      · split
        · rename_i hserver
          rw [Bool.and_eq_true, decide_eq_true_iff, decide_eq_true_iff] at hserver
          exact .status (by omega)
        · rename_i hclient hserver
          rw [Bool.and_eq_true, decide_eq_true_iff, decide_eq_true_iff] at hclient hserver
          exact .response (by omega)

theorem mayPass_iff {trouble : Trouble} : trouble.mayPass = true ↔
    trouble ∈ [.timeout, .connectTimeout, .readTimeout, .connection, .tls, .proxy] ∨
      ∃ code ∈ [429, 500, 502, 503, 504], trouble = .status code := by
  cases trouble <;> simp [Trouble.mayPass, passingStatus]

/-- A request is made again after the replies that may be others next time. -/
theorem isTransient_iff (url : Text) {reply : Reply} : IsTransient reply ↔
    ∃ failure, checked url reply = .error failure ∧ failure.trouble.mayPass = true := by
  cases reply with
  | error failure =>
    unfold IsTransient checked
    dsimp only
    rw [← mayPass_iff]
    constructor
    · intro hpass
      exact ⟨failure, rfl, hpass⟩
    · rintro ⟨failure, ⟨⟩, hpass⟩
      exact hpass
  | ok response =>
    unfold IsTransient checked
    dsimp only
    constructor
    · intro hpassing
      exact ⟨_, if_pos hpassing, mayPass_iff.mpr (Or.inr ⟨_, hpassing, rfl⟩)⟩
    · rintro ⟨failure, hchecked, hpass⟩
      split at hchecked
      · assumption
      · rename_i hnot
        split at hchecked
        · cases hchecked
          exact of_decide_eq_true hpass
        · split at hchecked
          · cases hchecked
            exact of_decide_eq_true hpass
          · cases hchecked

/-! ## One request -/

/-- A course behind pauses and what was logged of them. -/
def Course.behind (pauses : List Double) (entries : List Log.Entry) (course : Course) : Course :=
  { course with
    requests := pauses.length + course.requests
    pauses := pauses ++ course.pauses
    log := entries ++ course.log }

variable {session other : Nat → Reply} {jitter : Nat → Double} {limit left attempt : Nat}

theorem Course.behind_behind (pauses pauses' : List Double) (entries entries' : List Log.Entry)
    (course : Course) : (course.behind pauses' entries').behind pauses entries =
      course.behind (pauses ++ pauses') (entries ++ entries') := by
  simp [Course.behind, Nat.add_assoc]

theorem courseFrom_of_not_transient (h : ¬ IsTransient (session attempt)) :
    courseFrom session jitter url limit left attempt =
      ⟨checked url (session attempt), 1, [], []⟩ := by
  rw [isTransient_iff url] at h
  unfold courseFrom
  cases hreply : checked url (session attempt) with
  | ok response => rfl
  | error failure =>
    have hfinal : failure.trouble.mayPass = false :=
      Bool.eq_false_iff.mpr fun hpass => h ⟨failure, hreply, hpass⟩
    simp [hfinal]

theorem courseFrom_last :
    courseFrom session jitter url limit 0 attempt =
      ⟨checked url (session attempt), 1, [], []⟩ := by
  unfold courseFrom
  cases checked url (session attempt) with
  | ok response => rfl
  | error failure => simp

variable {failure : Failure} {pause : Double}

/-- Any other reply is followed by a pause and the next request. -/
theorem courseFrom_again (limit left : Nat)
    (hreply : checked url (session attempt) = .error failure)
    (hpass : failure.trouble.mayPass = true)
    (hpause : pause? attempt (jitter attempt) = some pause) :
    courseFrom session jitter url limit (left + 1) attempt =
      (courseFrom session jitter url limit left (attempt + 1)).behind [pause]
        [⟨.debug, retryMessage url limit attempt pause failure⟩] := by
  rw [courseFrom]
  simp [hreply, hpass, hpause, Course.behind, Nat.add_comm]

theorem courseFrom_overflow (hreply : checked url (session attempt) = .error failure)
    (hpass : failure.trouble.mayPass = true) (hpause : pause? attempt (jitter attempt) = none) :
    courseFrom session jitter url limit (left + 1) attempt =
      ⟨.error ⟨.pauseOverflow, pauseTooLarge⟩, 1, [], []⟩ := by
  rw [courseFrom]
  simp [hreply, hpass, hpause]

/-! ## Requests one after another -/

/-- There is a pause behind each of the first 1024 requests, and none behind a later one. -/
theorem pause?_eq_none_iff (attempt : Nat) (jitter : Double) :
    pause? attempt jitter = none ↔ 1024 ≤ attempt := by
  unfold pause?
  rw [Option.map_eq_none_iff, Double.ofInt?_eq_none_iff, Int.natAbs_natCast]
  constructor
  · intro hpast
    refine Nat.le_of_not_lt fun hless => ?_
    have hbelow : Number.twoTo 53 * Number.twoTo 970 < Double.past :=
      Nat.mul_lt_mul_of_pos_right (by decide) (Number.twoTo_pos 970)
    rw [← Number.twoTo_add] at hbelow
    have hle : Number.twoTo attempt ≤ Number.twoTo (53 + 970) := Number.twoTo_le (by omega)
    omega
  · intro hle
    have habove := Double.past_bounds.2
    rw [← Number.twoTo_add] at habove
    exact Nat.le_trans (Nat.le_of_lt habove) (Number.twoTo_le hle)

/-- The pauses behind `count` requests, the first of which has the number `attempt`. -/
def ArePauses (jitter : Nat → Double) (attempt count : Nat) (pauses : List Double) : Prop :=
  pauses.map some = (List.range' attempt count).map fun number => pause? number (jitter number)

theorem ArePauses.length_eq {count : Nat} {pauses : List Double}
    (h : ArePauses jitter attempt count pauses) : pauses.length = count := by
  simpa using congrArg List.length h

/-- Replies that may be others next time are followed by pauses and further requests. -/
theorem exists_courseFrom_eq_behind (jitter : Nat → Double) (url : Text) (limit : Nat) {count : Nat}
    (hcount : count ≤ left) (hfits : attempt + count ≤ 1024)
    (h : ∀ i < count, IsTransient (session (attempt + i))) :
    ∃ pauses entries, ArePauses jitter attempt count pauses ∧
      courseFrom session jitter url limit left attempt =
        (courseFrom session jitter url limit (left - count) (attempt + count)).behind
          pauses entries := by
  induction count generalizing left attempt with
  | zero => exact ⟨[], [], rfl, by simp [Course.behind]⟩
  | succ count ih =>
    obtain ⟨left, rfl⟩ := Nat.exists_eq_add_one_of_ne_zero (show left ≠ 0 by omega)
    have hpause : pause? attempt (jitter attempt) ≠ none := by
      rw [Ne, pause?_eq_none_iff]
      omega
    obtain ⟨pause, hpause⟩ := Option.ne_none_iff_exists'.mp hpause
    obtain ⟨failure, hreply, hpass⟩ :=
      (isTransient_iff url).mp (h 0 (Nat.zero_lt_succ _))
    have hfirst := courseFrom_again limit left hreply hpass hpause
    obtain ⟨pauses, entries, hpauses, hrest⟩ := ih (show count ≤ left by omega)
      (show attempt + 1 + count ≤ 1024 by omega) fun i hi => by
        have := h (i + 1) (by omega)
        rwa [show attempt + (i + 1) = attempt + 1 + i by omega] at this
    rw [hrest, Course.behind_behind] at hfirst
    rw [show left + 1 - (count + 1) = left - count by omega,
      show attempt + (count + 1) = attempt + 1 + count by omega]
    refine ⟨_, _, ?_, hfirst⟩
    unfold ArePauses at hpauses ⊢
    rw [List.singleton_append, List.map_cons, hpauses, List.range'_succ, List.map_cons, hpause]

/-- The course ends with the first reply that is of another kind, or with the last one. -/
theorem exists_get_eq (jitter : Nat → Double) (url : Text) {number : Nat} (hlimit : number < limit)
    (hfits : number ≤ 1024) (h : ∀ i < number, IsTransient (session i))
    (hend : ¬ IsTransient (session number) ∨ number + 1 = limit) :
    ∃ pauses entries, ArePauses jitter 0 number pauses ∧
      get session jitter limit url =
        ⟨checked url (session number), number + 1, pauses, entries⟩ := by
  obtain ⟨pauses, entries, hpauses, hcourse⟩ :=
    exists_courseFrom_eq_behind jitter url limit (show number ≤ limit - 1 by omega)
      (show 0 + number ≤ 1024 by omega) (by simpa using h)
  have hlast : courseFrom session jitter url limit (limit - 1 - number) (0 + number) =
      ⟨checked url (session number), 1, [], []⟩ := by
    rw [Nat.zero_add]
    rcases hend with hother | hend
    · exact courseFrom_of_not_transient hother
    · rw [show limit - 1 - number = 0 by omega]
      exact courseFrom_last
  refine ⟨pauses, entries, hpauses, ?_⟩
  rw [get, hcourse, hlast]
  simp [Course.behind, hpauses.length_eq]

/-- Behind the request with the number 1024 the course ends without a pause, if the limit allows a
further request. -/
theorem exists_get_eq_overflow (jitter : Nat → Double) (url : Text) (hlimit : 1025 < limit)
    (h : ∀ i < 1025, IsTransient (session i)) :
    ∃ pauses entries, ArePauses jitter 0 1024 pauses ∧
      get session jitter limit url =
        ⟨.error ⟨.pauseOverflow, pauseTooLarge⟩, 1025, pauses, entries⟩ := by
  obtain ⟨pauses, entries, hpauses, hcourse⟩ :=
    exists_courseFrom_eq_behind jitter url limit (show 1024 ≤ limit - 1 by omega)
      (show 0 + 1024 ≤ 1024 by omega) (fun i hi => by simpa using h i (by omega))
  have hlast : courseFrom session jitter url limit (limit - 1 - 1024) (0 + 1024) =
      ⟨.error ⟨.pauseOverflow, pauseTooLarge⟩, 1, [], []⟩ := by
    obtain ⟨failure, hreply, hpass⟩ := (isTransient_iff url).mp (h 1024 (by omega))
    rw [show limit - 1 - 1024 = limit - 1026 + 1 by omega]
    exact courseFrom_overflow hreply hpass ((pause?_eq_none_iff ..).mpr (Nat.le_refl 1024))
  refine ⟨pauses, entries, hpauses, ?_⟩
  rw [get, hcourse, hlast]
  simp [Course.behind, hpauses.length_eq]

theorem courseFrom_congr
    (h : ∀ i < (courseFrom session jitter url limit left attempt).requests,
      other (attempt + i) = session (attempt + i)) :
    courseFrom other jitter url limit left attempt =
      courseFrom session jitter url limit left attempt := by
  induction left generalizing attempt with
  | zero =>
    rw [courseFrom_last] at h ⊢
    rw [courseFrom_last]
    have hsame : other attempt = session attempt := h 0 Nat.one_pos
    rw [hsame]
  | succ left ih =>
    by_cases htransient : IsTransient (session attempt)
    · obtain ⟨failure, hreply, hpass⟩ := (isTransient_iff url).mp htransient
      cases hpause : pause? attempt (jitter attempt) with
      | none =>
        rw [courseFrom_overflow hreply hpass hpause] at h ⊢
        have hsame : other attempt = session attempt := h 0 Nat.one_pos
        rw [← hsame] at hreply
        exact courseFrom_overflow hreply hpass hpause
      | some pause =>
        rw [courseFrom_again limit left hreply hpass hpause] at h ⊢
        have hmore : (courseFrom session jitter url limit left (attempt + 1)).requests + 1 =
            ((courseFrom session jitter url limit left (attempt + 1)).behind [pause]
              [⟨.debug, retryMessage url limit attempt pause failure⟩]).requests := by
          simp [Course.behind, Nat.add_comm]
        rw [← hmore] at h
        have hsame : other attempt = session attempt := h 0 (Nat.succ_pos _)
        have hrest := @ih (attempt + 1) fun i hi => by
          have := h (i + 1) (Nat.succ_lt_succ hi)
          rwa [show attempt + (i + 1) = attempt + 1 + i by omega] at this
        rw [← hsame] at hreply
        rw [courseFrom_again limit left hreply hpass hpause, hrest]
    · rw [courseFrom_of_not_transient htransient] at h ⊢
      have hsame : other attempt = session attempt := h 0 Nat.one_pos
      rw [courseFrom_of_not_transient (hsame ▸ htransient), hsame]

/-! ## The law -/

/-- Up to the limit of 1025 requests a course ends with the first reply that cannot be another one
next time, or with the reply to the last request that the limit allows. There is one request for
each reply up to that one and one pause between two of them. The replies behind it do not count. -/
theorem get_ends_with_reply {configured : Int} (hconfigured : configured ≤ 1025)
    (session : Nat → Reply) (jitter : Nat → Double) (url : Text) :
    let limit := attemptLimit configured
    let course := get session jitter limit url
    (limit : Int) = max 1 configured ∧
    (∀ number < limit, (∀ i < number, IsTransient (session i)) → ¬ IsTransient (session number) →
      course.requests = number + 1 ∧ course.pauses.length = number ∧
        course.result = checked url (session number) ∧
        Reports (session number) course.result) ∧
    ((∀ i < limit, IsTransient (session i)) →
      course.requests = limit ∧ course.pauses.length = limit - 1 ∧
        course.result = checked url (session (limit - 1)) ∧
        Reports (session (limit - 1)) course.result) ∧
    ∀ other : Nat → Reply, (∀ i < course.requests, other i = session i) →
      get other jitter limit url = course := by
  intro limit course
  have hlimit : (limit : Int) = max 1 configured := by
    unfold limit attemptLimit
    omega
  have hend : ∀ number < limit, (∀ i < number, IsTransient (session i)) →
      ¬ IsTransient (session number) ∨ number + 1 = limit →
      course.requests = number + 1 ∧ course.pauses.length = number ∧
        course.result = checked url (session number) ∧
        Reports (session number) course.result := by
    intro number hnumber hbefore hlast
    obtain ⟨pauses, entries, hpauses, hcourse⟩ :=
      exists_get_eq jitter url hnumber (by omega) hbefore hlast
    unfold course
    rw [hcourse]
    exact ⟨rfl, hpauses.length_eq, rfl, reports_checked url _⟩
  refine ⟨hlimit, fun number hnumber hbefore hother => ?_, fun hall => ?_, fun other hsame => ?_⟩
  · exact hend number hnumber hbefore (Or.inl hother)
  · have hpos : limit - 1 + 1 = limit := by omega
    have hlast := hend (limit - 1) (by omega) (fun i hi => hall i (by omega)) (Or.inr hpos)
    rwa [hpos] at hlast
  · refine courseFrom_congr fun i hi => ?_
    rw [Nat.zero_add]
    exact hsame i hi

/-- The third reply is none that may be another one next time. With a limit of three requests it is
the result, and it does not matter what would come behind it; with a limit of two it is not asked
for, and the result is the second one. -/
theorem get_ends_with_reply_not_found :
    let session : Nat → Reply := fun
      | 0 => .ok { status := 503 }
      | 1 => .error ⟨.readTimeout, "read timed out"⟩
      | 2 => .ok { status := 404, reason := some "Not Found" }
      | _ => .ok { status := 200 }
    let jitter := fun _ : Nat => Double.zero false
    let third := get session jitter (attemptLimit 3) "u"
    let second := get session jitter (attemptLimit 2) "u"
    (3 : Int) ≤ 1025 ∧ (∀ i < 2, IsTransient (session i)) ∧ ¬ IsTransient (session 2) ∧
      third.requests = 3 ∧ third.pauses.length = 2 ∧
      third.result = .error ⟨.status 404, "404 Client Error: Not Found for url: u"⟩ ∧
      get (fun number => session (min number 2)) jitter (attemptLimit 3) "u" = third ∧
      second.requests = 2 ∧ second.pauses.length = 1 ∧
      second.result = .error ⟨.readTimeout, "read timed out"⟩ := by
  intro session jitter third second
  have hthree : (3 : Int) ≤ 1025 := by decide
  have hbefore : ∀ i < 2, IsTransient (session i) := by decide
  have hfound : ¬ IsTransient (session 2) := by decide
  obtain ⟨-, hends, -, hsame⟩ := get_ends_with_reply hthree session jitter "u"
  obtain ⟨hrequests, hpauses, hresult, -⟩ := hends 2 (by decide) hbefore hfound
  obtain ⟨-, -, hlast, -⟩ :=
    get_ends_with_reply (show (2 : Int) ≤ 1025 by decide) session jitter "u"
  obtain ⟨hrequests', hpauses', hresult', -⟩ := hlast hbefore
  refine ⟨hthree, hbefore, hfound, hrequests, hpauses, ?_, ?_, hrequests', hpauses', hresult'⟩
  · rw [hresult]
    rfl
  · refine hsame _ fun i hi => ?_
    rw [hrequests] at hi
    rw [Nat.min_eq_left (Nat.le_of_lt_succ hi)]

end CorpusSearch.Net
