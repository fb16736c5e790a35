-- The pauses of a course in which every reply fails for a while. Each pause lies between the base
-- pause doubled as often as there were requests before and the same doubled once more, both cut off
-- at the longest pause; so the pauses never become shorter. Behind request 1025 there is no pause:
-- the factor is past every floating-point number, and a course that is allowed more requests ends
-- there.
import CorpusSearch.Proofs.Net.Course
import CorpusSearch.Proofs.Number.Exact
import CorpusSearch.Settings.Source

namespace CorpusSearch.Net

/-! ## One pause -/

/-- A jitter from zero to three tenths of a second. -/
def IsJitter (jitter : Double) : Prop :=
  ∃ value, jitter.toRat? = some value ∧ 0 ≤ value ∧ value ≤ 3 / 10

/-- The base pause, doubled. The base pause is the floating-point number nearest to 0.8. -/
def doubled (times : Nat) : ℚ := 7205759403792794 * 2 ^ ((times : Int) - 53)

theorem toRat?_basePause : basePause.toRat? = some (doubled 0) := by
  have hbase : basePause = .finite false 7205759403792794 (-53) := by decide +kernel
  rw [hbase]
  rfl

theorem toRat?_maxPause : maxPause.toRat? = some 8 := by
  have hmax : maxPause = .finite false (Number.twoTo 52) (-49) := by decide +kernel
  rw [hmax]
  simp only [Double.toRat?, Double.signed, Bool.false_eq_true, if_false, Int.cast_natCast,
    Double.cast_twoTo, Option.some.injEq]
  norm_num

theorem doubled_succ (times : Nat) : doubled (times + 1) = doubled times * 2 := by
  unfold doubled
  rw [show ((times + 1 : Nat) : Int) - 53 = (times : Int) - 53 + 1 by omega, Double.two_zpow_add,
    zpow_one, mul_assoc]

theorem le_doubled (times : Nat) : 3 / 10 ≤ doubled times := by
  induction times with
  | zero =>
    unfold doubled
    norm_num
  | succ times ih =>
    rw [doubled_succ]
    linarith

theorem doubled_le_succ (times : Nat) : doubled times ≤ doubled (times + 1) := by
  have := le_doubled times
  rw [doubled_succ]
  linarith

theorem doubled_eq (times : Nat) : doubled times = doubled 0 * 2 ^ times := by
  induction times with
  | zero => rw [pow_zero, mul_one]
  | succ times ih => rw [doubled_succ, ih, pow_succ, mul_assoc]

theorem isExact_doubled {times : Nat} (h : times ≤ 1024) : Double.IsExact (doubled times) :=
  ⟨7205759403792794, (times : Int) - 53, by decide, by omega, by omega, rfl⟩

/-- A pause lies between the base pause doubled as often as there were requests before and the same
doubled once more, both cut off at the longest pause. -/
theorem exists_pause {attempt : Nat} {jitter : Double} (hattempt : attempt ≤ 1023)
    (hjitter : IsJitter jitter) : ∃ pause value, pause? attempt jitter = some pause ∧
      pause.toRat? = some value ∧ min (doubled attempt) 8 ≤ value ∧
      value ≤ min (doubled (attempt + 1)) 8 := by
  obtain ⟨shift, hshift, hnonneg, hshort⟩ := hjitter
  obtain ⟨factor, hfactor, hpower⟩ := Double.toRat?_ofInt?_twoTo hattempt
  have hlower := isExact_doubled (show attempt ≤ 1024 by omega)
  have hupper := isExact_doubled (show attempt + 1 ≤ 1024 by omega)
  have hproduct : (basePause.mul factor).toRat? = some (doubled attempt) := by
    rw [doubled_eq] at hlower ⊢
    exact Double.toRat?_mul toRat?_basePause hpower hlower
  -- The jitter is shorter than the base pause, so it does not reach the next power.
  obtain ⟨wanted, hwanted, hle, hge⟩ :
      ∃ wanted, ((basePause.mul factor).add jitter).toRat? = some wanted ∧
        doubled attempt ≤ wanted ∧ wanted ≤ doubled (attempt + 1) := by
    refine Double.add_between hlower hupper hproduct hshift (by linarith) ?_
    have := le_doubled attempt
    rw [doubled_succ]
    linarith
  unfold pause?
  rw [hfactor, Option.map_some]
  dsimp only
  have hlong := Double.lt_iff toRat?_maxPause hwanted
  split
  · rename_i hcut
    have hcut : 8 < wanted := hlong.mp hcut
    refine ⟨_, _, rfl, toRat?_maxPause, min_le_right _ _, le_min ?_ (le_refl 8)⟩
    linarith
  · rename_i hshort
    have hshort : wanted ≤ 8 := not_lt.mp fun hlt => hshort (hlong.mpr hlt)
    exact ⟨_, _, rfl, hwanted, (min_le_left _ _).trans hle, le_min hge hshort⟩

/-! ## The pauses of a course -/

/-- The pauses of a course never become shorter, and none is longer than the longest pause. -/
theorem ArePauses.exists_delays {jitter : Nat → Double} {attempt count : Nat} {pauses : List Double}
    (h : ArePauses jitter attempt count pauses) (hjitter : ∀ number, IsJitter (jitter number))
    (hfits : attempt + count ≤ 1024) :
    ∃ delays : List ℚ, pauses.map Double.toRat? = delays.map some ∧ delays.Pairwise (· ≤ ·) ∧
      ∀ delay ∈ delays, min (doubled attempt) 8 ≤ delay ∧ delay ≤ 8 := by
  induction count generalizing attempt pauses with
  | zero =>
    have hnil : pauses = [] := List.length_eq_zero_iff.mp h.length_eq
    rw [hnil]
    exact ⟨[], rfl, .nil, nofun⟩
  | succ count ih =>
    cases pauses with
    | nil => cases h.length_eq
    | cons pause pauses =>
      unfold ArePauses at h
      rw [List.range'_succ, List.map_cons, List.map_cons, List.cons.injEq] at h
      obtain ⟨hpause, hrest⟩ := h
      obtain ⟨other, delay, hother, hdelay, hle, hge⟩ :=
        exists_pause (show attempt ≤ 1023 by omega) (hjitter attempt)
      obtain rfl : pause = other := Option.some.inj (hpause.trans hother)
      obtain ⟨delays, hdelays, hordered, hbounds⟩ := ih hrest (by omega)
      refine ⟨delay :: delays, ?_, List.pairwise_cons.mpr ⟨fun next hnext => ?_, hordered⟩, ?_⟩
      · rw [List.map_cons, List.map_cons, hdelay, hdelays]
      · exact hge.trans (hbounds next hnext).1
      · rw [List.forall_mem_cons]
        refine ⟨⟨hle, hge.trans (min_le_right _ _)⟩, fun next hnext => ?_⟩
        obtain ⟨hnextle, hnextge⟩ := hbounds next hnext
        exact ⟨(min_le_min_right 8 (doubled_le_succ attempt)).trans hnextle, hnextge⟩

/-! ## The law -/

/-- Where every reply that is allowed fails for a while, a course with a limit of 1025 or less makes
all its requests and ends with the last failure; with a higher limit it ends behind request 1025
with an overflow. In both cases the pauses never become shorter and none is longer than the longest
one. -/
theorem get_of_transient {configured : Int} (hpositive : 1 ≤ configured) {session : Nat → Reply}
    (h : ∀ number : Nat, number < configured → IsTransient (session number))
    (jitter : Nat → Double) (url : Text) :
    let limit := attemptLimit configured
    let course := get session jitter limit url
    (limit : Int) = configured ∧
    (configured ≤ 1025 → course.requests = limit ∧ course.pauses.length = limit - 1 ∧
      course.result = checked url (session (limit - 1)) ∧
      Reports (session (limit - 1)) course.result) ∧
    (1025 < configured → course.requests = 1025 ∧ course.pauses.length = 1024 ∧
      course.result = .error ⟨.pauseOverflow, pauseTooLarge⟩) ∧
    ((∀ number, IsJitter (jitter number)) →
      ∃ delays : List ℚ, course.pauses.map Double.toRat? = delays.map some ∧
        delays.Pairwise (· ≤ ·) ∧ maxPause.toRat? = some 8 ∧ ∀ delay ∈ delays, delay ≤ 8) := by
  intro limit course
  have hlimit : (limit : Int) = configured := by
    unfold limit attemptLimit
    omega
  have hdelays : ∀ {count pauses}, ArePauses jitter 0 count pauses → count ≤ 1024 →
      (∀ number, IsJitter (jitter number)) →
      ∃ delays : List ℚ, pauses.map Double.toRat? = delays.map some ∧
        delays.Pairwise (· ≤ ·) ∧ maxPause.toRat? = some 8 ∧ ∀ delay ∈ delays, delay ≤ 8 := by
    intro count pauses hpauses hfits hjitter
    obtain ⟨delays, hvalues, hordered, hbounds⟩ := hpauses.exists_delays hjitter (by omega)
    exact ⟨delays, hvalues, hordered, toRat?_maxPause, fun delay hdelay => (hbounds delay hdelay).2⟩
  rcases Int.lt_or_le 1025 configured with hmany | hfew
  · obtain ⟨pauses, entries, hpauses, hcourse⟩ := exists_get_eq_overflow jitter url
      (show 1025 < limit by omega) fun i hi => h i (by omega)
    unfold course
    rw [hcourse]
    refine ⟨hlimit, fun hfew => by omega, fun _ => ?_, hdelays hpauses (by omega)⟩
    exact ⟨rfl, hpauses.length_eq, rfl⟩
  · obtain ⟨pauses, entries, hpauses, hcourse⟩ := exists_get_eq jitter url
      (show limit - 1 < limit by omega) (by omega) (fun i hi => h i (by omega)) (Or.inr (by omega))
    unfold course
    rw [hcourse]
    refine ⟨hlimit, fun _ => ?_, fun hmany => by omega, hdelays hpauses (by omega)⟩
    exact ⟨by dsimp only; omega, hpauses.length_eq, rfl, reports_checked url _⟩

/-- Three requests are refused. The course makes all three, with two pauses between them, and ends
with the last refusal. -/
theorem get_of_transient_refused :
    let refused : Reply := .error ⟨.connection, "refused"⟩
    let course := get (fun _ => refused) (fun _ => .zero false) (attemptLimit 3) "u"
    (1 : Int) ≤ 3 ∧ (∀ number : Nat, (number : Int) < 3 → IsTransient refused) ∧
      IsJitter (.zero false) ∧ course.requests = 3 ∧ course.pauses.length = 2 ∧
      course.result = refused ∧
      ∃ delays : List ℚ, course.pauses.map Double.toRat? = delays.map some ∧
        delays.Pairwise (· ≤ ·) ∧ ∀ delay ∈ delays, delay ≤ 8 := by
  intro refused course
  have hpositive : (1 : Int) ≤ 3 := by decide
  have hrefused : ∀ number : Nat, (number : Int) < 3 → IsTransient refused :=
    fun _ _ => by decide
  have hjitter : IsJitter (.zero false) :=
    ⟨0, by simp [Double.zero, Double.toRat?, Double.signed], le_refl 0, by norm_num⟩
  obtain ⟨-, hends, -, hdelays⟩ :=
    get_of_transient hpositive hrefused (fun _ => .zero false) "u"
  obtain ⟨hrequests, hpauses, hresult, -⟩ := hends (by decide)
  obtain ⟨delays, hvalues, hordered, -, hshort⟩ := hdelays fun _ => hjitter
  exact ⟨hpositive, hrefused, hjitter, hrequests, hpauses, hresult, delays, hvalues, hordered,
    hshort⟩

/-- A configuration may allow 1026 requests. Where each of them would be refused, only 1025 are
made, and what the course ends with is not the last refusal. -/
theorem get_overflows_behind_1025 :
    let refused : Reply := .error ⟨.connection, "refused"⟩
    let course := get (fun _ => refused) (fun _ => .zero false) (attemptLimit 1026) "u"
    (Settings.ofEntries [(.text "log", .mapping [(.text "level", .text "INFO")]),
        (.text "search", .mapping [(.text "fetch_attempts", .int 1026)])]).map
          (·.search.fetchAttempts) = .ok 1026 ∧
      IsTransient refused ∧ course.requests = 1025 ∧ course.pauses.length = 1024 ∧
      course.result = .error ⟨.pauseOverflow, pauseTooLarge⟩ ∧ ¬ Reports refused course.result := by
  intro refused course
  have hrefused : IsTransient refused := by decide
  obtain ⟨pauses, entries, hpauses, hcourse⟩ :=
    exists_get_eq_overflow (fun _ => .zero false) "u" (show 1025 < attemptLimit 1026 by decide)
      fun _ _ => hrefused
  have hresult : course.result = .error ⟨.pauseOverflow, pauseTooLarge⟩ := by
    unfold course
    rw [hcourse]
  refine ⟨by decide +kernel, hrefused, ?_, ?_, hresult, ?_⟩
  · unfold course
    rw [hcourse]
  · unfold course
    rw [hcourse]
    exact hpauses.length_eq
  · rw [hresult]
    unfold refused
    rintro ⟨⟩

end CorpusSearch.Net
