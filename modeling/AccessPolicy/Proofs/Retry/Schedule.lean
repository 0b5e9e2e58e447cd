import AccessPolicy.Proofs.Retry
import Mathlib.Order.Bounds.Basic

/-!
# The schedule of repeated operations

An operation whose outcomes are laid down beforehand, call by call, is called
until one of them is no conflict of a commit, or until the attempts are used up.
Between two calls there is one warning, which shows the number of the attempt
that failed, and how long it is waited.  The number is counted in a word; a loop
that counts so, and has no result if the counter overflows, always has one.
-/

namespace AccessPolicy

variable {ρ α : Type}

theorem toNat_add_one {attempt : UInt32}
    (hword : attempt.toNat + 1 < UInt32.size) :
    (attempt + 1).toNat = attempt.toNat + 1 := by
  rw [UInt32.toNat_add]
  exact Nat.mod_eq_of_lt hword

/-- The number of the next attempt, if it is a word. -/
def nextAttempt? (attempt : UInt32) : Option UInt32 :=
  if attempt.toNat + 1 < UInt32.size then some (attempt + 1) else none

theorem nextAttempt?_of_lt {attempt bound : UInt32} (hlt : attempt < bound) :
    nextAttempt? attempt = some (attempt + 1) := by
  have hbound : bound.toNat < UInt32.size := bound.toNat_lt
  have hbelow : attempt.toNat < bound.toNat := hlt
  rw [nextAttempt?, if_pos (by omega)]

theorem toNat_of_nextAttempt? {attempt next : UInt32}
    (hnext : nextAttempt? attempt = some next) :
    next.toNat = attempt.toNat + 1 := by
  rw [nextAttempt?] at hnext
  split at hnext
  · next hword =>
      cases hnext
      exact toNat_add_one hword
  · cases hnext

/-- Attempts in a loop that counts them in a word.  It has no result if the
counter overflows. -/
def countedFrom (backoff : Backoff) (operation : Action ρ α) (attempt : UInt32)
    (world : World ρ) : Option (Except OperationError α × World ρ) :=
  match operation.run world with
  | (.ok value, later) => some (.ok value, later)
  | (.error error, later) =>
    if _hagain : error.isConflict = true ∧ attempt < backoff.attempts then
      match _hnext : nextAttempt? attempt with
      | none => none
      | some next =>
        countedFrom backoff operation
          next (retrying backoff attempt error later)
    else some (.error error, later)
termination_by backoff.attempts.toNat - attempt.toNat
decreasing_by
  have hcount := toNat_of_nextAttempt? _hnext
  have hbelow : attempt.toNat < backoff.attempts.toNat := _hagain.2
  omega

/-- The loop makes the attempts that are left, and its counter does not
overflow. -/
theorem countedFrom_eq_some (backoff : Backoff) (operation : Action ρ α)
    {left : Nat} {attempt : UInt32}
    (hleft : attempt.toNat + left = backoff.attempts.toNat) (world : World ρ) :
    countedFrom backoff operation attempt world =
      some ((attemptFrom backoff operation left attempt).run world) := by
  induction left generalizing attempt world with
  | zero =>
      have hlast : ¬attempt < backoff.attempts := by
        intro hlt
        have hbelow : attempt.toNat < backoff.attempts.toNat := hlt
        omega
      rw [countedFrom, attemptFrom]
      rcases operation.run world with ⟨error | value, later⟩
      · simp only [hlast, and_false, dite_false]
      · rfl
  | succ left ih =>
      have hlt : attempt < backoff.attempts := by
        change attempt.toNat < backoff.attempts.toNat
        omega
      have hnext := nextAttempt?_of_lt hlt
      have hcount := toNat_of_nextAttempt? hnext
      rw [countedFrom, run_attemptFrom_succ]
      rcases operation.run world with ⟨error | value, later⟩
      · cases hconflict : error.isConflict with
        | false =>
            simp only [hconflict, Bool.false_eq_true, false_and,
              dite_false, if_false]
        | true =>
            simp only [hconflict, hlt, and_self, dite_true, if_true]
            split
            · next hnone =>
                rw [hnext] at hnone
                cases hnone
            · next next hsome =>
                rw [hnext] at hsome
                cases hsome
                rw [ih (by omega)]
                rfl
      · rfl

/-! ## Outcomes that are laid down -/

/-- An outcome that another attempt may follow: a commit met the write
of somebody else. -/
def Contested (outcome : Except OperationError α) : Prop :=
  ∃ resource detail, outcome = .error (.commit resource (.conflict detail))

theorem isRetried_iff {outcome : Except OperationError α} :
    isRetried outcome = true ↔ Contested outcome := by
  cases outcome with
  | ok value =>
      constructor
      · intro hretried
        cases hretried
      · rintro ⟨resource, detail, heq⟩
        cases heq
  | error error =>
      rw [isRetried, OperationError.isConflict_iff, Contested]
      simp only [Except.error.injEq]

/-- The operation that ends at each call as laid down, the calls being counted
from one.  It remembers what it found logged, call by call. -/
def overhearing (outcome : Nat → Except OperationError α) :
    Action (List (List Event)) α :=
  fun world =>
    (outcome (world.remote.length + 1),
      ⟨world.remote ++ [world.log], world.log⟩)

theorem run_overhearing (outcome : Nat → Except OperationError α)
    (world : World (List (List Event))) :
    (overhearing outcome).run world =
      (outcome (world.remote.length + 1),
        ⟨world.remote ++ [world.log], world.log⟩) := rfl

/-- The logs that some calls find if there is one warning between any
two of them. -/
def foundLogs (log warnings : List Event) (calls : Nat) : List (List Event) :=
  (List.range calls).map fun earlier => log ++ warnings.take earlier

theorem foundLogs_succ (log warnings : List Event) (calls : Nat) :
    foundLogs log warnings (calls + 1) =
      foundLogs log warnings calls ++ [log ++ warnings.take calls] := by
  rw [foundLogs, List.range_succ, List.map_append]
  rfl

theorem foundLogs_cons (log rest : List Event) (warning : Event) (calls : Nat) :
    foundLogs log (warning :: rest) (calls + 1) =
      log :: foundLogs (log ++ [warning]) rest calls := by
  rw [foundLogs, List.range_succ_eq_map, List.map_cons, List.map_map,
    List.take_zero, List.append_nil]
  congr 1
  apply List.map_congr_left
  intro earlier _
  simp only [Function.comp_apply, List.take_succ_cons, List.append_assoc,
    List.singleton_append]

/-- The warning behind a call shows the number of the call, the attempts that
there are, how long it is waited, and why the call failed. -/
structure Warns (backoff : Backoff) (outcome : Nat → Except OperationError α)
    (call : Nat) (event : Event) : Prop where
  level : event.level = .warn
  fields : ∃ error, outcome call = .error error ∧
    event.fields =
      [("attempt", .number call),
        ("max_attempts", .number (max backoff.maxAttempts.toNat 1)),
        ("delay_ms", .number (backoff.delayFor (.ofNat call)).toNat),
        ("error", .text error.message)]

theorem warns_retrying {backoff : Backoff}
    {outcome : Nat → Except OperationError α} {error : OperationError}
    {attempt : UInt32} (houtcome : outcome attempt.toNat = .error error) :
    Warns backoff outcome attempt.toNat
      (.retrying attempt backoff.attempts
        (backoff.delayFor attempt) error) where
  level := rfl
  fields := by
    refine ⟨error, houtcome, ?_⟩
    rw [UInt32.ofNat_toNat, ← backoff.toNat_attempts]
    rfl

/-- Some attempts in a row that ended in conflicts: what is logged between them,
and what each of them found logged. -/
theorem Conflicts.overheard {backoff : Backoff}
    {outcome : Nat → Except OperationError α} {attempt : UInt32} {retries : Nat}
    {world last : World (List (List Event))}
    (hconflicts :
      Conflicts backoff (overhearing outcome) attempt retries world last)
    (hattempt : attempt.toNat = world.remote.length + 1)
    (hword : attempt.toNat + retries < UInt32.size) :
    ∃ warnings, warnings.length = retries ∧
      last = ⟨world.remote ++ foundLogs world.log warnings retries,
        world.log ++ warnings⟩ ∧
      ∀ index event, warnings[index]? = some event →
        Contested (outcome (attempt.toNat + index)) ∧
          Warns backoff outcome (attempt.toNat + index) event := by
  induction hconflicts with
  | none =>
      refine ⟨[], rfl, ?_, ?_⟩
      · simp only [foundLogs, List.range_zero, List.map_nil, List.append_nil]
      · rintro index event ⟨⟩
  | @again attempt retries error world failed last hrun hconflict hrest ih =>
      rw [run_overhearing, ← hattempt, Prod.mk.injEq] at hrun
      obtain ⟨houtcome, rfl⟩ := hrun
      have hnext : (attempt + 1).toNat = attempt.toNat + 1 :=
        toNat_add_one (by omega)
      have hcalls : (attempt + 1).toNat =
          (world.remote ++ [world.log]).length + 1 := by
        rw [hnext, hattempt, List.length_append, List.length_singleton]
      -- The rest of the row finds this attempt's warning logged, and one
      -- call more made.
      obtain ⟨rest, hlength, rfl, hlater⟩ := ih hcalls (by omega)
      refine ⟨.retrying attempt backoff.attempts
        (backoff.delayFor attempt) error :: rest,
        by rw [List.length_cons, hlength], ?_, ?_⟩
      · rw [foundLogs_cons]
        simp only [retrying, List.append_assoc, List.singleton_append]
      · intro index event hevent
        cases index with
        | zero =>
            rw [List.getElem?_cons_zero, Option.some.injEq] at hevent
            subst hevent
            refine ⟨?_, warns_retrying houtcome⟩
            rw [← isRetried_iff, Nat.add_zero, houtcome]
            exact hconflict
        | succ index =>
            rw [List.getElem?_cons_succ] at hevent
            have hwarns := hlater index event hevent
            rwa [hnext, Nat.add_assoc, Nat.add_comm 1 index] at hwarns

theorem Backoff.max_attempts_lt (backoff : Backoff) :
    max backoff.maxAttempts.toNat 1 < UInt32.size := by
  rw [← backoff.toNat_attempts]
  exact backoff.attempts.toNat_lt

/-- How the attempts go.  What was laid down for all of them but the last is a
conflict, and they are logged one by one. -/
theorem retryOnConflict_overhearing (backoff : Backoff)
    (outcome : Nat → Except OperationError α) (log : List Event) :
    ∃ retries warnings, warnings.length = retries ∧
      retries < max backoff.maxAttempts.toNat 1 ∧
      (retryOnConflict backoff (overhearing outcome)).run ⟨[], log⟩ =
        (outcome (retries + 1),
          ⟨foundLogs log warnings (retries + 1), log ++ warnings⟩) ∧
      (∀ index event, warnings[index]? = some event →
        Contested (outcome (index + 1)) ∧
          Warns backoff outcome (index + 1) event) ∧
      (Contested (outcome (retries + 1)) →
        retries + 1 = max backoff.maxAttempts.toNat 1) := by
  obtain ⟨retries, last, hretries, hconflicts, hrun, hexhausted⟩ :=
    retryOnConflict_end backoff (overhearing outcome) ⟨[], log⟩
  have hword := backoff.max_attempts_lt
  have hone : (1 : UInt32).toNat = 1 := rfl
  obtain ⟨warnings, hlength, rfl, hwarns⟩ :=
    hconflicts.overheard hone (by rw [hone]; omega)
  have hcalled : (retryOnConflict backoff (overhearing outcome)).run ⟨[], log⟩ =
      (outcome (retries + 1),
        ⟨foundLogs log warnings (retries + 1), log ++ warnings⟩) := by
    rw [hrun, run_overhearing, foundLogs_succ,
      List.take_of_length_le (by omega)]
    simp only [List.nil_append, foundLogs, List.length_map, List.length_range]
  refine ⟨retries, warnings, hlength, hretries, hcalled, ?_, ?_⟩
  · intro index event hevent
    have hcall := hwarns index event hevent
    rwa [hone, Nat.add_comm] at hcall
  · rwa [← hrun, hcalled, isRetried_iff] at hexhausted

/-- An operation is called until its outcome is no conflict of a commit, or
until the attempts are used up, and its last outcome is the result.  Each call
finds one warning more than the call before it, namely that of the call before
it.  What another step than a commit reports is never followed by another call.
All this needs no attempt number that is not a word. -/
theorem retries_on_schedule (backoff : Backoff)
    (outcome : Nat → Except OperationError α) (log : List Event) :
    ∃ calls warnings,
      IsLeast {call | 1 ≤ call ∧
        (¬Contested (outcome call) ∨
          call = max backoff.maxAttempts.toNat 1)} calls ∧
      (retryOnConflict backoff (overhearing outcome)).run ⟨[], log⟩ =
        (outcome calls, ⟨foundLogs log warnings calls, log ++ warnings⟩) ∧
      warnings.length = calls - 1 ∧
      (∀ index event, warnings[index]? = some event →
        Warns backoff outcome (index + 1) event) ∧
      (∀ call cause, 1 ≤ call → call ≤ calls →
        (outcome call = .error (.construction cause) ∨
          ∃ resource,
            outcome call = .error (.fetch resource cause)) → call = calls) ∧
      ∀ {ρ : Type} (operation : Action ρ α) (world : World ρ),
        countedFrom backoff operation 1 world =
          some ((retryOnConflict backoff operation).run world) := by
  obtain ⟨retries, warnings, hlength, hretries, hrun, hwarns, hexhausted⟩ :=
    retryOnConflict_overhearing backoff outcome log
  have hcontested : ∀ call, 1 ≤ call → call < retries + 1 →
      Contested (outcome call) := by
    intro call hpos hcall
    have hindex : call - 1 < warnings.length := by omega
    have hcalls := (hwarns _ _ (List.getElem?_eq_getElem hindex)).1
    rwa [Nat.sub_add_cancel hpos] at hcalls
  refine ⟨retries + 1, warnings, ⟨⟨Nat.succ_pos retries, ?stops⟩, ?least⟩,
    hrun, hlength, fun index event hevent =>
      (hwarns index event hevent).2, ?other, ?counted⟩
  case stops =>
    by_cases hlast : Contested (outcome (retries + 1))
    · exact .inr (hexhausted hlast)
    · exact .inl hlast
  case least =>
    rintro call ⟨hpos, hstops⟩
    apply Nat.le_of_not_lt
    intro hcall
    obtain hfree | hbound := hstops
    · exact hfree (hcontested call hpos hcall)
    · omega
  case other =>
    intro call cause hpos hcall hother
    apply Nat.le_antisymm hcall
    apply Nat.le_of_not_lt
    intro hearlier
    obtain ⟨resource, detail, hcommit⟩ := hcontested call hpos hearlier
    obtain hconstruction | ⟨_, hfetch⟩ := hother
    · rw [hcommit] at hconstruction
      cases hconstruction
    · rw [hcommit] at hfetch
      cases hfetch
  case counted =>
    intro ρ operation world
    apply countedFrom_eq_some
    have hpos : 1 ≤ backoff.attempts.toNat := by
      rw [backoff.toNat_attempts]
      exact Nat.le_max_right _ 1
    exact Nat.add_sub_cancel' hpos

/-- A commit that meets the write of somebody else, and a fetch that reports a
conflict after it. -/
def refetched (call : Nat) : Except OperationError Nat :=
  if call = 1 then .error (.commit "demo" (.conflict "stale"))
  else .error (.fetch "demo" (.conflict "stale"))

theorem retries_on_schedule_refetched :
    ∃ warning, Warns {} refetched 1 warning ∧
      (retryOnConflict {} (overhearing refetched)).run ⟨[], []⟩ =
        (.error (.fetch "demo" (.conflict "stale")),
          ⟨[[], [warning]], [warning]⟩) := by
  obtain ⟨calls, warnings, ⟨⟨hpos, hstops⟩, -⟩, hrun, hlength, hwarns,
    hother, -⟩ :=
    retries_on_schedule {} refetched []
  have hagain : calls ≠ 1 := by
    rintro rfl
    obtain hfree | hbound := hstops
    · exact hfree ⟨"demo", "stale", rfl⟩
    · exact absurd hbound (by decide)
  obtain rfl : 2 = calls :=
    hother 2 (.conflict "stale") (by decide) (by omega) (.inr ⟨"demo", rfl⟩)
  obtain ⟨warning, rfl⟩ := List.length_eq_one_iff.1 hlength
  exact ⟨warning, hwarns 0 warning rfl, hrun⟩

end AccessPolicy
