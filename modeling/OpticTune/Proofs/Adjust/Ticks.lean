import OpticTune.Proofs.Adjust.Reachable
import OpticTune.Proofs.Solver.Iteration

namespace OpticTune.Adjust

open Act (Returns)
open Optics
open Solver (Fault Fit Host Measured Status)

/-! How many ticks an adjustment takes, and how it ends.

A tick that finds an adjustment unfinished does one piece of work: it iterates or,
at the cap, ends the adjustment without iterating. What has been done so far says
how often the solver was called and how the adjustment stands.
-/

/-- What a tick does that finds the adjustment unfinished. -/
inductive Work where
  | iteration (status : Status)
  | cap
deriving DecidableEq

namespace Work

def status : Work → Status
  | iteration status => status
  | cap => .max

def iterates : Work → Bool
  | iteration _ => true
  | cap => false

end Work

/-- How an adjustment with the given cap can have ended, by the work done so far. -/
inductive History (cap : ℕ) : List Work → Option Status → Prop where
  | running (done : ℕ) : done < cap → History cap (List.replicate done (.iteration .down)) none
  | settled (done : ℕ) (status : Status) : done + 1 < cap → status.isTerminal = true →
      status ≠ .max →
      History cap (List.replicate done (.iteration .down) ++ [.iteration status]) (some status)
  | capped : History cap (List.replicate (cap - 1) (.iteration .down) ++ [.cap]) (some .max)

namespace History

variable {cap : ℕ} {works : List Work} {ending : Option Status}

theorem running_eq (history : History cap works none) :
    works = List.replicate works.length (.iteration .down) ∧ works.length < cap := by
  cases history with
  | running done room => simpa using room

theorem length_le (history : History cap works ending) (positive : 1 ≤ cap) :
    works.length ≤ cap := by
  cases history with
  | running done room => simpa using room.le
  | settled done status room => simpa using room.le
  | capped => simp; omega

theorem ending_eq_max (history : History cap works ending) :
    ending = some .max ↔ works = List.replicate (cap - 1) (.iteration .down) ++ [.cap] := by
  cases history with
  | running done room =>
      constructor
      · exact nofun
      · intro same
        have member : Work.cap ∈ List.replicate done (Work.iteration .down) := by simp [same]
        exact nomatch List.eq_of_mem_replicate member
  | settled done status room terminal uncapped =>
      constructor
      · exact fun same => absurd (Option.some.inj same) uncapped
      · intro same
        exact nomatch (List.append_inj_right' same rfl)
  | capped => simp

/-- Every tick but the one at the cap iterates. -/
theorem countP_iterates (history : History cap works ending) :
    works.countP Work.iterates = if ending = some .max then cap - 1 else works.length := by
  have iterations (done : ℕ) :
      (List.replicate done (Work.iteration .down)).countP Work.iterates = done := by
    simp [List.countP_replicate, Work.iterates]
  cases history with
  | running done room => simp [iterations]
  | settled done status room terminal uncapped =>
      simp [iterations, List.countP_append, Work.iterates, uncapped]
  | capped => simp [iterations, List.countP_append, Work.iterates]

theorem earlier (history : History cap works ending) :
    ∀ work ∈ works.dropLast, work = .iteration .down := by
  intro work member
  cases history with
  | running done room => exact List.eq_of_mem_replicate (List.mem_of_mem_dropLast member)
  | settled | capped =>
      rw [List.dropLast_concat] at member
      exact List.eq_of_mem_replicate member

theorem last {status : Status} (history : History cap works (some status)) :
    ∀ work ∈ works.getLast?, work.status = status := by
  intro work member
  cases history with
  | settled | capped =>
      rw [List.getLast?_concat] at member
      cases member
      rfl

theorem iterate (history : History cap works none) (below : works.length + 1 < cap)
    {status : Status} (uncapped : status ≠ .max) :
    History cap (works ++ [.iteration status]) ((some status).filter Status.isTerminal) := by
  obtain ⟨same, room⟩ := history.running_eq
  rw [same]
  cases terminal : status.isTerminal with
  | true =>
      rw [Option.filter_some_pos terminal]
      exact settled _ status below terminal uncapped
  | false =>
      have down : status = .down := by
        cases status with
        | down => rfl
        | level | max | bad => contradiction
      rw [down, Option.filter_some_neg (by decide), ← List.replicate_succ']
      exact running _ below

theorem reachCap (history : History cap works none) (reached : cap ≤ works.length + 1) :
    History cap (works ++ [.cap]) (some .max) := by
  obtain ⟨same, room⟩ := history.running_eq
  have last : works.length = cap - 1 := by omega
  rw [same, last]
  exact capped

end History

variable {α τ : Type} {S R : ℕ} {plan : Plan α}

/-- The reports of a run that ends with the status, after so many ticks before. -/
structure Reports (before : ℕ) (status : Status) (reports : List (Progress α)) : Prop where
  iterations : reports.map Progress.iteration = List.range' (before + 1) reports.length
  earlier : ∀ report ∈ reports.dropLast, report.status = some .down
  last : ∀ report ∈ reports.getLast?, report.status = some status

theorem Reports.of_history {cap before : ℕ} {works more : List Work}
    {reports : List (Progress α)} {status : Status}
    (history : History cap (works ++ more) (some status))
    (iterations : reports.map Progress.iteration = List.range' (before + 1) more.length)
    (statuses : reports.map Progress.status = more.map fun work => some work.status) :
    Reports before status reports := by
  have length : reports.length = more.length := by simpa using congrArg List.length statuses
  refine ⟨length ▸ iterations, ?_, ?_⟩
  · intro report member
    have shown : report.status ∈ more.dropLast.map fun work => some work.status := by
      rw [List.map_dropLast, ← statuses, ← List.map_dropLast]
      exact List.mem_map_of_mem member
    obtain ⟨work, done, same⟩ := List.mem_map.mp shown
    have before : work ∈ (works ++ more).dropLast := by
      rw [List.dropLast_append_of_ne_nil (List.ne_nil_of_mem (List.mem_of_mem_dropLast done))]
      exact List.mem_append_right _ done
    rw [← same, history.earlier work before]
    rfl
  · intro report member
    have shown : (more.map fun work => some work.status).getLast? = some report.status := by
      rw [← statuses, List.getLast?_map, Option.mem_def.mp member]
      rfl
    rw [List.getLast?_map, Option.map_eq_some_iff] at shown
    obtain ⟨work, done, same⟩ := shown
    rw [← same, history.last work (by simp [List.getLast?_append, done])]

namespace Session

theorem ending_eq_some {session : Session α τ S R plan} {status : Status} :
    session.ending = some status ↔ session.status = some status ∧ status.isTerminal = true :=
  Option.filter_eq_some_iff

theorem complete_eq_true {session : Session α τ S R plan} :
    session.complete = true ↔ ∃ status, session.ending = some status :=
  Option.isSome_iff_exists

variable [Scalar α]

section Works

variable (tracer : Tracer α τ S R) (builder : ResidualBuilder α τ S R)

/-- One tick of an unfinished session. -/
inductive Worked : Session α τ S R plan → Work → Session α τ S R plan → Prop where
  | iterates {session solver fit status} : session.ending = none →
      ¬ plan.options.maxIterations ≤ (session.iteration + 1 : ℕ) →
      Returns (Fit.iterate (plan.host tracer builder) plan.config) session.fit (solver, status)
        fit →
      Worked session (.iteration status) (reported builder
        { session with fit, iteration := session.iteration + 1, status := some status })
  | caps {session} : session.ending = none →
      plan.options.maxIterations ≤ (session.iteration + 1 : ℕ) →
      Worked session .cap (reported builder
        { session with iteration := session.iteration + 1, status := some .max })

/-- What the ticks do that find the session unfinished, the earliest first. -/
inductive Works (start : Session α τ S R plan) : List Work → Session α τ S R plan → Prop where
  | rests : Works start [] start
  | ticks {works session work next} : Works start works session →
      Worked tracer builder session work next → Works start (works ++ [work]) next

end Works

variable {tracer : Tracer α τ S R} {builder : ResidualBuilder α τ S R}
  {start session next final : Session α τ S R plan} {works more : List Work} {work : Work}

theorem Worked.ending (worked : Worked tracer builder session work next) :
    session.ending = none := by
  cases worked with
  | iterates ending | caps ending => exact ending

theorem Worked.status (worked : Worked tracer builder session work next) :
    next.status = some work.status := by
  cases worked with
  | iterates | caps => rfl

theorem Worked.iteration (worked : Worked tracer builder session work next) :
    next.iteration = session.iteration + 1 := by
  cases worked with
  | iterates | caps => rfl

/-- A tick of an unfinished session returns with what it did. -/
theorem Worked.returns (worked : Worked tracer builder session work next) :
    Returns (tick tracer builder) session work.status next := by
  rw [tick, returns_tickOn, worked.ending]
  cases worked with
  | iterates ending below iterated =>
      simp only [below, ↓reduceIte]
      exact ⟨_, _, iterated, rfl⟩
  | caps ending reached =>
      simp only [reached, ↓reduceIte]
      exact ⟨rfl, trivial⟩

theorem Works.append (worked : Works tracer builder start works session)
    (further : Works tracer builder session more final) :
    Works tracer builder start (works ++ more) final := by
  induction further with
  | rests =>
      rw [List.append_nil]
      exact worked
  | ticks _ ticked ih =>
      rw [← List.append_assoc]
      exact .ticks ih ticked

/-- Every tick counted here is one, and no other tick comes between. -/
theorem Works.after (worked : Works tracer builder start works final) :
    final = start.after tracer builder works.length := by
  induction worked with
  | rests => rfl
  | ticks _ ticked ih =>
      rw [List.length_append, List.length_singleton, Session.after, ← ih]
      exact ticked.returns.2.symm

/-- The counters and the status, by the work done so far. -/
structure Tallied (cap : ℕ) (works : List Work) (session : Session α τ S R plan) : Prop where
  iteration : session.iteration = works.length
  outer : session.fit.solver.outer = works.countP Work.iterates
  history : History cap works session.ending

section Tally

variable {cap : ℕ} (capIs : plan.options.maxIterations = cap)

include capIs

theorem Tallied.ticks (tallied : session.Tallied cap works)
    (worked : Worked tracer builder session work next) : next.Tallied cap (works ++ [work]) := by
  have running : History cap works none := worked.ending ▸ tallied.history
  cases worked with
  | iterates ending below iterated =>
      obtain ⟨after, returned, rfl⟩ := Fit.returns_iterate.mp iterated
      obtain ⟨outer, uncapped⟩ := Solver.outer_of_returns_iterate returned
      have counted : session.iteration + 1 < cap := by
        rw [capIs] at below
        omega
      constructor
      · change session.iteration + 1 = _
        rw [tallied.iteration, List.length_append, List.length_singleton]
      · refine outer.trans ?_
        rw [tallied.outer, List.countP_append]
        rfl
      · exact running.iterate (tallied.iteration ▸ counted) uncapped
  | caps ending reached =>
      have counted : cap ≤ session.iteration + 1 := by
        rw [capIs] at reached
        exact_mod_cast reached
      constructor
      · change session.iteration + 1 = _
        rw [tallied.iteration, List.length_append, List.length_singleton]
      · change session.fit.solver.outer = _
        rw [tallied.outer, List.countP_append]
        rfl
      · exact running.reachCap (tallied.iteration ▸ counted)

theorem Works.tallied (worked : Works tracer builder start works final)
    (begun : start.Tallied cap []) : final.Tallied cap works := by
  induction worked with
  | rests => exact begun
  | ticks _ ticked ih => exact ih.ticks capIs ticked

end Tally

/-- What is asked of a session from outside. -/
inductive Command where
  | tick
  | run
deriving DecidableEq

/-- Answers with the status, and with the progress a run reports. -/
def Command.perform (tracer : Tracer α τ S R) (builder : ResidualBuilder α τ S R) :
    Command → ExceptT Fault (Act α (Session α τ S R plan)) (Option Status × List (Progress α))
  | tick => return (some (← Session.tick tracer builder), [])
  | run => Session.run tracer builder

/-- Whatever is asked of the session, it answers with the status, stays as it is and
reports nothing, whichever tracer and builder there are to ask. -/
def Settled (session : Session α τ S R plan) (status : Status) : Prop :=
  ∀ (tracer : Tracer α τ S R) (builder : ResidualBuilder α τ S R) (command : Command),
    (command.perform tracer builder).run session =
      { value := .ok (some status, []), state := session, log := [] }

theorem settled {status : Status} (ended : session.ending = some status) :
    session.Settled status := by
  intro tracer builder command
  have found : session.status = some status := (ending_eq_some.mp ended).1
  cases command with
  | tick =>
      have ticked : (tick tracer builder).run session =
          { value := .ok status, state := session, log := [] } := by
        rw [tick, tickOn, Act.run_get_bind, ended]
        rfl
      rw [Command.perform, Act.run_bind_of_silent ticked]
      rfl
  | run =>
      have complete : session.complete = true := complete_eq_true.mpr ⟨status, ended⟩
      have stays : (runWithinOn (plan.host tracer builder) builder
          (plan.options.maxIterations.toNat + 1)).run session =
            { value := .ok [], state := session, log := [] } := by
        rw [runWithinOn, Act.run_get_bind, if_pos complete]
        rfl
      rw [Command.perform, Session.run, runOn, Act.run_bind_of_silent stays, Act.run_get_bind,
        found]
      rfl

section Host

variable {host : Host α (Measured α (Store α τ S R) plan.pointCount plan.adjustableCount)}

theorem returns_runWithinOn_succ {fuel : ℕ} {reports : List (Progress α)} :
    Returns (runWithinOn host builder (fuel + 1)) session reports final ↔
      if session.complete then reports = [] ∧ final = session
      else ∃ status next rest, Returns (tickOn host builder) session status next ∧
        Returns (runWithinOn host builder fuel) next rest final ∧
        reports = next.progress :: rest := by
  rw [runWithinOn, Act.returns_get_bind]
  split
  · exact Act.returns_pure
  · simp only [Act.returns_bind, Act.returns_discard, Act.returns_get, Act.returns_pure]
    constructor
    · rintro ⟨_, _, ⟨status, ticked⟩, _, next, ⟨rfl, rfl⟩, rest, _, returned, rfl, rfl⟩
      exact ⟨status, _, rest, ticked, returned, rfl⟩
    · rintro ⟨status, next, rest, ticked, returned, rfl⟩
      exact ⟨(), next, ⟨status, ticked⟩, next, next, ⟨rfl, rfl⟩, rest, final, returned, rfl, rfl⟩

theorem returns_runOn {reports : List (Progress α)} {found : Option Status} :
    Returns (runOn host builder) session (found, reports) final ↔
      Returns (runWithinOn host builder (plan.options.maxIterations.toNat + 1)) session reports
        final ∧ found = final.status := by
  simp only [runOn, Act.returns_bind, Act.returns_get, Act.returns_pure]
  constructor
  · rintro ⟨_, _, returned, _, _, ⟨rfl, rfl⟩, same, rfl⟩
    cases same
    exact ⟨returned, rfl⟩
  · rintro ⟨returned, rfl⟩
    exact ⟨reports, final, returned, final, final, ⟨rfl, rfl⟩, rfl, rfl⟩

end Host

/-- Every iteration that is called for returns. -/
def IterationsReturn (tracer : Tracer α τ S R) (builder : ResidualBuilder α τ S R)
    (start : Session α τ S R plan) : Prop :=
  ∀ ⦃works session⦄, Works tracer builder start works session → session.ending = none →
    ¬ plan.options.maxIterations ≤ (session.iteration + 1 : ℕ) →
    ∃ answer fit,
      Returns (Fit.iterate (plan.host tracer builder) plan.config) session.fit answer fit

section Run

variable {cap : ℕ} (capIs : plan.options.maxIterations = cap) (begun : start.Tallied cap [])
  (returning : IterationsReturn tracer builder start)

include returning

theorem exists_worked (worked : Works tracer builder start works session)
    (running : session.ending = none) : ∃ work next, Worked tracer builder session work next := by
  by_cases reached : plan.options.maxIterations ≤ (session.iteration + 1 : ℕ)
  · exact ⟨_, _, .caps running reached⟩
  · obtain ⟨⟨solver, status⟩, fit, returned⟩ := returning worked running reached
    exact ⟨_, _, .iterates running reached returned⟩

include capIs begun

theorem exists_runWithin (fuel : ℕ) (worked : Works tracer builder start works session)
    (enough : session.ending = none → cap ≤ works.length + fuel) :
    ∃ reports final more status, Returns (runWithin tracer builder fuel) session reports final ∧
      Works tracer builder session more final ∧ final.ending = some status ∧
      reports.map Progress.iteration = List.range' (session.iteration + 1) more.length ∧
      reports.map Progress.status = more.map fun work => some work.status := by
  induction fuel generalizing session works with
  | zero =>
      cases ended : session.ending with
      | some status =>
          exact ⟨[], session, [], status, Act.returns_pure.mpr ⟨rfl, rfl⟩, .rests, ended, rfl, rfl⟩
      | none =>
          have room := (ended ▸ (worked.tallied capIs begun).history).running_eq.2
          exact absurd (enough ended) (by omega)
  | succ fuel ih =>
      cases ended : session.ending with
      | some status =>
          refine ⟨[], session, [], status, ?_, .rests, ended, rfl, rfl⟩
          rw [runWithin, returns_runWithinOn_succ, if_pos (complete_eq_true.mpr ⟨status, ended⟩)]
          exact ⟨rfl, rfl⟩
      | none =>
          obtain ⟨work, next, ticked⟩ := exists_worked returning worked ended
          obtain ⟨rest, final, more, status, returned, further, ends, iterations, statuses⟩ :=
            ih (worked.ticks ticked) (by
              intro _
              have := enough ended
              rw [List.length_append, List.length_singleton]
              omega)
          have running : ¬ session.complete = true := by simp [complete_eq_true, ended]
          refine ⟨next.progress :: rest, final, work :: more, status, ?_, ?_, ends, ?_, ?_⟩
          · rw [runWithin, returns_runWithinOn_succ, if_neg running]
            exact ⟨_, next, rest, ticked.returns, returned, rfl⟩
          · exact Works.append (.ticks .rests ticked) further
          · rw [List.map_cons, iterations, ticked.iteration, List.length_cons, List.range'_succ]
            exact congrArg (· :: _) ticked.iteration
          · rw [List.map_cons, statuses, List.map_cons]
            exact congrArg (· :: _) ticked.status

/-- Every command returns, and does some work or none. -/
theorem exists_perform (command : Command) (worked : Works tracer builder start works session) :
    ∃ answer more final, Returns (command.perform tracer builder) session answer final ∧
      Works tracer builder session more final := by
  cases command with
  | tick =>
      cases ended : session.ending with
      | some status =>
          have stays : Returns (tick tracer builder) session status session := by
            rw [tick, returns_tickOn, ended]
            exact ⟨rfl, rfl⟩
          exact ⟨_, [], session,
            Act.returns_bind.mpr ⟨_, _, stays, Act.returns_pure.mpr ⟨rfl, rfl⟩⟩, .rests⟩
      | none =>
          obtain ⟨work, next, ticked⟩ := exists_worked returning worked ended
          exact ⟨_, [work], next,
            Act.returns_bind.mpr ⟨_, _, ticked.returns, Act.returns_pure.mpr ⟨rfl, rfl⟩⟩,
            .ticks .rests ticked⟩
  | run =>
      obtain ⟨reports, final, more, status, returned, further, _⟩ :=
        exists_runWithin capIs begun returning (plan.options.maxIterations.toNat + 1) worked
          (by omega)
      exact ⟨_, more, final, returns_runOn.mpr ⟨returned, rfl⟩, further⟩

theorem exists_performAll (commands : List Command)
    (worked : Works tracer builder start works session) :
    ∃ answers more final,
      Returns (commands.mapM (Command.perform tracer builder)) session answers final ∧
        Works tracer builder session more final := by
  induction commands generalizing session works with
  | nil => exact ⟨[], [], session, Act.returns_pure.mpr ⟨rfl, rfl⟩, .rests⟩
  | cons command rest ih =>
      obtain ⟨answer, first, middle, performed, done⟩ :=
        exists_perform capIs begun returning command worked
      obtain ⟨answers, more, final, returned, further⟩ := ih (worked.append done)
      refine ⟨answer :: answers, first ++ more, final, ?_, done.append further⟩
      rw [List.mapM_cons]
      exact Act.returns_bind.mpr ⟨_, _, performed, Act.returns_bind.mpr ⟨_, _, returned,
        Act.returns_pure.mpr ⟨rfl, rfl⟩⟩⟩

end Run

/-- Whatever ticks and runs are asked for, an adjustment counts the ticks that did
work and never more than its cap; the solver was called at each of them except the
one at the cap, and every tick before the last was an improvement. One that has
ended stays as it is, and a run ends every other. -/
theorem commands_accounted (plan : Plan α) (world : World α τ S R) (rms : α) {cap : ℕ}
    (capIs : plan.options.maxIterations = cap) (positive : 1 ≤ cap)
    (returning : IterationsReturn tracer builder (Session.start plan world rms))
    (commands : List Command) :
    ∃ answers works final,
      Returns (commands.mapM (Command.perform tracer builder)) (Session.start plan world rms)
        answers final ∧
      Works tracer builder (Session.start plan world rms) works final ∧
      final = (Session.start plan world rms).after tracer builder works.length ∧
      final.iteration = works.length ∧ works.length ≤ cap ∧
      works.countP Work.iterates = (if final.status = some .max then cap - 1 else final.iteration) ∧
      final.fit.solver.outer = works.countP Work.iterates ∧
      (final.status = some .max ↔
        works = List.replicate (cap - 1) (.iteration .down) ++ [.cap]) ∧
      (∀ status, final.ending = some status → final.Settled status) ∧
      ∃ status reports more last,
        Returns (run tracer builder) final (some status, reports) last ∧
        status.isTerminal = true ∧ Works tracer builder final more last ∧
        works.length + more.length ≤ cap ∧ reports.length = more.length ∧
        Reports final.iteration status reports := by
  have begun : (Session.start plan world rms).Tallied cap [] :=
    ⟨rfl, rfl, .running 0 (by omega)⟩
  obtain ⟨answers, works, final, returned, worked⟩ :=
    exists_performAll capIs begun returning commands .rests
  have tallied := worked.tallied capIs begun
  have atCap : final.status = some .max ↔ final.ending = some .max := by
    rw [ending_eq_some, and_iff_left (by decide)]
  obtain ⟨reports, last, more, status, ran, further, ended, iterations, statuses⟩ :=
    exists_runWithin capIs begun returning (plan.options.maxIterations.toNat + 1) worked (by omega)
  have whole := ((worked.append further).tallied capIs begun).history
  have found := ending_eq_some.mp ended
  have length : reports.length = more.length := by simpa using congrArg List.length statuses
  refine ⟨answers, works, final, returned, worked, worked.after, tallied.iteration,
    tallied.history.length_le positive, ?_, tallied.outer, ?_, fun _ => settled, status, reports,
    more, last, returns_runOn.mpr ⟨ran, found.1.symm⟩, found.2, further, ?_, length, ?_⟩
  · rw [tallied.history.countP_iterates, tallied.iteration]
    simp only [atCap]
  · rw [atCap]
    exact tallied.history.ending_eq_max
  · rw [← List.length_append]
    exact (ended ▸ whole).length_le positive
  · exact .of_history (ended ▸ whole) iterations statuses

/-- On a dependable bench every iteration returns. -/
theorem iterationsReturn {tracer : Tracer ℚ τ S R} {builder : ResidualBuilder ℚ τ S R}
    {plan : Plan ℚ} {start : Session ℚ τ S R plan} {base : OpticalSystem ℚ S R}
    {sound : τ → Prop}
    (dependable : Dependable tracer builder plan.goodCount plan.pointCount sound)
    (accepted : plan.config.Accepted plan.pointCount plan.adjustableCount)
    (standing : start.Stands base sound 0) : IterationsReturn tracer builder start := by
  intro works session worked running below
  have stands := standing.after dependable accepted works.length
  rw [← worked.after] at stands
  obtain ⟨status, final, ticked, _⟩ := exists_tick dependable accepted stands
  rw [tick, returns_tickOn, running] at ticked
  simp only [below, ↓reduceIte] at ticked
  obtain ⟨solver, fit, returned, _⟩ := ticked
  exact ⟨(solver, status), fit, returned⟩

theorem commands_accounted_edge :
    ∃ planned rms ready, Returns (edgePlan []) (edgeWorld (S := 1) 1) (planned, rms) ready ∧
      ∃ answers works final,
        Returns ([Command.tick, .run, .tick].mapM (Command.perform edgeTracer edge.builder))
          (Session.start planned ready rms) answers final ∧
        Works edgeTracer edge.builder (Session.start planned ready rms) works final ∧
        final.iteration = works.length ∧ works.length ≤ 100 := by
  obtain ⟨⟨planned, rms⟩, ready, returned⟩ : ∃ answer after,
      Returns (edgePlan []) (edgeWorld (S := 1) 1) answer after :=
    Act.exists_returns (by decide +kernel)
  let planar := axial
  obtain ⟨_, counted, dependable, seen, _⟩ := edge_answers.planned returned
  have begun : (Session.start planned ready rms).Stands (edgeWorld 1).system
      (fun bench => (id bench).good = edge.traces (edgeWorld 1).system) 0 :=
    Session.stands_start returned (congrArg Seen.good seen)
  have capIs : planned.options.maxIterations = (100 : ℕ) := by
    obtain ⟨_, _, _, _, _, _, _, _, _, _, _, rfl, _⟩ := returns_plan.mp returned
    rfl
  obtain ⟨answers, works, final, performed, worked, _, iteration, bounded, _⟩ :=
    commands_accounted planned ready rms capIs (by decide)
      (iterationsReturn dependable (accepted_of_returns_plan returned counted) begun)
      [.tick, .run, .tick]
  exact ⟨planned, rms, ready, returned, answers, works, final, performed, worked, iteration,
    bounded⟩

end Session

end OpticTune.Adjust
