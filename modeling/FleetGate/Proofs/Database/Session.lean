import FleetGate.Database.Session
import Mathlib.Tactic.Common

/-!
# What a session does in the end

A course of steps is put together from smaller ones, and what is said of it here follows from what
is said of the parts: which steps were taken, in which order, and that the ending is the last thing
that was raised (`Session.Course.Reports`). `Session.run_ends` says all this for a session, whatever
its body and its calls do.
-/

namespace FleetGate

namespace Session

variable {ε : Type}

namespace Ending

@[simp]
theorem replacedBy_eq_normal_iff {earlier later : Ending ε} :
    earlier.replacedBy later = .normal ↔ earlier = .normal ∧ later = .normal := by
  cases later <;> simp [replacedBy]

/-- What was raised last, or a normal ending if nothing was. -/
def last (raised : List (Ending ε)) : Ending ε :=
  raised.getLast?.getD .normal

theorem last_append {earlier later : List (Ending ε)} (isRaised : .normal ∉ later) :
    last (earlier ++ later) = (last earlier).replacedBy (last later) := by
  rcases List.eq_nil_or_concat later with rfl | ⟨front, final, rfl⟩
  · simp [last, replacedBy]
  · have notNormal : final ≠ .normal := by
      rintro rfl
      simp at isRaised
    cases final with
    | normal => exact absurd rfl notNormal
    | _ => simp [last, replacedBy]

end Ending

namespace Course

variable {course next handler final : Course ε} {event : Event ε} {raised : Option ε}

@[simp]
theorem events_step (event : Event ε) (ending : Ending ε) : (step event ending).events = [event] :=
  rfl

@[simp]
theorem ending_step (event : Event ε) (ending : Ending ε) : (step event ending).ending = ending :=
  rfl

@[simp]
theorem events_call (event : Event ε) (raised : Option ε) :
    (call event raised).events = [event] := by
  cases raised <;> rfl

@[simp]
theorem ending_call_eq_normal_iff : (call event raised).ending = .normal ↔ raised = none := by
  cases raised <;> simp [call]

@[simp]
theorem exists_ending_call_eq_error_iff :
    (∃ error, (call event raised).ending = .error error) ↔ raised ≠ none := by
  cases raised <;> simp [call]

/-! ## Which steps are taken -/

@[simp]
theorem mem_events_andThen :
    event ∈ (course.andThen next).events ↔
      event ∈ course.events ∨ course.ending = .normal ∧ event ∈ next.events := by
  unfold andThen
  split <;> simp_all

@[simp]
theorem ending_andThen_eq_normal_iff :
    (course.andThen next).ending = .normal ↔ course.ending = .normal ∧ next.ending = .normal := by
  unfold andThen
  split <;> simp_all

@[simp]
theorem exists_ending_andThen_eq_error_iff :
    (∃ error, (course.andThen next).ending = .error error) ↔
      (∃ error, course.ending = .error error) ∨
        course.ending = .normal ∧ ∃ error, next.ending = .error error := by
  unfold andThen
  split <;> simp_all

@[simp]
theorem mem_events_onError :
    event ∈ (course.onError handler).events ↔
      event ∈ course.events ∨
        (∃ error, course.ending = .error error) ∧ event ∈ handler.events := by
  unfold onError
  split <;> simp_all

@[simp]
theorem ending_onError_eq_normal_iff :
    (course.onError handler).ending = .normal ↔ course.ending = .normal := by
  unfold onError
  split <;> simp_all

@[simp]
theorem mem_events_lastly :
    event ∈ (course.lastly final).events ↔ event ∈ course.events ∨ event ∈ final.events :=
  List.mem_append

@[simp]
theorem ending_lastly_eq_normal_iff :
    (course.lastly final).ending = .normal ↔ course.ending = .normal ∧ final.ending = .normal :=
  Ending.replacedBy_eq_normal_iff

@[simp]
theorem ending_inside (course : Course ε) : course.inside.ending = course.ending := rfl

theorem getLast?_inside (course : Course ε) :
    course.inside.events.getLast? = some (.exit course.ending) := by
  rw [inside, List.getLast?_append]
  rfl

@[simp]
theorem mem_events_inside :
    event ∈ course.inside.events ↔
      event = .enter ∨ event ∈ course.events ∨ event = .exit course.ending := by
  simp [inside]

/-! ## The order of the steps -/

variable {steps more : List (Event ε)}

theorem step_sublist (event : Event ε) (ending : Ending ε) :
    (step event ending).events.Sublist [event] :=
  List.Sublist.refl _

theorem call_sublist (event : Event ε) (raised : Option ε) :
    (call event raised).events.Sublist [event] := by
  cases raised <;> exact step_sublist event _

theorem andThen_sublist (first : course.events.Sublist steps) (second : next.events.Sublist more) :
    (course.andThen next).events.Sublist (steps ++ more) := by
  unfold andThen
  split
  · exact first.append second
  · exact first.trans (List.sublist_append_left steps more)

theorem onError_sublist (first : course.events.Sublist steps)
    (second : handler.events.Sublist more) :
    (course.onError handler).events.Sublist (steps ++ more) := by
  unfold onError
  split
  · exact first.append second
  · exact first.trans (List.sublist_append_left steps more)

theorem lastly_sublist (first : course.events.Sublist steps) (second : final.events.Sublist more) :
    (course.lastly final).events.Sublist (steps ++ more) :=
  first.append second

theorem inside_sublist (first : course.events.Sublist steps) :
    course.inside.events.Sublist (.enter :: steps ++ [.exit course.ending]) := by
  rw [inside]
  exact (first.cons_cons .enter).append (List.Sublist.refl [.exit course.ending])

/-! ## What was raised last -/

/-- The ending is the last of what the steps raised. -/
def Reports (raises : Event ε → Option (Ending ε)) (course : Course ε) : Prop :=
  course.ending = .last (course.events.filterMap raises)

variable {raises : Event ε → Option (Ending ε)}

theorem Reports.inside (within : course.Reports raises) (silent : raises .enter = none)
    (leaving : raises (.exit course.ending) = none) : course.inside.Reports raises := by
  rw [Reports] at within ⊢
  simp [Course.inside, silent, leaving, ← within]

section

variable (isRaised : ∀ event, raises event ≠ some .normal)

include isRaised

theorem normal_notMem_filterMap (events : List (Event ε)) : .normal ∉ events.filterMap raises := by
  intro listed
  rcases List.mem_filterMap.1 listed with ⟨event, _, found⟩
  exact isRaised event found

theorem Reports.lastly (first : course.Reports raises) (second : final.Reports raises) :
    (course.lastly final).Reports raises := by
  rw [Reports] at first second ⊢
  rw [Course.lastly, List.filterMap_append, Ending.last_append (normal_notMem_filterMap isRaised _),
    first, second]

theorem Reports.andThen (first : course.Reports raises) (second : next.Reports raises) :
    (course.andThen next).Reports raises := by
  unfold Course.andThen
  split
  · rename_i normal
    rw [Reports] at first second ⊢
    rw [List.filterMap_append, Ending.last_append (normal_notMem_filterMap isRaised _), ← first,
      ← second, normal]
    cases next.ending <;> rfl
  · exact first

theorem Reports.onError (first : course.Reports raises) (second : handler.Reports raises) :
    (course.onError handler).Reports raises := by
  unfold Course.onError
  split
  · exact Reports.lastly isRaised first second
  · exact first

end

end Course

/-! ## Sessions -/

variable {behaviour : Behaviour ε} {body : Ending ε}

/-- What a step of a session raises. -/
def raisedBy (behaviour : Behaviour ε) (body : Ending ε) : Event ε → Option (Ending ε)
  | .body =>
    match body with
    | .normal => none
    | raised => some raised
  | .commit => behaviour.commit.map .error
  | .rollback => behaviour.rollback.map .error
  | .close => behaviour.close.map .error
  | .enter | .exit _ => none

theorem raisedBy_ne_normal (event : Event ε) : raisedBy behaviour body event ≠ some .normal := by
  cases event with
  | body => cases body <;> simp [raisedBy]
  | _ => simp [raisedBy]

theorem reports_body : (Course.step .body body).Reports (raisedBy behaviour body) := by
  cases body <;> rfl

theorem reports_call {raised : Option ε} (event : Event ε)
    (own : raisedBy behaviour body event = raised.map .error) :
    (Course.call event raised).Reports (raisedBy behaviour body) := by
  cases raised <;> simp [Course.Reports, Course.call, Ending.last, own]

theorem reports_run : (run behaviour body).Reports (raisedBy behaviour body) := by
  have isRaised : ∀ event, raisedBy behaviour body event ≠ some .normal := raisedBy_ne_normal
  have work := Course.Reports.andThen isRaised reports_body (reports_call .commit rfl)
  have answered := Course.Reports.onError isRaised work (reports_call .rollback rfl)
  exact (Course.Reports.lastly isRaised answered (reports_call .close rfl)).inside rfl rfl

/-- The steps are taken in their order. -/
theorem run_sublist : (run behaviour body).events.Sublist
    [.enter, .body, .commit, .rollback, .close, .exit (run behaviour body).ending] := by
  have work := Course.andThen_sublist (Course.step_sublist .body body)
    (Course.call_sublist .commit behaviour.commit)
  have answered := Course.onError_sublist work (Course.call_sublist .rollback behaviour.rollback)
  exact Course.inside_sublist (Course.lastly_sublist answered
    (Course.call_sublist .close behaviour.close))

/-- Whatever the body and the calls of a session do: the steps are taken in their order, each of
them once at most; the session is closed, and exited last. It is committed exactly after a body that
ended normally, and rolled back exactly after an error of the body or of the commit. What comes out
is the last thing raised, and nothing comes out exactly when the body ended normally and neither the
commit nor the closing raised an error. -/
theorem run_ends (behaviour : Behaviour ε) (body : Ending ε) :
    let course := run behaviour body
    course.events.Sublist [.enter, .body, .commit, .rollback, .close, .exit course.ending] ∧
      (.commit ∈ course.events ↔ body = .normal) ∧
      (.rollback ∈ course.events ↔
        (∃ error, body = .error error) ∨ body = .normal ∧ behaviour.commit ≠ none) ∧
      .close ∈ course.events ∧
      course.events.getLast? = some (.exit course.ending) ∧
      course.ending = .last (course.events.filterMap (raisedBy behaviour body)) ∧
      (course.ending = .normal ↔
        body = .normal ∧ behaviour.commit = none ∧ behaviour.close = none) := by
  refine ⟨run_sublist, ?_, ?_, ?_, Course.getLast?_inside _, reports_run, ?_⟩
  · simp [run]
  · simp [run]
  · simp [run]
  · simp [run, and_assoc]

end Session

end FleetGate
