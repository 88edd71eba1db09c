/-!
# The life of a session

A session is opened for the body of a request. When the body ends normally, the work is
committed; when the body or the commit breaks, it is rolled back; cancellation and closing skip
both. The session is closed in every case. What comes out in the end is the last error.
-/

namespace FleetGate

namespace Session

variable {ε δ : Type}

/-- How something ends. Cancellation and closing are not errors that a rollback answers. -/
inductive Ending (ε : Type) where
  | normal
  | error (error : ε)
  | cancelled (error : ε)
  | closed

/-- A later ending takes the place of an earlier one, unless it is a normal one. -/
def Ending.replacedBy (earlier : Ending ε) : Ending ε → Ending ε
  | .normal => earlier
  | later => later

/-- The steps of a session. -/
inductive Event (ε : Type) where
  | enter
  | body
  | commit
  | rollback
  | close
  | exit (ending : Ending ε)

/-- The name of a step. -/
def Event.name : Event ε → String
  | .enter => "enter"
  | .body => "body"
  | .commit => "commit"
  | .rollback => "rollback"
  | .close => "close"
  | .exit _ => "exit"

/-- The errors that the calls of a session raise, if they do. -/
structure Behaviour (ε : Type) where
  commit : Option ε
  rollback : Option ε
  close : Option ε

/-- The same behaviour with other errors. -/
def Behaviour.map (change : ε → δ) (behaviour : Behaviour ε) : Behaviour δ :=
  ⟨behaviour.commit.map change, behaviour.rollback.map change, behaviour.close.map change⟩

/-- The steps that were taken, and how it ended with them. -/
structure Course (ε : Type) where
  events : List (Event ε)
  ending : Ending ε

namespace Course

/-- A single step. -/
def step (event : Event ε) (ending : Ending ε) : Course ε :=
  ⟨[event], ending⟩

/-- A call that raises an error, or none. -/
def call (event : Event ε) : Option ε → Course ε
  | some error => step event (.error error)
  | none => step event .normal

/-- Goes on after a normal end. -/
def andThen (course next : Course ε) : Course ε :=
  match course.ending with
  | .normal => ⟨course.events ++ next.events, next.ending⟩
  | _ => course

/-- Answers an error by more steps and raises it again, unless they raise another one. -/
def onError (course handler : Course ε) : Course ε :=
  match course.ending with
  | .error _ => ⟨course.events ++ handler.events, course.ending.replacedBy handler.ending⟩
  | _ => course

/-- Takes more steps in any case. What they raise takes the place of what was. -/
def lastly (course last : Course ε) : Course ε :=
  ⟨course.events ++ last.events, course.ending.replacedBy last.ending⟩

/-- Takes the steps between the opening of a session and its exit, which sees how they ended. -/
def inside (course : Course ε) : Course ε :=
  ⟨.enter :: course.events ++ [.exit course.ending], course.ending⟩

end Course

/-- The course of a session whose body ends in a given way. -/
def run (behaviour : Behaviour ε) (body : Ending ε) : Course ε :=
  let work := (Course.step .body body).andThen (.call .commit behaviour.commit)
  let answered := work.onError (.call .rollback behaviour.rollback)
  (answered.lastly (.call .close behaviour.close)).inside

end Session

end FleetGate
