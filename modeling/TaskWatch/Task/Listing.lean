import TaskWatch.Task.Basic

/-!
# Task listings

A filter keeps the tasks that agree with every field it names: status and origin up to ASCII case,
the ids exactly, and all of them up to blanks. A listing shows the task that was updated last first;
tasks updated at the same instant stand in the order of their ids.
-/

namespace TaskWatch

/-- A choice among tasks. A field that is absent is no test. -/
structure TaskFilter where
  status : Option String := none
  origin : Option String := none
  sessionId : Option String := none
  clientId : Option String := none
  deriving DecidableEq, Repr

namespace TaskFilter

/-- Whether a text is the wanted one up to ASCII case. -/
def matchesFolded (wanted : Option String) (text : String) : Bool :=
  wanted.all fun w => Text.eqIgnoringAsciiCase (Text.trim w) (Text.trim text)

/-- Whether a text is the wanted one. -/
def matchesExactly (wanted : Option String) (text : String) : Bool :=
  wanted.all fun w => Text.trim w == Text.trim text

def matchesTask (f : TaskFilter) (t : Task) : Bool :=
  matchesFolded f.status t.status && matchesFolded f.origin t.origin &&
    matchesExactly f.sessionId t.sessionId && matchesExactly f.clientId t.clientId

/-- The tasks that the filter keeps, in their order. -/
def apply (f : TaskFilter) (tasks : List Task) : List Task :=
  tasks.filter f.matchesTask

end TaskFilter

namespace Task

/-- Whether `a` may stand before `b` in a listing. -/
def listedBefore (a b : Task) : Bool :=
  match b.updatedAt.compare a.updatedAt with
  | .lt => true
  | .gt => false
  | .eq => !(b.id < a.id)

/-- The tasks in the order of a listing; tasks that tie keep their order. -/
def sortRecentFirst (tasks : List Task) : List Task :=
  tasks.mergeSort listedBefore

end Task

end TaskWatch
