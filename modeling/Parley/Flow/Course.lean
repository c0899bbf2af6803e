/-!
# Courses of queries

A course is a finite sequence of queries, each of which may depend on the answers before it, that
ends with a value. What answers the queries is left open: `Course.run` takes a function that says
how each of them is answered and what it changes.
-/

namespace Parley

inductive Course {Query : Type} (Answer : Query → Type) (α : Type) where
  | done (value : α)
  | ask (query : Query) (next : Answer query → Course Answer α)

namespace Course

variable {Query : Type} {Answer : Query → Type} {α β σ : Type}

def bind (course : Course Answer α) (next : α → Course Answer β) : Course Answer β :=
  match course with
  | done value => next value
  | ask query rest => ask query fun answer => bind (rest answer) next

instance : Monad (Course Answer) where
  pure := done
  bind := bind

/-- A single query. -/
def query (q : Query) : Course Answer (Answer q) := ask q done

/-- Turns each query into a course of other queries. -/
def via {Query' : Type} {Answer' : Query' → Type}
    (turn : (q : Query) → Course Answer' (Answer q)) : Course Answer α → Course Answer' α
  | done value => done value
  | ask q next => (turn q).bind fun answer => via turn (next answer)

/-- Carries out a course on a state that nobody else changes. -/
def run (perform : σ → (q : Query) → Answer q × σ) (course : Course Answer α) (state : σ) :
    α × σ :=
  match course with
  | done value => (value, state)
  | ask q next =>
    let (answer, state) := perform state q
    run perform (next answer) state

/-- Carries out a course with effects of another kind. -/
def runM {m : Type → Type} [Monad m] (perform : σ → (q : Query) → m (Answer q × σ))
    (course : Course Answer α) (state : σ) : m (α × σ) :=
  match course with
  | done value => pure (value, state)
  | ask q next => do
    let (answer, state) ← perform state q
    runM perform (next answer) state

end Course

end Parley
