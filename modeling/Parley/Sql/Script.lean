import Parley.Sql.Basic

/-!
# Scripted databases

A database that gives prepared replies, one for each statement. When none is left, a statement
finds no rows and changes one. The statement that tries out a connection takes no reply.
-/

namespace Parley.Sql

/-- The statement that tries out a connection. -/
def probe : Statement := { text := "SELECT 1" }

structure Script where
  replies : List Reply := []
  /-- The statements received, latest first. -/
  received : List Statement := []

namespace Script

/-- What is replied when nothing was prepared. -/
def ordinary : Reply := .completed [] 1

def reply (script : Script) (statement : Statement) : Reply × Script :=
  let received := statement :: script.received
  if statement.text = probe.text then (ordinary, { script with received })
  else match script.replies with
    | [] => (ordinary, { script with received })
    | reply :: replies => (reply, { replies, received })

/-- Carries out an exchange. -/
def run {α : Type} (script : Script) (exchange : Exchange α) : Except Error α × Script :=
  Course.run reply (ExceptT.run exchange) script

end Script

end Parley.Sql
