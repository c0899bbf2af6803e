import Parley.Event.Body
import Parley.Text.Glob

/-!
# The event bus

Messages are numbered in the order in which they are published. The bus keeps the latest messages
for its readers, as many as its capacity; a reader that has fallen further behind goes on with
the oldest one kept. A separate log of limited length can be looked at.
-/

namespace Parley

structure Message where
  topic : String
  body : Body
  deriving DecidableEq, Repr

structure Bus where
  /-- Everything published so far, oldest first. -/
  messages : Array Message
  capacity : Nat
  logLimit : Nat
  deriving Repr

namespace Bus

/-- The least power of two that is not below `n`. -/
def powerOfTwo (n : Nat) : Nat := n.nextPowerOfTwo

def create (capacity logLimit : Nat) : Bus := ⟨#[], powerOfTwo capacity, logLimit⟩

/-- A bus of the usual size. -/
def standard : Bus := create 1000 10000

/-- How many messages have been published. -/
def size (bus : Bus) : Nat := bus.messages.size

def publish (bus : Bus) (message : Message) : Bus :=
  { bus with messages := bus.messages.push message }

/-- The number of the oldest message kept for readers. -/
def oldest (bus : Bus) : Nat := bus.size - bus.capacity

/-- The next message for a reader who has read up to `position`, and the new position. -/
def read? (bus : Bus) (position : Nat) : Option (Message × Nat) :=
  let index := max position bus.oldest
  (bus.messages[index]?).map fun message => (message, index + 1)

/-- The messages still in the log. -/
def log (bus : Bus) : List Message :=
  bus.messages.toList.drop (bus.size - bus.logLimit)

end Bus

end Parley
