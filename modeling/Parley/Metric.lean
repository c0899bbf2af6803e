/-!
# Metrics

Counts of what happened: messages looked at, violations among them, automatic bans by cause, and
the outcomes of events by consumer.
-/

namespace Parley

/-- Why a ban was given without an administrator. -/
inductive BanCause where
  | spam | severe
  deriving DecidableEq, Repr

namespace BanCause

def name : BanCause → String
  | spam => "spam"
  | severe => "severe"

/-- The reason that is written into the ban. -/
def reason : BanCause → String
  | spam => "Automatic ban: spam detected"
  | severe => "Automatic ban: repeated content violations"

end BanCause

/-- What became of an event that a consumer took from the bus. -/
inductive EventOutcome where
  | decodeError | processed | skipped | failed | timeout
  deriving DecidableEq, Repr

namespace EventOutcome

def name : EventOutcome → String
  | decodeError => "decode_error"
  | processed => "processed"
  | skipped => "skipped"
  | failed => "failed"
  | timeout => "timeout"

end EventOutcome

inductive Metric where
  | messagesChecked
  | violations
  | autoBans (cause : BanCause)
  | events (consumer : String) (outcome : EventOutcome)
  deriving DecidableEq, Repr

namespace Metric

/-- The name with the labels in braces. -/
def name : Metric → String
  | messagesChecked => "social_moderation_messages_checked_total"
  | violations => "social_moderation_violations_total"
  | autoBans cause => "social_moderation_auto_bans_total\x7bkind=" ++ cause.name ++ "\x7d"
  | events consumer outcome =>
    "social_subscriber_events_total\x7bconsumer=" ++ consumer ++ ",outcome=" ++ outcome.name ++
      "\x7d"

end Metric

/-- The metrics counted so far, in the order of their first count. -/
abbrev Tally := List (Metric × Nat)

namespace Tally

def count (tally : Tally) (metric : Metric) : Nat :=
  match tally with
  | [] => 0
  | (m, n) :: rest => if m = metric then n else count rest metric

def add (metric : Metric) : Tally → Tally
  | [] => [(metric, 1)]
  | (m, n) :: rest => if m = metric then (m, n + 1) :: rest else (m, n) :: add metric rest

end Tally

end Parley
