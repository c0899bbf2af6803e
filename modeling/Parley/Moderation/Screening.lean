import Parley.Moderation.Administration

/-!
# Screening of messages

A message is refused while its sender is banned, and when it is spam: too many messages, or too
many equal ones, within a window. Any other message is accepted as filtered. Spam and repeated
violations lead to automatic bans. A failure to look up the ban or to count the message is an
error; a failure to give a ban or to count a violation is not.
-/

namespace Parley.Moderation

/-- Counts a message of an actor, and whether it is spam. -/
def detectSpam (rules : Rules) (actor : Uuid) (content : String) : Action Bool := do
  let burst ← rules.count (Rules.burstKey actor)
    (1000 * rules.config.spamBurstWindowSecs)
  let duplicates ← rules.count (Rules.duplicateKey actor content)
    (1000 * rules.config.spamDuplicateWindowSecs)
  pure (rules.config.spamBurstLimit < burst || rules.config.spamDuplicateLimit < duplicates)

/-- Gives a ban without an administrator, counts it and announces it. -/
def autoBan (actor : Uuid) (scope : Option BanScope) (cause : BanCause) (hours : Int) :
    Action Ban := do
  let ban ← draftBan actor (scope.map (·.channelId)) (scope.map (·.channelType)) cause.reason
    none (some hours)
  let ban ← Action.createBan ban
  Action.tally (.autoBans cause)
  let time ← Action.now
  announce (match cause with
    | .spam => .spamBan ban time
    | .severe => .severeBan ban time)
  pure ban

/-- Bans an actor who has sent too many messages in the current window. -/
def autoBanForSpam (rules : Rules) (actor : Uuid) (scope : Option BanScope) :
    Action (Option Ban) := do
  if !rules.config.autoBanEnabled then pure none
  else
    let burst := (← Action.readCounter (Rules.burstKey actor)).getD 0
    if burst ≤ rules.config.spamBurstLimit then pure none
    else some <$> autoBan actor scope .spam rules.config.spamBanHours

/-- Bans an actor whose violations have reached the threshold. -/
def autoBanForViolations (rules : Rules) (actor : Uuid) (scope : Option BanScope)
    (violations : Int) : Action (Option Ban) := do
  if !rules.config.autoBanEnabled || violations < rules.config.severeViolationThreshold then
    pure none
  else some <$> autoBan actor scope .severe rules.config.severeBanHours

def filterMessage (rules : Rules) (content : String) : Action Filter.Outcome := do
  Action.tally .messagesChecked
  let outcome := rules.filter.apply content
  if outcome.violation then Action.tally .violations
  pure outcome

/-- Counts a violation. A ban for it starts the count anew. -/
def recordViolation (rules : Rules) (actor : Uuid) (scope : Option BanScope) : Action Unit := do
  let key := Rules.violationKey actor
  let count ← rules.count key (1000 * rules.config.violationWindowSecs)
  if rules.config.severeViolationThreshold ≤ count then
    if (← autoBanForViolations rules actor scope count).isSome then Action.deleteCounter key

inductive Verdict where
  | accepted (content : String) (filtered : Bool)
  | banned (ban : Ban)
  | spam
  deriving DecidableEq, Repr

/-- Takes an action for its effects, whether it succeeds or reports an error. -/
def attempt {α : Type} (action : Action α) : Action Unit :=
  Action.onError (do let _ ← action) fun _ => pure ()

def screen (rules : Rules) (sender : Uuid) (scope : Option BanScope) (content : String) :
    Action Verdict := do
  match ← checkBan sender (scope.map (·.channelId)) with
  | some ban => pure (.banned ban)
  | none =>
    if ← detectSpam rules sender content then
      attempt (autoBanForSpam rules sender scope)
      pure .spam
    else
      let outcome ← filterMessage rules content
      if outcome.violation then attempt (recordViolation rules sender scope)
      pure (.accepted outcome.content outcome.violation)

end Parley.Moderation
