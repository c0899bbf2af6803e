import Mathlib.Data.List.Pairwise
import Parley.Notice.Inbox
import Parley.Proofs.Flow.Steps
import Parley.Proofs.Store.Table

/-!
# The order of channels

A notification goes to the game first, then to the preferred channels in the order in which they are
first named, and then to the socket where it has to be pushed. Names that come again change nothing;
so preferences are as good without them, and are stored without them.
-/

namespace Parley

open Calendar (Instant)

namespace Preferences

variable {channel : Delivery} {channels firsts : List Delivery} {p : Delivery → Prop}

/-- The channels of a kind that are in a list, each of them once, in the order in which they first
occur. -/
structure Firsts (p : Delivery → Prop) (channels firsts : List Delivery) : Prop where
  mem_iff : ∀ {channel}, channel ∈ firsts ↔ channel ∈ channels ∧ p channel
  ordered : firsts.Pairwise fun a b => channels.idxOf a < channels.idxOf b

theorem Firsts.nodup (h : Firsts p channels firsts) : firsts.Nodup :=
  h.ordered.imp fun earlier same => absurd (same ▸ earlier) (Nat.lt_irrefl _)

theorem firsts_withoutRepetition (channels : List Delivery) :
    Firsts (fun _ => True) channels (withoutRepetition channels) := by
  induction channels with
  | nil => exact ⟨by simp [withoutRepetition], .nil⟩
  | cons first rest ih =>
    constructor
    · intro channel
      rw [withoutRepetition, List.mem_cons, List.mem_filter, ih.mem_iff, List.mem_cons, bne_iff_ne]
      by_cases same : channel = first <;> simp [same]
    · have later : ∀ {channel}, channel ≠ first →
          (first :: rest).idxOf channel = rest.idxOf channel + 1 := fun other =>
        List.idxOf_cons_ne rest (Ne.symm other)
      rw [withoutRepetition, List.pairwise_cons]
      constructor
      · intro channel listed
        have other : channel ≠ first := by simpa using (List.mem_filter.mp listed).2
        rw [List.idxOf_cons_self, later other]
        exact Nat.succ_pos _
      · refine (ih.ordered.filter _).imp_of_mem fun {a b} hereA hereB earlier => ?_
        have otherA : a ≠ first := by simpa using (List.mem_filter.mp hereA).2
        have otherB : b ≠ first := by simpa using (List.mem_filter.mp hereB).2
        rw [later otherA, later otherB]
        exact Nat.succ_lt_succ earlier

theorem firsts_filter (p : Delivery → Prop) [DecidablePred p] (channels : List Delivery) :
    Firsts p channels ((withoutRepetition channels).filter p) where
  mem_iff := by
    intro channel
    rw [List.mem_filter, decide_eq_true_eq, (firsts_withoutRepetition _).mem_iff, and_true]
  ordered := (firsts_withoutRepetition _).ordered.filter _

/-- A list without repetition stays as it is. -/
theorem withoutRepetition_of_nodup (nodup : channels.Nodup) :
    withoutRepetition channels = channels := by
  induction channels with
  | nil => rfl
  | cons first rest ih =>
    rw [List.nodup_cons] at nodup
    rw [withoutRepetition, ih nodup.2, List.filter_eq_self.mpr]
    intro channel listed
    rw [bne_iff_ne]
    rintro rfl
    exact nodup.1 listed

theorem withoutRepetition_withoutRepetition (channels : List Delivery) :
    withoutRepetition (withoutRepetition channels) = withoutRepetition channels :=
  withoutRepetition_of_nodup (firsts_withoutRepetition channels).nodup

/-- Channels that are added one by one come behind those that are there, in the order of a list
without repetition. -/
theorem foldl_addChannel (channels added : List Delivery) :
    added.foldl addChannel channels =
      channels ++ (withoutRepetition added).filter (· ∉ channels) := by
  induction added generalizing channels with
  | nil => exact (List.append_nil _).symm
  | cons first rest ih =>
    rw [List.foldl_cons, ih, addChannel, withoutRepetition]
    by_cases listed : first ∈ channels
    · rw [if_pos (List.contains_iff_mem.mpr listed), List.filter_cons_of_neg (by simpa using listed),
        List.filter_filter]
      refine congrArg (channels ++ ·) (List.filter_congr fun channel _ => ?_)
      by_cases same : channel = first <;> simp [same, listed]
    · rw [if_neg fun contained => listed (List.contains_iff_mem.mp contained),
        List.filter_cons_of_pos (by simpa using listed), List.filter_filter, List.append_assoc]
      refine congrArg (fun later => channels ++ first :: later) (List.filter_congr fun channel _ => ?_)
      by_cases same : channel = first <;> simp [same]

variable {prefs : Preferences} {priority : Priority}

/-- The game, the other preferred channels, and the socket if it is missing and has to be there. -/
theorem resolveChannels_eq (prefs : Preferences) (priority : Priority) :
    prefs.resolveChannels priority =
      .inGame :: ((withoutRepetition prefs.preferredChannels).filter (· ≠ .inGame) ++
        if priority.isUrgent ∧ .webSocket ∉ prefs.preferredChannels then [.webSocket] else []) := by
  have others : prefs.preferredChannels.foldl addChannel [.inGame] =
      .inGame :: (withoutRepetition prefs.preferredChannels).filter (· ≠ .inGame) := by
    rw [foldl_addChannel]
    simp only [List.mem_singleton, List.singleton_append]
  have socket : .webSocket ∈ prefs.preferredChannels.foldl addChannel [.inGame] ↔
      .webSocket ∈ prefs.preferredChannels := by
    rw [others, List.mem_cons, List.mem_filter, (firsts_withoutRepetition _).mem_iff]
    simp
  rw [resolveChannels, ← List.cons_append, ← others]
  split
  · next urgent =>
    rw [addChannel]
    by_cases preferred : Delivery.webSocket ∈ prefs.preferredChannels
    · rw [if_pos (List.contains_iff_mem.mpr (socket.mpr preferred)),
        if_neg fun missing => missing.2 preferred, List.append_nil]
    · rw [if_neg fun listed => preferred (socket.mp (List.contains_iff_mem.mp listed)),
        if_pos ⟨urgent, preferred⟩]
  · next calm => rw [if_neg fun missing => calm missing.1, List.append_nil]

/-- Delivery in the game is never given up. -/
theorem inGame_mem_resolveChannels (prefs : Preferences) (priority : Priority) :
    .inGame ∈ prefs.resolveChannels priority := by
  rw [resolveChannels_eq]
  exact List.mem_cons_self

/-- Preferences as they are stored at a time. -/
def asStored (prefs : Preferences) (now : Instant) : Preferences :=
  { prefs with
    preferredChannels := withoutRepetition prefs.preferredChannels
    updatedAt := now }

theorem asStored_asStored (prefs : Preferences) (now later : Instant) :
    (prefs.asStored now).asStored later = { prefs.asStored now with updatedAt := later } := by
  rw [asStored, asStored, withoutRepetition_withoutRepetition]

/-- Only the first place of each channel counts. -/
theorem resolveChannels_asStored (prefs : Preferences) (now : Instant) (priority : Priority) :
    (prefs.asStored now).resolveChannels priority = prefs.resolveChannels priority := by
  have preferred : (prefs.asStored now).preferredChannels =
      withoutRepetition prefs.preferredChannels := rfl
  have same : Delivery.webSocket ∈ withoutRepetition prefs.preferredChannels ↔
      Delivery.webSocket ∈ prefs.preferredChannels := by
    rw [(firsts_withoutRepetition _).mem_iff, and_true]
  rw [resolveChannels_eq, resolveChannels_eq, preferred, withoutRepetition_withoutRepetition]
  simp only [same]

/-- What the channels for a priority are to be: the game, then the other preferred channels, then
the socket if the priority is high and the socket is not among them. -/
structure Resolves (prefs : Preferences) (priority : Priority) (channels : List Delivery) : Prop where
  nodup : channels.Nodup
  parts : ∃ others, Firsts (· ≠ .inGame) prefs.preferredChannels others ∧
    channels = [.inGame] ++ others ++
      if (priority = .high ∨ priority = .critical) ∧ .webSocket ∉ prefs.preferredChannels then
        [.webSocket]
      else []

theorem isUrgent_iff : priority.isUrgent = true ↔ priority = .high ∨ priority = .critical := by
  cases priority <;> decide

theorem resolves_resolveChannels (prefs : Preferences) (priority : Priority) :
    Resolves prefs priority (prefs.resolveChannels priority) := by
  have others : Firsts (· ≠ .inGame) prefs.preferredChannels
      ((withoutRepetition prefs.preferredChannels).filter (· ≠ .inGame)) := firsts_filter ..
  constructor
  · rw [resolveChannels_eq, List.nodup_cons, List.mem_append, not_or]
    refine ⟨⟨by simp, by split <;> simp⟩, ?_⟩
    split
    · next missing =>
      rw [← List.concat_eq_append]
      exact others.nodup.concat fun listed => missing.2 (others.mem_iff.mp listed).1
    · rw [List.append_nil]
      exact others.nodup
  · refine ⟨_, others, ?_⟩
    rw [resolveChannels_eq]
    simp only [isUrgent_iff]
    rfl

end Preferences

namespace Inbox

variable (prefs : Preferences) (world : World)

theorem perform_updatePreferences :
    (updatePreferences prefs).perform world =
      (.ok (prefs.asStored world.now),
        { world with store := world.store.putPreferences (prefs.asStored world.now) }) := rfl

theorem perform_preferences_of_found {account : Uuid} {stored : Preferences}
    (found : world.store.preferences? account = some stored) :
    (preferences account).perform world = (.ok stored, world) := by
  have answered : (Action.findPreferences account).perform world = (.ok (some stored), world) := by
    rw [← found]
    rfl
  rw [preferences, Action.perform_bind, answered]
  rfl

/-- The channels for a priority are in order, and are the same for preferences that were stored and
read again. -/
theorem channels_ordered_and_kept (prefs : Preferences) :
    (∀ priority, prefs.Resolves priority (prefs.resolveChannels priority)) ∧
    ∀ world, ∃ stored after, (updatePreferences prefs).perform world = (.ok stored, after) ∧
      Preferences.Firsts (fun _ => True) prefs.preferredChannels stored.preferredChannels ∧
      (∀ later : World,
        later.store.preferences? prefs.accountId = after.store.preferences? prefs.accountId →
        (preferences prefs.accountId).perform later = (.ok stored, later)) ∧
      (∀ later, ((updatePreferences stored).perform later).1 =
        .ok { stored with updatedAt := later.now }) ∧
      ∀ priority, stored.resolveChannels priority = prefs.resolveChannels priority := by
  refine ⟨prefs.resolves_resolveChannels, fun world => ?_⟩
  refine ⟨_, _, perform_updatePreferences prefs world, Preferences.firsts_withoutRepetition _,
    fun later same => ?_, fun later => ?_, prefs.resolveChannels_asStored world.now⟩
  · refine perform_preferences_of_found later (same.trans ?_)
    exact Table.find?_put_self (prefs.asStored world.now) world.store.preferences
  · rw [perform_updatePreferences, Preferences.asStored_asStored]

end Inbox

end Parley
