import Parley.Proofs.Guild.Advancing
import Parley.Proofs.Store.Newest

/-!
# The search for the guild of a character

The guilds are looked through page by page, the oldest first, until one has the character as a
member or a page is not full. Each turn of the search that does not answer leaves a page behind it,
so the search ends, and it answers as a look through all guilds at once would.
-/

namespace Parley

namespace Store

variable {store : Store} {character : Uuid} {guild other : Guild}

/-- The guild is active, and the character belongs to it. -/
structure Houses (store : Store) (character : Uuid) (guild : Guild) : Prop where
  listed : guild ∈ store.guilds
  active : guild.status = .active
  member : ∃ member ∈ store.members, member.guildId = guild.id ∧ member.characterId = character

/-- The first guild of a character in the order of foundation and then of identifiers, if the
character has any. -/
inductive IsHome (store : Store) (character : Uuid) : Option Guild → Prop
  | found {guild : Guild} (houses : store.Houses character guild)
      (first : ∀ other, store.Houses character other → guild.createdAt < other.createdAt ∨
        guild.createdAt = other.createdAt ∧ ¬ other.id < guild.id) :
      IsHome store character (some guild)
  | missing (homeless : ∀ guild, ¬ store.Houses character guild) : IsHome store character none

theorem foundedBefore_iff : foundedBefore guild other = true ↔
    guild.createdAt < other.createdAt ∨
      guild.createdAt = other.createdAt ∧ ¬ other.id < guild.id := by
  simp [foundedBefore]

theorem belongs_iff : store.belongs character guild = true ↔
    ∃ member ∈ store.members, member.guildId = guild.id ∧ member.characterId = character := by
  rw [belongs, member?, Option.isSome_iff_ne_none, ne_eq, Table.find?_eq_none_iff, not_not,
    List.mem_map]
  simp only [memberKey, Prod.mk.injEq]

theorem houses_iff : store.Houses character guild ↔
    guild ∈ store.activeGuilds ∧ store.belongs character guild = true := by
  rw [activeGuilds, List.mem_mergeSort, List.mem_filter, beq_iff_eq, belongs_iff]
  constructor
  · rintro ⟨listed, active, member⟩
    exact ⟨⟨listed, active⟩, member⟩
  · rintro ⟨⟨listed, active⟩, member⟩
    exact ⟨listed, active, member⟩

theorem foundedBefore_trans {a b c : Guild} (first : foundedBefore a b = true)
    (second : foundedBefore b c = true) : foundedBefore a c = true := by
  rw [foundedBefore_iff] at *
  rcases first with older | ⟨same, lesser⟩
  · left
    rcases second with younger | ⟨same, -⟩
    · exact Calendar.Instant.lt_of_le_of_lt (Calendar.Instant.le_of_lt older) younger
    · exact same ▸ older
  · rcases second with younger | ⟨again, greater⟩
    · exact .inl (same ▸ younger)
    · refine .inr ⟨same.trans again, ?_⟩
      change ¬ c.id.bits < a.id.bits
      change ¬ b.id.bits < a.id.bits at lesser
      change ¬ c.id.bits < b.id.bits at greater
      rw [BitVec.lt_def] at *
      omega

theorem foundedBefore_total (a b : Guild) :
    (foundedBefore a b || foundedBefore b a) = true := by
  rw [Bool.or_eq_true, foundedBefore_iff, foundedBefore_iff]
  by_cases older : a.createdAt < b.createdAt
  · exact .inl (.inl older)
  · rcases Calendar.Instant.lt_or_eq_of_le (Calendar.Instant.le_of_not_lt older) with younger | same
    · exact .inr (.inl younger)
    · by_cases lesser : b.id < a.id
      · refine .inr (.inr ⟨same, ?_⟩)
        change ¬ a.id.bits < b.id.bits
        change b.id.bits < a.id.bits at lesser
        rw [BitVec.lt_def] at *
        omega
      · exact .inl (.inr ⟨same.symm, lesser⟩)

theorem foundedBefore_refl (guild : Guild) : foundedBefore guild guild = true := by
  have either := foundedBefore_total guild guild
  rwa [Bool.or_self] at either

theorem activeGuilds_sorted (store : Store) :
    store.activeGuilds.Pairwise fun guild other => foundedBefore guild other = true :=
  List.pairwise_mergeSort (fun a b c => foundedBefore_trans (a := a) (b := b) (c := c))
    foundedBefore_total _

/-- A look through all active guilds finds the first one of the character. -/
theorem isHome_guildOf? (store : Store) (character : Uuid) :
    store.IsHome character (store.guildOf? character) := by
  cases found : store.guildOf? character with
  | none =>
    refine .missing fun guild houses => ?_
    rw [houses_iff] at houses
    exact List.find?_eq_none.mp found guild houses.1 houses.2
  | some guild =>
    obtain ⟨member, before, after, split, others⟩ := List.find?_eq_some_iff_append.mp found
    have listed : guild ∈ store.activeGuilds := by
      rw [split]
      exact List.mem_append_cons_self
    refine .found (houses_iff.mpr ⟨listed, member⟩) fun other houses => ?_
    rw [houses_iff] at houses
    have sorted := store.activeGuilds_sorted
    rw [split] at houses sorted
    rw [← foundedBefore_iff]
    -- No guild before the one that was found has the character as a member.
    rcases List.mem_append.mp houses.1 with early | late
    · have apart := others other early
      rw [Bool.not_eq_true'] at apart
      exact absurd (houses.2.symm.trans apart) (by decide)
    · rcases List.mem_cons.mp late with rfl | late
      · exact foundedBefore_refl other
      · exact (List.pairwise_cons.mp (List.pairwise_append.mp sorted).2.1).1 other late

/-- Guilds that come before one another have one identifier. -/
theorem id_eq_of_foundedBefore (first : foundedBefore guild other = true)
    (second : foundedBefore other guild = true) : guild.id = other.id := by
  rw [foundedBefore_iff] at first second
  rcases first with older | ⟨same, lesser⟩
  · rcases second with younger | ⟨same, -⟩
    · exact absurd (Calendar.Instant.lt_of_le_of_lt (Calendar.Instant.le_of_lt older) younger)
        (Calendar.Instant.lt_irrefl _)
    · rw [same] at older
      exact absurd older (Calendar.Instant.lt_irrefl _)
  · rcases second with younger | ⟨-, greater⟩
    · rw [same] at younger
      exact absurd younger (Calendar.Instant.lt_irrefl _)
    · change ¬ other.id.bits < guild.id.bits at lesser
      change ¬ guild.id.bits < other.id.bits at greater
      rw [BitVec.not_lt] at lesser greater
      exact congrArg Uuid.mk (BitVec.le_antisymm lesser greater)

/-- Where identifiers are distinct there is one first guild. -/
theorem IsHome.unique {guild? other? : Option Guild}
    (distinct : (store.guilds.map Guild.id).Nodup) (home : store.IsHome character guild?)
    (also : store.IsHome character other?) : guild? = other? := by
  cases home with
  | missing homeless =>
    cases also with
    | missing => rfl
    | found houses => exact absurd houses (homeless _)
  | found houses first =>
    cases also with
    | missing homeless => exact absurd houses (homeless _)
    | found housesToo firstToo =>
      have same := id_eq_of_foundedBefore (foundedBefore_iff.mpr (first _ housesToo))
        (foundedBefore_iff.mpr (firstToo _ houses))
      have row := (Table.mem_iff_find?_eq_some distinct).mp houses.listed
      rw [same, (Table.mem_iff_find?_eq_some distinct).mp housesToo.listed] at row
      exact row.symm

end Store

namespace Advancement

/-- A search without a bound that starts at an offset ends with an answer after so many turns. -/
inductive Ends (character : Uuid) (world : World) : Int → Nat → Option Guild → Prop
  | answered {offset : Int} {guild? : Option Guild}
      (last : (turn character offset).perform world = (.ok (.answered guild?), world)) :
      Ends character world offset 1 guild?
  | further {offset next : Int} {turns : Nat} {guild? : Option Guild}
      (this : (turn character offset).perform world = (.ok (.further next), world))
      (rest : Ends character world next turns guild?) :
      Ends character world offset (turns + 1) guild?

variable (character : Uuid) (world : World)

/-- With each turn a page less is left. -/
theorem exists_ends (offset : Nat) :
    ∃ turns, turns ≤ (world.store.activeGuilds.length - offset) / World.guildPageSize + 1 ∧
      Ends character world offset turns
        ((world.store.activeGuilds.drop offset).find? (world.store.belongs character)) := by
  induction same : world.store.activeGuilds.length - offset using Nat.strongRecOn
    generalizing offset with
  | ind left ih =>
    rcases perform_turn character world offset with answered | ⟨further, within, later⟩
    · exact ⟨1, Nat.le_add_left _ _, .answered answered⟩
    · dsimp only [World.guildPageSize] at within later
      obtain ⟨turns, bound, ends⟩ := ih _ (by omega) (offset + 100) rfl
      rw [later] at ends
      refine ⟨turns + 1, ?_, .further further ends⟩
      rw [World.guildPageSize] at bound ⊢
      omega

/-- The search for the guild of a character ends, and answers as a look through all active guilds at
once does: with the first of them that the character belongs to. -/
theorem guildOf_finds_home (character : Uuid) (world : World) :
    ∃ guild?, (guildOf character).perform world = (.ok guild?, world) ∧
      (∃ turns, turns ≤ world.store.activeGuilds.length / World.guildPageSize + 1 ∧
        Ends character world 0 turns guild?) ∧
      (firstWithMember character world.store.activeGuilds).perform world = (.ok guild?, world) ∧
      world.store.IsHome character guild? ∧
      ∀ other?, (world.store.guilds.map Guild.id).Nodup → world.store.IsHome character other? →
        other? = guild? := by
  have home := world.store.isHome_guildOf? character
  refine ⟨_, perform_guildOf character world, ?_, perform_firstWithMember character world _, home,
    fun other? distinct also => also.unique distinct home⟩
  exact exists_ends character world 0

end Advancement

end Parley
