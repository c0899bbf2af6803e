import Parley.Moderation.Administration
import Parley.Notice.Inbox
import Parley.Proofs.Flow.Steps
import Parley.Proofs.Store.Newest

/-!
# Lists read page by page

A list shows the rows of a kind from the newest on, a page at a time. Every page is a part of one
list, which depends on the store alone; so reading page after page finds each of the rows once. What
is counted is counted over all of them, whatever page is asked for.
-/

namespace Parley

open Calendar (Instant)

variable {α γ : Type}

/-- Reads so many pages of one length, one after the other, from an offset on. -/
def browse (list : (limit offset : Int) → Action (List α × γ)) (length : Nat) :
    Nat → Int → Action (List α)
  | 0, _ => pure []
  | pages + 1, offset => do
    let (page, _) ← list length offset
    let rest ← browse list length pages (offset + length)
    pure (page ++ rest)

/-- All of some rows, the newest first. -/
structure Arranges (createdAt : α → Instant) (rows found : List α) : Prop where
  all : found.Perm rows
  newestFirst : found.Pairwise fun a b => createdAt b ≤ createdAt a

/-- A list shows what was found, by pages of one to a hundred rows. -/
structure Shows (list : (limit offset : Int) → Action (List α × γ)) (found : List α) (counts : γ)
    (world : World) : Prop where
  /-- Every page is answered, with the same counts, and nothing is changed. -/
  counted : ∀ limit offset, ∃ page, (list limit offset).perform world = (.ok (page, counts), world)
  /-- Page after page, everything that was found is read from the first on. -/
  browsed : ∀ length : Nat, 1 ≤ length → length ≤ 100 → ∀ pages,
    (browse list length pages 0).perform world = (.ok (found.take (pages * length)), world)
  /-- A limit or an offset that is out of bounds counts as the bound. -/
  clamped : ∀ limit offset, (list limit offset).perform world =
    (list (max 1 (min limit 100)) (max 0 offset)).perform world

variable {list : (limit offset : Int) → Action (List α × γ)} {createdAt : α → Instant}
  {rows found : List α} {counts : γ} {world : World}

theorem Store.arranges_newestFirst (createdAt : α → Instant) (rows : List α) :
    Arranges createdAt rows (Store.newestFirst createdAt rows) where
  all := List.mergeSort_perm ..
  newestFirst := by
    have transitive : ∀ a b c, decide (createdAt b ≤ createdAt a) = true →
        decide (createdAt c ≤ createdAt b) = true → decide (createdAt c ≤ createdAt a) = true := by
      intro a b c first second
      exact decide_eq_true
        (Instant.le_trans (of_decide_eq_true second) (of_decide_eq_true first))
    have total : ∀ a b, (decide (createdAt b ≤ createdAt a) ||
        decide (createdAt a ≤ createdAt b)) = true := by
      intro a b
      by_cases newer : createdAt b < createdAt a
      · simp [Instant.le_of_lt newer]
      · simp [Instant.le_of_not_lt newer]
    have sorted := List.pairwise_mergeSort transitive total rows
    exact sorted.imp of_decide_eq_true

/-- A list whose answers are the pages of what was found. -/
def Pages (list : (limit offset : Int) → Action (List α × γ)) (found : List α) (counts : γ)
    (world : World) : Prop :=
  ∀ limit offset, (list limit offset).perform world =
    (.ok (Table.page (clampLimit limit) (clampOffset offset) found, counts), world)

theorem page_of_within {length : Nat} (positive : 1 ≤ length) (most : length ≤ 100) (offset : Nat) :
    Table.page (clampLimit length) (clampOffset offset) found =
      (found.drop offset).take length := by
  have limit : (clampLimit length).toNat = length := by
    rw [clampLimit, maxPageSize]
    omega
  have start : (clampOffset offset).toNat = offset := by
    rw [clampOffset]
    omega
  rw [Table.page, limit, start]

/-- Each page begins where the one before it ended. -/
theorem Pages.perform_browse (paged : Pages list found counts world) {length : Nat}
    (positive : 1 ≤ length) (most : length ≤ 100) (pages offset : Nat) :
    (browse list length pages offset).perform world =
      (.ok ((found.drop offset).take (pages * length)), world) := by
  induction pages generalizing offset with
  | zero =>
    rw [Nat.zero_mul, List.take_zero]
    rfl
  | succ pages ih =>
    have rest := ih (offset + length)
    rw [Int.natCast_add] at rest
    rw [browse, Action.perform_bind, paged, page_of_within positive most]
    dsimp only
    rw [Action.perform_bind, rest]
    dsimp only
    rw [Nat.succ_mul, Nat.add_comm (pages * length), List.take_add, List.drop_drop]
    rfl

theorem Pages.shows (paged : Pages list found counts world) : Shows list found counts world where
  counted limit offset := ⟨_, paged limit offset⟩
  browsed length positive most pages := paged.perform_browse positive most pages 0
  clamped limit offset := by
    have limit_again : clampLimit (max 1 (min limit 100)) = clampLimit limit := by
      rw [clampLimit, clampLimit, maxPageSize]
      omega
    have offset_again : clampOffset (max 0 offset) = clampOffset offset := by
      rw [clampOffset, clampOffset]
      omega
    rw [paged, paged, limit_again, offset_again]

namespace Store

/-- The bans of a character, or of all. -/
def bansOf (store : Store) (character : Option Uuid) : List Ban :=
  store.bans.filter fun ban => ∀ id ∈ character, ban.characterId = id

/-- The reports of a status, or of any. -/
def reportsIn (store : Store) (status : Option ReportStatus) : List Report :=
  store.reports.filter fun report => ∀ wanted ∈ status, report.status = wanted

/-- The notifications of an account that have not expired. -/
def noticesFor (store : Store) (account : Uuid) (now : Instant) : List Notification :=
  store.notices.filter fun notice =>
    notice.accountId = account ∧ ∀ expiry ∈ notice.expiresAt, now < expiry

variable (store : Store) (limit offset : Int)

theorem listBans_eq (character : Option Uuid) :
    store.listBans character limit offset =
      (Table.page limit offset (newestFirst Ban.createdAt (store.bansOf character)),
        (store.bansOf character).length) := by
  have wanted : (fun ban : Ban => (character.map (ban.characterId == ·)).getD true) =
      fun ban => decide (∀ id ∈ character, ban.characterId = id) := by
    funext ban
    rw [Bool.eq_iff_iff]
    cases character <;> simp
  rw [listBans, wanted, newestFirst, List.length_mergeSort]
  rfl

theorem listReports_eq (status : Option ReportStatus) :
    store.listReports status limit offset =
      (Table.page limit offset (newestFirst Report.createdAt (store.reportsIn status)),
        (store.reportsIn status).length) := by
  have wanted : (fun report : Report => (status.map (report.status == ·)).getD true) =
      fun report => decide (∀ wanted ∈ status, report.status = wanted) := by
    funext report
    rw [Bool.eq_iff_iff]
    cases status <;> simp
  rw [listReports, wanted, newestFirst, List.length_mergeSort]
  rfl

/-- The unread ones are counted among all of them. -/
theorem listNotices_eq (account : Uuid) (now : Instant) :
    let notices := store.noticesFor account now
    store.listNotices account limit offset now =
      (Table.page limit offset (newestFirst Notification.createdAt notices), notices.length,
        notices.countP (·.status = .unread)) := by
  have wanted : (fun notice : Notification => notice.accountId == account && !notice.expiredAt now) =
      fun notice => decide (notice.accountId = account ∧
        ∀ expiry ∈ notice.expiresAt, now < expiry) := by
    funext notice
    rw [Bool.eq_iff_iff, Notification.expiredAt]
    cases notice.expiresAt <;> simp [← Instant.not_le]
  have arranged := arranges_newestFirst Notification.createdAt (store.noticesFor account now)
  dsimp only
  rw [listNotices, wanted]
  change (_, (newestFirst _ (store.noticesFor account now)).length,
    (newestFirst _ (store.noticesFor account now)).countP _) = _
  rw [arranged.all.length_eq, arranged.all.countP_eq]
  rfl

end Store

/-- Bans, reports and notifications are listed page by page: the pages are parts of one list, which
holds all rows that were asked for, the newest first, and is the same while the store is. -/
theorem lists_paged (store : Store) :
    (∀ character, ∃ found, Arranges Ban.createdAt (store.bansOf character) found ∧
      ∀ world : World, world.store = store →
        Shows (Moderation.listBans character) found (store.bansOf character).length world) ∧
    (∀ status, ∃ found, Arranges Report.createdAt (store.reportsIn status) found ∧
      ∀ world : World, world.store = store →
        Shows (Moderation.listReports status) found (store.reportsIn status).length world) ∧
    ∀ account now, ∃ found,
      Arranges Notification.createdAt (store.noticesFor account now) found ∧
      ∀ world : World, world.store = store → world.now = now →
        Shows (Inbox.list account) found ((store.noticesFor account now).length,
          (store.noticesFor account now).countP (·.status = .unread)) world := by
  refine ⟨fun character => ?_, fun status => ?_, fun account now => ?_⟩
  · refine ⟨_, Store.arranges_newestFirst .., fun world same => Pages.shows fun limit offset => ?_⟩
    rw [← Store.listBans_eq, ← same]
    rfl
  · refine ⟨_, Store.arranges_newestFirst .., fun world same => Pages.shows fun limit offset => ?_⟩
    rw [← Store.listReports_eq, ← same]
    rfl
  · refine ⟨_, Store.arranges_newestFirst .., fun world same time => Pages.shows ?_⟩
    intro limit offset
    rw [← Store.listNotices_eq, ← same, ← time]
    rfl

end Parley
