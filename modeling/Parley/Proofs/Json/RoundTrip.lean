import Parley.Proofs.Json.Members

/-!
# Values that read as they were written

What was read is tidy: its containers are nested no deeper than the reader goes, and the members of
its objects are in order, without repetition. A tidy value whose numbers are whole numbers of 64 bits
reads as itself when it is written, at every depth and whatever follows it.
-/

namespace Parley.Json

/-- Containers are nested at most so deep, and members are in order. -/
inductive Tidy : Nat → Json → Prop
  | null {depth : Nat} : Tidy depth .null
  | bool {depth : Nat} (value : Bool) : Tidy depth (.bool value)
  | number {depth : Nat} (value : Number) : Tidy depth (.number value)
  | string {depth : Nat} (value : String) : Tidy depth (.string value)
  | array {depth : Nat} {items : List Json} (all : ∀ item ∈ items, Tidy depth item) :
    Tidy (depth + 1) (.array items)
  | object {depth : Nat} {members : Members} (sorted : members.Sorted)
    (all : ∀ m ∈ members, Tidy depth m.2) : Tidy (depth + 1) (.object members)

/-- All numbers are whole numbers of 64 bits, signed or unsigned. -/
inductive Whole : Json → Prop
  | null : Whole .null
  | bool (value : Bool) : Whole (.bool value)
  | number {i : Int} (fits : Word.isInt64 i ∨ Word.isNat64 i) : Whole (.number (.integer i))
  | string (value : String) : Whole (.string value)
  | array {items : List Json} (all : ∀ item ∈ items, Whole item) : Whole (.array items)
  | object {members : Members} (all : ∀ m ∈ members, Whole m.2) : Whole (.object members)

section Reading

variable {p : Json → Prop} {item? : List Char → Option (Json × List Char)} {rest : List Char}

theorem forall_of_items? (reads : ∀ text value rest, item? text = some (value, rest) → p value)
    {done items : List Json} {bound : Nat} {text : List Char} (before : ∀ item ∈ done, p item)
    (h : items? item? done bound text = some (items, rest)) : ∀ item ∈ items, p item := by
  induction bound generalizing done text with
  | zero => cases h
  | succ bound ih =>
    rw [items?] at h
    obtain ⟨⟨value, after⟩, read, h⟩ := Option.bind_eq_some_iff.mp h
    have all : ∀ item ∈ value :: done, p item :=
      List.forall_mem_cons.mpr ⟨reads _ _ _ read, before⟩
    dsimp only at h
    split at h
    · exact ih all h
    · obtain ⟨rfl, -⟩ := Prod.mk.inj (Option.some.inj h)
      exact fun item listed => all item (List.mem_reverse.mp listed)
    · cases h

theorem tidy_of_members? (reads : ∀ text value rest, item? text = some (value, rest) → p value)
    {done members : Members} {bound : Nat} {text : List Char} (sorted : done.Sorted)
    (before : ∀ m ∈ done, p m.2) (h : members? item? done bound text = some (members, rest)) :
    members.Sorted ∧ ∀ m ∈ members, p m.2 := by
  induction bound generalizing done text with
  | zero => cases h
  | succ bound ih =>
    rw [members?] at h
    split at h
    · obtain ⟨⟨name, named⟩, -, h⟩ := Option.bind_eq_some_iff.mp h
      dsimp only at h
      split at h
      · obtain ⟨⟨value, after⟩, read, h⟩ := Option.bind_eq_some_iff.mp h
        have inOrder : (done.insert name value).Sorted := sorted.insert name value
        have all : ∀ m ∈ done.insert name value, p m.2 :=
          Members.forall_insert before (reads _ _ _ read)
        dsimp only at h
        split at h
        · exact ih inOrder all h
        · obtain ⟨rfl, -⟩ := Prod.mk.inj (Option.some.inj h)
          exact ⟨inOrder, all⟩
        · cases h
      · cases h
    · cases h

end Reading

theorem exists_of_map_eq_some {α β : Type} {make : α → β} {found : Option (α × List Char)}
    {rest : List Char} {value : β}
    (h : found.map (fun x => match x with | (a, r) => (make a, r)) = some (value, rest)) :
    ∃ a, found = some (a, rest) ∧ value = make a := by
  obtain ⟨⟨a, r⟩, read, same⟩ := Option.map_eq_some_iff.mp h
  obtain ⟨rfl, rfl⟩ := Prod.mk.inj same
  exact ⟨a, read, rfl⟩

theorem tidy_of_value? {depth : Nat} {text rest : List Char} {value : Json}
    (h : value? depth text = some (value, rest)) : Tidy depth value := by
  induction depth using Nat.strongRecOn generalizing text value rest with
  | ind depth ih =>
    rw [value?.eq_def] at h
    dsimp only at h
    split at h
    · obtain ⟨rfl, -⟩ := Prod.mk.inj (Option.some.inj h)
      exact .null
    · obtain ⟨rfl, -⟩ := Prod.mk.inj (Option.some.inj h)
      exact .bool true
    · obtain ⟨rfl, -⟩ := Prod.mk.inj (Option.some.inj h)
      exact .bool false
    · obtain ⟨s, -, rfl⟩ := exists_of_map_eq_some h
      exact .string s
    · obtain ⟨n, -, rfl⟩ := exists_of_map_eq_some h
      exact .number n
    · split at h
      · cases h
      · next depth =>
        have inner (text : List Char) (value : Json) (rest : List Char) :
            value? depth text = some (value, rest) → Tidy depth value :=
          ih depth (Nat.lt_succ_self depth)
        split at h
        · obtain ⟨rfl, -⟩ := Prod.mk.inj (Option.some.inj h)
          exact .array (List.forall_mem_nil _)
        · obtain ⟨items, read, rfl⟩ := exists_of_map_eq_some h
          exact .array (forall_of_items? inner (List.forall_mem_nil _) read)
    · split at h
      · cases h
      · next depth =>
        have inner (text : List Char) (value : Json) (rest : List Char) :
            value? depth text = some (value, rest) → Tidy depth value :=
          ih depth (Nat.lt_succ_self depth)
        split at h
        · obtain ⟨rfl, -⟩ := Prod.mk.inj (Option.some.inj h)
          exact .object Members.sorted_nil (List.forall_mem_nil _)
        · obtain ⟨members, read, rfl⟩ := exists_of_map_eq_some h
          obtain ⟨sorted, all⟩ :=
            tidy_of_members? inner Members.sorted_nil (List.forall_mem_nil _) read
          exact .object sorted all
    · obtain ⟨n, -, rfl⟩ := exists_of_map_eq_some h
      exact .number n

theorem tidy_of_parse? {text : String} {value : Json} (h : parse? text = some value) :
    Tidy maxDepth value := by
  obtain ⟨⟨read, rest⟩, found, h⟩ := Option.bind_eq_some_iff.mp h
  dsimp only at h
  split at h
  · obtain rfl := Option.some.inj h
    exact tidy_of_value? found
  · cases h

theorem print_eq_cons {value : Json} (whole : Whole value) :
    ∃ c text, print value = c :: text ∧ isSpace c = false ∧ c ≠ ']' := by
  cases whole with
  | null => exact ⟨_, _, rfl, rfl, by decide⟩
  | bool b => cases b <;> exact ⟨_, _, rfl, rfl, by decide⟩
  | string s => exact ⟨_, _, rfl, rfl, by decide⟩
  | array all => exact ⟨_, _, rfl, rfl, by decide⟩
  | object all => exact ⟨_, _, rfl, rfl, by decide⟩
  | @number i fits =>
    obtain ⟨c, text, same, start⟩ := print_ofInt_eq_cons i
    refine ⟨c, text, same, ?_⟩
    rcases start with rfl | digit
    · exact ⟨rfl, by decide⟩
    · refine ⟨isSpace_of_isDigit digit, ?_⟩
      rintro rfl
      exact absurd digit (by decide)

theorem skipSpace_print_of_whole {value : Json} (whole : Whole value) (rest : List Char) :
    skipSpace (print value ++ rest) = print value ++ rest := by
  obtain ⟨c, text, same, other, -⟩ := print_eq_cons whole
  rw [same]
  exact skipSpace_of_head other _

/-- The value reads as itself, whatever follows it. -/
def ReadsBack (item? : List Char → Option (Json × List Char)) (value : Json) : Prop :=
  ∀ rest, Stops rest → item? (print value ++ rest) = some (value, rest)

section Writing

variable {item? : List Char → Option (Json × List Char)} {rest : List Char} {bound : Nat}

theorem stops_cons {c : Char} (h : c = ',' ∨ c = ']' ∨ c = '\x7d') (rest : List Char) :
    Stops (c :: rest) := by
  intro first same
  obtain rfl := Option.some.inj same
  exact h

/-- An item reads as itself, and then comes what follows it. -/
theorem items?_item {item : Json} (whole : Whole item) (reads : ReadsBack item? item)
    (stops : Stops rest) (done : List Json) :
    items? item? done (bound + 1) (print item ++ rest) =
      match skipSpace rest with
      | ',' :: rest => items? item? (item :: done) bound rest
      | ']' :: rest => some ((item :: done).reverse, rest)
      | _ => none := by
  rw [items?, skipSpace_print_of_whole whole, reads rest stops]
  rfl

theorem items?_print {items : List Json} (some_item : items ≠ [])
    (whole : ∀ item ∈ items, Whole item) (reads : ∀ item ∈ items, ReadsBack item? item)
    (within : items.length ≤ bound) (done : List Json) :
    items? item? done bound (printItems items ++ ']' :: rest) =
      some (done.reverse ++ items, rest) := by
  induction items generalizing bound done with
  | nil => exact absurd rfl some_item
  | cons item items ih =>
    obtain ⟨wholeHere, wholeLater⟩ := List.forall_mem_cons.mp whole
    obtain ⟨here, later⟩ := List.forall_mem_cons.mp reads
    rw [List.length_cons] at within
    obtain ⟨bound, rfl⟩ : ∃ n, bound = n + 1 := ⟨bound - 1, by omega⟩
    cases items with
    | nil =>
      rw [printItems, items?_item wholeHere here (stops_cons (.inr (.inl rfl)) rest) done]
      exact congrArg (fun read => some (read, rest)) List.reverse_cons
    | cons next items =>
      have goes := ih (List.cons_ne_nil _ _) wholeLater later (Nat.le_of_succ_le_succ within)
        (item :: done)
      rw [printItems, List.append_assoc, List.cons_append,
        items?_item wholeHere here (stops_cons (.inl rfl) _) done]
      · refine goes.trans ?_
        rw [List.reverse_cons, List.append_assoc, List.singleton_append]
      · exact List.cons_ne_nil _ _

theorem members?_print_of_sorted {members : Members} (some_member : members ≠ [])
    (whole : ∀ m ∈ members, Whole m.2) (reads : ∀ m ∈ members, ReadsBack item? m.2)
    (within : members.length ≤ bound) {done : Members} (sorted : Members.Sorted (done ++ members)) :
    members? item? done bound (printMembers members ++ '\x7d' :: rest) =
      some (done ++ members, rest) := by
  induction members generalizing bound done with
  | nil => exact absurd rfl some_member
  | cons m members ih =>
    obtain ⟨name, value⟩ := m
    obtain ⟨wholeHere, wholeLater⟩ := List.forall_mem_cons.mp whole
    obtain ⟨here, later⟩ := List.forall_mem_cons.mp reads
    rw [List.length_cons] at within
    obtain ⟨bound, rfl⟩ : ∃ n, bound = n + 1 := ⟨bound - 1, by omega⟩
    have added : done.insert name value = done ++ [(name, value)] := by
      rw [Members.Sorted, Members.names, List.map_append, List.pairwise_append] at sorted
      exact Members.insert_of_last fun other listed => sorted.2.2 other listed name List.mem_cons_self
    have skips (rest : List Char) : skipSpace (print value ++ rest) = print value ++ rest :=
      skipSpace_print_of_whole wholeHere rest
    have read (rest : List Char) (stops : Stops rest) :
        item? (print value ++ rest) = (some value).map (·, rest) := here rest stops
    cases members with
    | nil =>
      rw [printMembers, List.append_assoc, List.cons_append, members?_member name (skips _)
        (read _ (stops_cons (.inr (.inr rfl)) rest)), Option.bind_some, added]
      rfl
    | cons next members =>
      rw [List.append_cons] at sorted
      have goes := ih (List.cons_ne_nil _ _) wholeLater later (Nat.le_of_succ_le_succ within) sorted
      rw [printMembers, List.append_assoc, List.cons_append, List.append_assoc, List.cons_append,
        members?_member name (skips _) (read _ (stops_cons (.inl rfl) _)), Option.bind_some, added]
      · refine goes.trans ?_
        rw [List.append_assoc, List.singleton_append]
      · exact List.cons_ne_nil _ _

end Writing

theorem length_le_printItems (items : List Json) :
    items.length ≤ (printItems items).length + 1 := by
  induction items with
  | nil => exact Nat.zero_le _
  | cons item items ih =>
    cases items with
    | nil => exact Nat.le_add_left _ _
    | cons next items =>
      simp only [printItems, List.length_append, List.length_cons] at ih ⊢
      omega

theorem value?_array {depth : Nat} {items : List Json} (whole : ∀ item ∈ items, Whole item)
    (reads : ∀ item ∈ items, ReadsBack (value? depth) item) :
    ReadsBack (value? (depth + 1)) (.array items) := by
  intro rest _
  rw [print, List.cons_append, List.append_assoc, List.singleton_append, value?]
  cases items with
  | nil => rfl
  | cons item items =>
    have start : ∃ c text, printItems (item :: items) ++ ']' :: rest = c :: text ∧
        isSpace c = false ∧ c ≠ ']' := by
      obtain ⟨c, text, same, other⟩ := print_eq_cons (whole item List.mem_cons_self)
      cases items with
      | nil => exact ⟨c, text ++ ']' :: rest, by rw [printItems, same]; rfl, other⟩
      | cons next items =>
        refine ⟨c, text ++ ',' :: (printItems (next :: items) ++ ']' :: rest), ?_, other⟩
        rw [printItems, same]
        · simp
        · exact List.cons_ne_nil _ _
    obtain ⟨c, text, same, space, bracket⟩ := start
    have within : (item :: items).length ≤ (c :: text).length := by
      rw [← same, List.length_append, List.length_cons (a := ']')]
      exact Nat.le_trans (length_le_printItems _) (by omega)
    have read : items? (value? depth) [] (c :: text).length
        (printItems (item :: items) ++ ']' :: rest) = some (item :: items, rest) :=
      items?_print (List.cons_ne_nil item items) whole reads within []
    rw [same] at read ⊢
    rw [skipSpace_of_head space]
    split
    · next clash => exact absurd (List.cons.inj clash).1 bracket
    · rw [read]
      rfl

theorem value?_object {depth : Nat} {members : Members} (whole : ∀ m ∈ members, Whole m.2)
    (sorted : members.Sorted) (reads : ∀ m ∈ members, ReadsBack (value? depth) m.2) :
    ReadsBack (value? (depth + 1)) (.object members) := by
  intro rest _
  rw [print, List.cons_append, List.append_assoc, List.singleton_append, value?]
  cases members with
  | nil => rfl
  | cons m members =>
    obtain ⟨text, same⟩ : ∃ text, printMembers (m :: members) ++ '\x7d' :: rest = '"' :: text := by
      cases members <;> exact ⟨_, rfl⟩
    have within : (m :: members).length ≤ ('"' :: text).length := by
      rw [← same, List.length_append]
      exact Nat.le_trans (length_le_printMembers _) (Nat.le_add_right _ _)
    have inOrder : Members.Sorted ([] ++ m :: members) := sorted
    have read : members? (value? depth) [] ('"' :: text).length
        (printMembers (m :: members) ++ '\x7d' :: rest) = some (m :: members, rest) :=
      members?_print_of_sorted (List.cons_ne_nil m members) whole reads within inOrder
    rw [same] at read ⊢
    rw [skipSpace_of_head rfl]
    split
    · next clash => exact absurd (List.cons.inj clash).1 (by decide)
    · rw [read]
      rfl

/-- A tidy value of whole numbers reads as itself. -/
theorem value?_print_of_tidy {depth : Nat} {value : Json} (tidy : Tidy depth value)
    (whole : Whole value) : ReadsBack (value? depth) value := by
  induction tidy with
  | null =>
    intro rest _
    exact value?.eq_1 ..
  | bool b =>
    intro rest _
    cases b
    · exact value?.eq_3 ..
    · exact value?.eq_2 ..
  | number n =>
    intro rest stops
    cases whole with
    | @number i fits => exact (value?_ofInt i _ stops).trans (by rw [numberOf?_of_word fits]; rfl)
  | string s =>
    intro rest stops
    exact value?_print (show (Json.string s).IsFlat from trivial) _ stops
  | array all ih =>
    cases whole with
    | array whole => exact value?_array whole fun item listed => ih item listed (whole item listed)
  | object sorted all ih =>
    cases whole with
    | object whole => exact value?_object whole sorted fun m listed => ih m listed (whole m listed)

theorem parse?_render_of_tidy {value : Json} (tidy : Tidy maxDepth value) (whole : Whole value) :
    parse? value.render = some value := by
  have read := value?_print_of_tidy tidy whole [] nofun
  have skips := skipSpace_print_of_whole whole []
  rw [List.append_nil] at read skips
  rw [parse?, render, String.toList_ofList, parseWithin?, skips, read]
  rfl

end Parley.Json
