import Parley.Event.Payload

/-!
# What fields say

A field of a payload is absent, or says a text, or it cannot be read as a text at all. What the
readers of fields answer is stated in these terms, so that it can be told from the payload alone.
-/

namespace Parley.Payload

/-- The field is missing, or null. -/
def IsAbsent (payload : Payload) (key : String) : Prop :=
  payload.find? key = none ∨ payload.find? key = some .null

/-- The field is this text. -/
def Says (payload : Payload) (key text : String) : Prop :=
  payload.find? key = some (.string text)

/-- The field is this text, and there is something to see of it. -/
def Shows (payload : Payload) (key text : String) : Prop :=
  payload.Says key text ∧ Text.allBlank text.toList = false

/-- The field is absent, or a text of which there is nothing to see. -/
def ShowsNothing (payload : Payload) (key : String) : Prop :=
  payload.IsAbsent key ∨ ∃ text, payload.Says key text ∧ Text.allBlank text.toList = true

/-- The field is the text of this identifier. -/
def Identifies (payload : Payload) (key : String) (id : Uuid) : Prop :=
  ∃ text, payload.Says key text ∧ Uuid.parse? text = some id

variable {payload : Payload} {key text : String} {id : Uuid}

theorem text?_eq_none_iff : payload.text? key = .ok none ↔ payload.IsAbsent key := by
  rw [text?, IsAbsent]
  cases payload.find? key with
  | none => simp
  | some value => cases value <;> simp

theorem text?_eq_some_iff : payload.text? key = .ok (some text) ↔ payload.Says key text := by
  rw [text?, Says]
  cases payload.find? key with
  | none => simp
  | some value => cases value <;> simp

theorem uuid?_eq_none_iff : payload.uuid? key = .ok none ↔ payload.IsAbsent key := by
  rw [← text?_eq_none_iff, uuid?]
  cases payload.text? key with
  | error e => exact iff_of_false nofun nofun
  | ok text? =>
    cases text? with
    | none => exact iff_of_true rfl rfl
    | some text =>
      refine iff_of_false ?_ nofun
      dsimp only [bind, Except.bind]
      cases Uuid.parse? text <;> exact nofun

theorem uuid?_eq_some_iff : payload.uuid? key = .ok (some id) ↔ payload.Identifies key id := by
  simp only [Identifies, ← text?_eq_some_iff]
  rw [uuid?]
  cases payload.text? key with
  | error e => exact iff_of_false nofun nofun
  | ok text? =>
    cases text? with
    | none => exact iff_of_false nofun nofun
    | some text =>
      dsimp only [bind, Except.bind]
      simp only [Except.ok.injEq, Option.some.injEq, exists_eq_left']
      cases Uuid.parse? text with
      | none => exact iff_of_false nofun nofun
      | some other => simp [pure, Except.pure]

theorem visibleText?_eq_none_iff :
    payload.visibleText? key = .ok none ↔ payload.ShowsNothing key := by
  simp only [ShowsNothing, ← text?_eq_none_iff, ← text?_eq_some_iff]
  rw [visibleText?]
  rcases payload.text? key with e | _ | text <;> simp [Except.map]

theorem visibleText?_eq_some_iff :
    payload.visibleText? key = .ok (some text) ↔ payload.Shows key text := by
  rw [Shows, ← text?_eq_some_iff, visibleText?]
  rcases payload.text? key with e | _ | other
  · exact iff_of_false nofun (nofun ∘ And.left)
  · exact iff_of_false nofun (nofun ∘ And.left)
  · simp only [Except.map, Except.ok.injEq, Option.filter_eq_some_iff, Option.some.injEq,
      Bool.not_eq_true']

end Parley.Payload
