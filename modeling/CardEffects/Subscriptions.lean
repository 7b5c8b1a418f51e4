import CardEffects.Identity
import CardEffects.Table
import CardEffects.Text.Quoted

/-!
# Subscriptions

For each occurrence, the subscriptions to it in the order they were made. An occurrence without
subscriptions is not listed.
-/

namespace CardEffects

/-- Subscriptions by occurrence, each with what it is for. -/
structure Subscriptions (α : Type) where
  lists : Table String (List (ListenerId × α)) := []

namespace Subscriptions

variable {α : Type}

/-- The subscriptions to an occurrence, oldest first. -/
def listFor (subs : Subscriptions α) (event : String) : List (ListenerId × α) :=
  (Table.get? subs.lists event).getD []

/-- Replace the subscriptions to an occurrence. -/
def withList (subs : Subscriptions α) (event : String) (list : List (ListenerId × α)) :
    Subscriptions α :=
  if list.isEmpty then ⟨Table.erase subs.lists event⟩
  else ⟨Table.insert subs.lists event list⟩

/-- Add a subscription after all others to the occurrence. -/
def add (subs : Subscriptions α) (event : String) (listener : ListenerId) (body : α) :
    Subscriptions α :=
  subs.withList event (subs.listFor event ++ [(listener, body)])

/-- Whether a subscription to the occurrence has this number. -/
def has (subs : Subscriptions α) (event : String) (listener : ListenerId) : Bool :=
  (subs.listFor event).any (·.1 = listener)

/-- Drop the oldest subscription to the occurrence with this number, if there is one. -/
def remove? (subs : Subscriptions α) (event : String) (listener : ListenerId) :
    Option (Subscriptions α) :=
  if subs.has event listener then
    some (subs.withList event ((subs.listFor event).eraseP (·.1 = listener)))
  else none

def count (subs : Subscriptions α) (event : String) : Nat :=
  (subs.listFor event).length

def total (subs : Subscriptions α) : Nat :=
  subs.lists.foldr (fun entry total => entry.2.length + total) 0

theorem listFor_withList (subs : Subscriptions α) (event event' : String)
    (list : List (ListenerId × α)) :
    (subs.withList event list).listFor event' =
      if event = event' then list else subs.listFor event' := by
  unfold withList listFor
  by_cases h : event = event'
  · subst h
    rw [if_pos rfl]
    split
    · next hlist => simp [List.isEmpty_iff.1 hlist]
    · simp
  · rw [if_neg h]
    split
    · rw [Table.get?_erase_of_ne _ h]
    · rw [Table.get?_insert_of_ne _ _ h]

theorem listFor_add (subs : Subscriptions α) (event event' : String) (listener : ListenerId)
    (body : α) :
    (subs.add event listener body).listFor event' =
      subs.listFor event' ++ if event = event' then [(listener, body)] else [] := by
  rw [add, listFor_withList]
  by_cases h : event = event'
  · rw [h, if_pos rfl, if_pos rfl]
  · rw [if_neg h, if_neg h, List.append_nil]

theorem isSome_remove? (subs : Subscriptions α) (event : String) (listener : ListenerId) :
    (subs.remove? event listener).isSome = subs.has event listener := by
  unfold remove?
  cases subs.has event listener <;> rfl

/-- The occurrences with the numbers of their subscriptions, as a text. -/
def summary (subs : Subscriptions α) : String :=
  let entry (event : String) (list : List (ListenerId × α)) : String :=
    Text.quote event ++ ": [" ++
      ", ".intercalate (list.map fun (listener, _) => toString listener.raw) ++ "]"
  "\x7b" ++ ", ".intercalate (subs.lists.map fun (event, list) => entry event list) ++ "\x7d"

end Subscriptions

end CardEffects
