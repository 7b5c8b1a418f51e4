import CardEffects.Proofs.Registers

/-!
# Marked boards

A board is marked with the endings that are used up and with the occurrences under way. Taking auras
off neither reads nor changes these marks, so it comes to the same before, during and after a pass.
-/

namespace CardEffects.Proofs

/-- A board with other marks. -/
def marked (b : Board) (spent : List ListenerId) (stack : List (EntityId × String)) : Board :=
  { b with spent, dispatching := stack }

/-- An outcome with a change to the board that is left. -/
def onLeft {α : Type} (f : Board → Board) :
    EStateM.Result Fault Board α → EStateM.Result Fault Board α
  | .ok a b => .ok a (f b)
  | .error fault b => .error fault (f b)

/-- Whether an operation does the same however a board is marked, and leaves the marks. -/
def Overlooks {α : Type} (operation : BoardM α) : Prop :=
  ∀ b spent stack, operation (marked b spent stack) = onLeft (marked · spent stack) (operation b)

variable {α β : Type}

section Closure

variable {x : BoardM α}

lemma overlooks_pure (a : α) : Overlooks (pure a) := fun _ _ _ => rfl

lemma overlooks_throw (fault : Fault) : Overlooks (throw fault : BoardM α) := fun _ _ _ => rfl

lemma overlooks_settle (result : Except Fault α) : Overlooks (settle result) := by
  cases result with
  | ok a => exact overlooks_pure a
  | error fault => exact overlooks_throw fault

lemma Overlooks.bind {f : α → BoardM β} (hx : Overlooks x) (hf : ∀ a, Overlooks (f a)) :
    Overlooks (x >>= f) := by
  intro b spent stack
  rw [bind_run, bind_run, hx]
  cases x b with
  | ok a b' => exact hf a b' spent stack
  | error fault b' => rfl

lemma Overlooks.attempt (hx : Overlooks x) : Overlooks (attempt x) := by
  intro b spent stack
  unfold CardEffects.attempt
  rw [hx]
  cases x b <;> rfl

lemma Overlooks.discard (hx : Overlooks x) : Overlooks (discard x) :=
  hx.bind fun _ => overlooks_pure _

lemma overlooks_get {f : Board → BoardM α} (hread : ∀ b spent stack, f (marked b spent stack) = f b)
    (hf : ∀ b, Overlooks (f b)) : Overlooks (get >>= f) := by
  intro b spent stack
  rw [bind_run, bind_run, get_run, get_run]
  simp only [hread]
  exact hf b b spent stack

lemma overlooks_modify {f : Board → Board}
    (h : ∀ b spent stack, f (marked b spent stack) = marked (f b) spent stack) :
    Overlooks (modify f) := by
  intro b spent stack
  rw [modify_run, modify_run, h]
  rfl

end Closure

/-! ### Stats and subscriptions -/

lemma modifyCharacter_marked (entity : EntityId) (f : Character → Character) (b : Board)
    (spent : List ListenerId) (stack : List (EntityId × String)) :
    (marked b spent stack).modifyCharacter entity f =
      marked (b.modifyCharacter entity f) spent stack := by
  have hseat : (marked b spent stack).seat? entity = b.seat? entity := rfl
  unfold Board.modifyCharacter
  rw [hseat]
  cases b.seat? entity <;> rfl

lemma overlooks_character (entity : EntityId) : Overlooks (Board.character entity) := by
  refine overlooks_get (fun _ _ _ => rfl) fun b => ?_
  cases b.character? entity with
  | none => exact overlooks_throw _
  | some c => exact overlooks_pure c

lemma overlooks_updateStat (entity : EntityId) (key : String) (f : Amount → Option Amount) :
    Overlooks (Board.updateStat entity key f) := by
  refine (overlooks_character entity).bind fun c => ?_
  cases f (c.stat key) with
  | none => exact overlooks_throw _
  | some value =>
    exact (overlooks_modify (modifyCharacter_marked entity _)).bind fun _ => overlooks_pure _

lemma overlooks_undo (change : StatChange) (target : EntityId) :
    Overlooks (change.undo target) := by
  cases change with
  | attack amount => exact (overlooks_updateStat _ _ _).discard
  | taunt => exact (overlooks_updateStat _ _ _).discard
  | health amount =>
    refine (overlooks_updateStat _ _ _).bind fun _ =>
      (overlooks_updateStat _ _ _).attempt.bind fun result => ?_
    cases result with
    | ok _ => exact overlooks_pure _
    | error fault => exact (overlooks_updateStat _ _ _).bind fun _ => overlooks_throw fault

lemma overlooks_unsubscribe (surface : EntityId) (event : String) (id : ListenerId) :
    Overlooks (Board.unsubscribe surface event id) := by
  refine (overlooks_character surface).bind fun c => ?_
  cases c.listeners.remove? event id with
  | none => exact overlooks_throw _
  | some listeners => exact overlooks_modify (modifyCharacter_marked surface _)

/-! ### Auras -/

lemma overlooks_undoOnMinions (change : StatChange) (targets : List EntityId) :
    Overlooks (change.undoOnMinions targets) := by
  induction targets with
  | nil => exact overlooks_pure _
  | cons target targets ih =>
    refine overlooks_get (fun _ _ _ => rfl) fun b => ?_
    split
    · exact (overlooks_undo change target).bind fun _ => ih
    · exact ih

lemma overlooks_switchOff (aura : Aura) : Overlooks aura.switchOff := by
  cases aura with
  | minions aura =>
    change Overlooks aura.switchOff
    unfold MinionAura.switchOff
    cases aura.active with
    | none => exact overlooks_throw _
    | some active =>
      refine overlooks_get (fun _ _ _ => rfl) fun b => ?_
      exact (overlooks_settle _).bind fun _ => overlooks_undoOnMinions _ _
  | player aura =>
    change Overlooks aura.switchOff
    unfold PlayerAura.switchOff
    cases aura.active with
    | none => exact overlooks_throw _
    | some active =>
      refine (overlooks_undo _ _).bind fun _ => ?_
      unfold Event.unsubscribe
      split
      · exact (overlooks_throw _).bind fun _ => overlooks_unsubscribe _ _ _
      · exact overlooks_unsubscribe _ _ _

lemma overlooks_removeAura (id : AuraId) : Overlooks (Board.removeAura id) := by
  refine overlooks_get (fun _ _ _ => rfl) fun b => ?_
  cases Table.get? b.auras id with
  | none => exact overlooks_throw _
  | some active =>
    exact (overlooks_modify fun _ _ _ => rfl).bind fun _ => overlooks_switchOff active.aura

lemma Overlooks.ok {x : BoardM α} (h : Overlooks x) {b b' : Board} {spent : List ListenerId}
    {stack : List (EntityId × String)} {a : α} (hrun : x (marked b spent stack) = .ok a b') :
    ∃ b₁, x b = .ok a b₁ ∧ b' = marked b₁ spent stack := by
  rw [h] at hrun
  cases hx : x b with
  | ok a' b₁ =>
    rw [hx] at hrun
    cases hrun
    exact ⟨b₁, rfl, rfl⟩
  | error fault b₁ =>
    rw [hx] at hrun
    cases hrun

end CardEffects.Proofs
