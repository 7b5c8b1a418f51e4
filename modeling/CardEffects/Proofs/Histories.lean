import CardEffects.Game.Dispatch
import CardEffects.Proofs.StatShifts
import CardEffects.Proofs.Surfaces

/-!
# Histories

A history is a list of moves, the small steps that all operations on a board are made of. What
holds at every moment of every history holds at every moment of a game, also between the steps of
an operation and within the listeners that it calls.
-/

namespace CardEffects.Proofs

/-- A step of a board. -/
inductive Move where
  | place (player : PlayerId) (spot : Option Nat) (name : String) (attack health : Amount)
  | leave (minion : EntityId)
  /-- Write a stat, by any function of its old value. -/
  | write (entity : EntityId) (key : String) (f : Amount → Option Amount)
  | bind (surface : EntityId) (event : String) (listener : Listener)
  | unbind (surface : EntityId) (event : String) (listener : ListenerId)
  | equip (owner : EntityId) (f : List Effect → List Effect)
  | addAura (holder : PlayerId) (owner : EntityId) (aura : Aura)
  | removeAura (aura : AuraId)
  | refreshAura (aura : AuraId)
  | spend (listener : ListenerId)
  | enter (surface : EntityId) (event : String)
  | conclude
  | passTurn

namespace Move

/-- Do a move. A minion that owns auras does not leave. -/
def run : Move → BoardM Unit
  | .place player spot name attack health =>
    discard (Board.placeMinion player spot name attack health)
  | .leave minion => do
    if (← get).aurasOwnedBy minion = [] then
      discard (Board.leavePlay minion)
  | .write entity key f => discard (Board.updateStat entity key f)
  | .bind surface event listener => discard (Board.subscribe surface event listener)
  | .unbind surface event listener => Board.unsubscribe surface event listener
  | .equip owner f => modify (·.modifyCharacter owner fun c => { c with effects := f c.effects })
  | .addAura holder owner aura => discard (Board.addAura holder owner aura)
  | .removeAura aura => Board.removeAura aura
  | .refreshAura aura => Board.refreshAura aura
  | .spend listener => modify fun board => { board with spent := listener :: board.spent }
  | .enter surface event => Game.enter surface event
  | .conclude => Game.leave
  | .passTurn => modify fun board =>
    { board with
      activePlayer := board.activePlayer.next board.playerCount
      turn := board.turn + 1 }

/-- Whether a move may stand in a history: the endings of auras are bound by adding the auras, and
the auras that are added are of the allowed kind. -/
def Fits (allowed : Aura → Prop) : Move → Prop
  | .bind _ _ listener => ∀ aura, listener.handler ≠ .endAura aura
  | .addAura _ _ aura => allowed aura
  | _ => True

/-- Whether a move has no part in which occurrences are under way and whose turn it is. -/
def Local : Move → Prop
  | .enter _ _ | .conclude | .passTurn => False
  | _ => True

/-- Whether a move uses up no subscription. -/
def Sparing : Move → Prop
  | .spend _ => False
  | _ => True

end Move

lemma leftBy_leave (id : EntityId) (b : Board) :
    leftBy (Move.leave id).run b =
      if b.aurasOwnedBy id = [] then leftBy (Board.leavePlay id) b else b := by
  rw [← leftBy_discard (Board.leavePlay id)]
  by_cases howns : b.aurasOwnedBy id = [] <;> simp [leftBy, Move.run, howns]

/-- The board after the moves of a history, of which any may end in a fault. -/
def play (board : Board) (moves : List Move) : Board :=
  moves.foldl (fun board move => leftBy move.run board) board

@[simp] lemma play_nil (board : Board) : play board [] = board := rfl

@[simp] lemma play_cons (board : Board) (move : Move) (moves : List Move) :
    play board (move :: moves) = play (leftBy move.run board) moves := rfl

lemma play_append (board : Board) (moves moves' : List Move) :
    play board (moves ++ moves') = play (play board moves) moves' :=
  List.foldl_append ..

lemma play_concat (board : Board) (moves : List Move) (move : Move) :
    play board (moves ++ [move]) = leftBy move.run (play board moves) :=
  play_append ..

/-- What holds of the first board and is kept by each move of a history holds after it. -/
lemma play_preserves {Q : Move → Prop} {P : Board → Prop}
    (hstep : ∀ move, Q move → ∀ b, P b → P (leftBy move.run b)) {b : Board} (hb : P b)
    {moves : List Move} (hmoves : ∀ move ∈ moves, Q move) : P (play b moves) := by
  induction moves generalizing b with
  | nil => exact hb
  | cons move moves ih =>
    exact ih (hstep move (hmoves move (by simp)) b hb) fun m hm => hmoves m (by simp [hm])

lemma exists_split_concat {α : Type} {Q : List α → α → Prop} (list : List α) (last : α) :
    (∃ before a after, list ++ [last] = before ++ a :: after ∧ Q before a) ↔
      (∃ before a after, list = before ++ a :: after ∧ Q before a) ∨ Q list last := by
  constructor
  · rintro ⟨before, a, after, hlist, ha⟩
    rcases List.eq_nil_or_concat after with rfl | ⟨after', last', rfl⟩
    · obtain ⟨rfl, hlast⟩ := List.append_inj' hlist rfl
      obtain ⟨rfl, -⟩ := List.cons.inj hlast
      exact .inr ha
    · have hsplit : list ++ [last] = (before ++ a :: after') ++ [last'] := by
        rw [hlist]
        simp
      obtain ⟨rfl, -⟩ := List.append_inj' hsplit rfl
      exact .inl ⟨before, a, after', rfl, ha⟩
  · rintro (⟨before, a, after, rfl, ha⟩ | hlast)
    · exact ⟨before, a, after ++ [last], by simp, ha⟩
    · exact ⟨list, last, [], rfl, hlast⟩

/-- Whether a history has a move that has a property on the board that it is made on. -/
def Occurs (P : Board → Move → Prop) (start : Board) (moves : List Move) : Prop :=
  ∃ before move after, moves = before ++ move :: after ∧ P (play start before) move

section Occurs

variable {P : Board → Move → Prop} (start : Board)

lemma not_occurs_nil : ¬Occurs P start [] := by
  rintro ⟨before, move, after, hmoves, -⟩
  simp at hmoves

lemma occurs_concat (moves : List Move) (move : Move) :
    Occurs P start (moves ++ [move]) ↔ Occurs P start moves ∨ P (play start moves) move :=
  exists_split_concat (Q := fun before move => P (play start before) move) moves move

end Occurs

/-- One board comes from another by a history. -/
def Plays (allowed : Aura → Prop) (b b' : Board) : Prop :=
  ∃ moves, (∀ move ∈ moves, Move.Fits allowed move) ∧ play b moves = b'

instance (allowed : Aura → Prop) : IsPreorder Board (Plays allowed) where
  refl b := ⟨[], by simp⟩
  trans := by
    rintro b _ _ ⟨moves, hfits, rfl⟩ ⟨moves', hfits', rfl⟩
    refine ⟨moves ++ moves', fun move hm => ?_, play_append b moves moves'⟩
    rcases List.mem_append.mp hm with hm | hm
    · exact hfits move hm
    · exact hfits' move hm

lemma endAura_run (listener : ListenerId) (id : AuraId) (b : Board) :
    Game.endAura listener id b =
      if listener ∈ b.spent then .ok () b
      else Board.removeAura id { b with spent := listener :: b.spent } := by
  unfold Game.endAura
  by_cases hspent : listener ∈ b.spent <;> simp [hspent]

/-! ### Operations as histories -/

/-- A preorder of boards that holds across each local move that fits and uses up no subscription. It
holds across all that is made of such moves. -/
class Carries (allowed : outParam (Aura → Prop)) (R : Board → Board → Prop) : Prop
    extends IsPreorder Board R where
  of_move : ∀ move : Move, move.Fits allowed → move.Local → move.Sparing →
    ∀ b, R b (leftBy move.run b)

/-- A preorder of boards that holds across each local move that fits. -/
class Spans (allowed : outParam (Aura → Prop)) (R : Board → Board → Prop) : Prop
    extends Carries allowed R where
  of_spend : ∀ (listener : ListenerId) (b : Board), R b { b with spent := listener :: b.spent }

lemma plays_of_move {allowed : Aura → Prop} {α : Type} (move : Move) (hfits : move.Fits allowed)
    {operation : BoardM α} (h : ∀ b, leftBy operation b = leftBy move.run b) :
    Within (Plays allowed) operation :=
  fun b => ⟨[move], by simpa using hfits, (h b).symm⟩

instance (allowed : Aura → Prop) : Spans allowed (Plays allowed) where
  of_move move hfits _ _ := plays_of_move move hfits fun _ => rfl
  of_spend listener := plays_of_move (.spend listener) trivial fun _ => rfl

section Operations

variable {allowed : Aura → Prop} {R : Board → Board → Prop} [carries : Carries allowed R] {α : Type}

include carries

lemma within_of_move (move : Move) (hfits : move.Fits allowed) (hlocal : move.Local)
    (hsparing : move.Sparing) {operation : BoardM α}
    (h : ∀ b, leftBy operation b = leftBy move.run b) : Within R operation := by
  intro b
  rw [h]
  exact Carries.of_move move hfits hlocal hsparing b

lemma within_updateStat (entity : EntityId) (key : String) (f : Amount → Option Amount) :
    Within R (Board.updateStat entity key f) :=
  within_of_move (.write entity key f) trivial trivial trivial fun _ => (leftBy_discard _ _).symm

lemma within_setStat (entity : EntityId) (key : String) (value : Amount) :
    Within R (Board.setStat entity key value) := by
  refine within_of_move (.write entity key fun _ => some value) trivial trivial trivial fun b => ?_
  change _ = leftBy (discard (Board.updateStat entity key fun _ => some value)) b
  rw [leftBy_discard]
  unfold leftBy
  rw [updateStat_run]
  unfold Board.setStat Board.character
  cases h : b.character? entity <;> simp [h]

lemma within_shiftStat (entity : EntityId) (key : String) (n : Int) :
    Within R (shiftStat entity key n) :=
  within_updateStat _ _ _

lemma within_shiftBoth (target : EntityId) (key key' : String) (n : Int) :
    Within R (shiftBoth target key key' n) := by
  refine (within_shiftStat _ _ _).bind fun _ => (within_shiftStat _ _ _).attempt.bind ?_
  intro result
  cases result with
  | ok _ => exact within_pure _
  | error fault => exact (within_shiftStat _ _ _).bind fun _ => within_throw _

lemma within_make (change : StatChange) (target : EntityId) :
    Within R (change.make target) := by
  cases change with
  | attack amount => exact (within_updateStat _ _ _).discard
  | health amount => exact within_shiftBoth _ _ _ _
  | taunt => exact (within_updateStat _ _ _).discard

lemma within_undo (change : StatChange) (target : EntityId) :
    Within R (change.undo target) := by
  cases change with
  | attack amount => exact (within_updateStat _ _ _).discard
  | health amount =>
    rw [undo_health_eq]
    exact within_shiftBoth _ _ _ _
  | taunt => exact (within_updateStat _ _ _).discard

lemma within_heal (target : EntityId) (amount : Amount) :
    Within R (Board.heal target amount) :=
  within_get.bind fun _ => within_setStat _ _ _

lemma within_bind (surface : EntityId) (event : String) {listener : Listener}
    (h : ∀ aura, listener.handler ≠ .endAura aura) :
    Within R (Board.subscribe surface event listener) :=
  within_of_move (.bind surface event listener) h trivial trivial fun _ => (leftBy_discard _ _).symm

lemma within_subscribe (event : Event) (target : EntityId) {handler : Handler}
    (h : ∀ aura, handler ≠ .endAura aura) :
    Within R (event.subscribe target handler) :=
  within_get.bind fun _ => (within_settle _).bind fun _ =>
    (within_bind _ _ h).bind fun _ => within_pure _

lemma within_unsubscribe (surface : EntityId) (event : String) (listener : ListenerId) :
    Within R (Board.unsubscribe surface event listener) :=
  within_of_move (.unbind surface event listener) trivial trivial trivial fun _ => rfl

lemma within_release (event : Event) (binding : Binding) :
    Within R (event.unsubscribe binding) :=
  releases_event within_unsubscribe event binding

lemma within_equip (owner : EntityId) (f : List Effect → List Effect) :
    Within R
      (modify (·.modifyCharacter owner fun c => { c with effects := f c.effects }) : BoardM Unit) :=
  within_of_move (.equip owner f) trivial trivial trivial fun _ => rfl

lemma within_switchOnEffect (effect : Effect) (owner : EntityId) :
    Within R (effect.switchOn owner) := by
  unfold Effect.switchOn
  have hhandler : ∀ aura, Handler.trigger owner effect.action effect.targeting ≠ .endAura aura :=
    fun _ => by simp
  split
  · exact (within_throw _).bind fun _ => (within_subscribe _ _ hhandler).bind fun _ =>
      within_pure _
  · exact (within_subscribe _ _ hhandler).bind fun _ => within_pure _

lemma within_switchOffEffect (effect : Effect) : Within R effect.switchOff :=
  releases_effect within_unsubscribe effect

lemma within_attachEffect (owner : EntityId) (effect : Effect) :
    Within R (Board.attachEffect owner effect) :=
  (within_character owner).bind fun _ => (within_switchOnEffect effect owner).bind fun effect =>
    within_equip owner (· ++ [effect])

lemma within_switchOffEffects (effects : List Effect) :
    Within R (Board.switchOffEffects effects) :=
  releases_effects within_unsubscribe effects

lemma within_detachEffects (owner : EntityId) :
    Within R (Board.detachEffects owner) :=
  (within_character owner).bind fun c => (within_equip owner fun _ => []).bind fun _ =>
    (within_switchOffEffects c.effects).bind fun _ => within_pure _

lemma within_removeAura (id : AuraId) : Within R (Board.removeAura id) :=
  within_of_move (.removeAura id) trivial trivial trivial fun _ => rfl

lemma within_removeAuras (ids : List AuraId) : Within R (Board.removeAuras ids) := by
  induction ids with
  | nil => exact within_pure _
  | cons id ids ih => exact (within_removeAura id).bind fun _ => ih

lemma within_refreshAura (id : AuraId) : Within R (Board.refreshAura id) :=
  within_of_move (.refreshAura id) trivial trivial trivial fun _ => rfl

lemma within_refreshEach (ids : List AuraId) : Within R (Board.refreshEach ids) := by
  induction ids with
  | nil => exact within_pure _
  | cons id ids ih => exact (within_refreshAura id).bind fun _ => ih

lemma within_refreshAuras : Within R Board.refreshAuras :=
  within_get.bind fun _ => within_refreshEach _

lemma within_addAura (holder : PlayerId) (owner : EntityId) {aura : Aura} (h : allowed aura) :
    Within R (Board.addAura holder owner aura) :=
  within_of_move (.addAura holder owner aura) h trivial trivial fun _ => (leftBy_discard _ _).symm

lemma within_placeMinion (player : PlayerId) (spot : Option Nat) (name : String)
    (attack health : Amount) :
    Within R (Board.placeMinion player spot name attack health) :=
  within_of_move (.place player spot name attack health) trivial trivial trivial fun _ =>
    (leftBy_discard _ _).symm

end Operations

section Endings

variable {allowed : Aura → Prop} {R : Board → Board → Prop} [spans : Spans allowed R]

include spans

lemma within_spend (listener : ListenerId) :
    Within R
      (modify fun board => { board with spent := listener :: board.spent } : BoardM Unit) :=
  Spans.of_spend listener

lemma within_endAura (listener : ListenerId) (aura : AuraId) :
    Within R (Game.endAura listener aura) := by
  refine within_get.bind fun b => ?_
  split
  · exact within_pure _
  · exact (within_spend listener).bind fun _ => within_removeAura aura

end Endings

end CardEffects.Proofs
