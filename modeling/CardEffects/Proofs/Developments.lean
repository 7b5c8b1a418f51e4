import CardEffects.Proofs.Listening
import CardEffects.Proofs.Runs
import Mathlib.Logic.Relation

/-!
# Developments

A board develops by steps. These are the moves of histories and, as programs may do that too, the
switching of auras on and off without the register. Work on a board is made of the local steps
only, and every operation that is not about firing is work on the board. What is proved of a step
here holds from each moment of a game to each later one, whatever the program does.
-/

namespace CardEffects.Proofs

/-- A step of a board: a move of the given kind, or the switching of an aura by hand. -/
inductive Step (kind : Move → Prop) (b : Board) : Board → Prop where
  | move (move : Move) (hfits : move.Fits fun _ => True) (hkind : kind move) :
    Step kind b (leftBy move.run b)
  | switchOn (aura : Aura) (slot : Slot) : Step kind b (leftBy (aura.switchOn slot) b)
  | switchOff (aura : Aura) : Step kind b (leftBy aura.switchOff b)

/-- One board comes from another by local steps. -/
def Works : Board → Board → Prop :=
  Relation.ReflTransGen (Step Move.Local)

/-- One board comes from another by steps. -/
def Develops : Board → Board → Prop :=
  Relation.ReflTransGen (Step fun _ => True)

instance : Spans (fun _ => True) Works where
  refl _ := .refl
  trans _ _ _ h h' := Relation.ReflTransGen.trans h h'
  of_move move hfits hlocal _ _ := .single (.move move hfits hlocal)
  of_spend listener _ := .single (.move (.spend listener) trivial trivial)

instance : Spans (fun _ => True) Develops where
  refl _ := .refl
  trans _ _ _ h h' := Relation.ReflTransGen.trans h h'
  of_move move hfits _ _ _ := .single (.move move hfits trivial)
  of_spend listener _ := .single (.move (.spend listener) trivial trivial)

lemma Works.develops {b b' : Board} (h : Works b b') : Develops b b' := by
  refine Relation.ReflTransGen.mono (fun c c' hstep => ?_) _ _ h
  cases hstep with
  | move move hfits _ => exact .move move hfits trivial
  | switchOn aura slot => exact .switchOn aura slot
  | switchOff aura => exact .switchOff aura

lemma develops_of_move (move : Move) (hfits : move.Fits fun _ => True) (b : Board) :
    Develops b (leftBy move.run b) :=
  .single (.move move hfits trivial)

/-- A preorder of boards that holds across all that a program does to a board without firing. -/
class Handles (R : Board → Board → Prop) : Prop extends Carries (fun _ => True) R where
  switchOn : ∀ (aura : Aura) (slot : Slot), Within R (aura.switchOn slot)
  switchOff : ∀ aura : Aura, Within R aura.switchOff

instance : Handles Works where
  switchOn aura slot _ := .single (.switchOn aura slot)
  switchOff aura _ := .single (.switchOff aura)

lemma Develops.preserves {P : Board → Prop}
    (hstep : ∀ b b', Step (fun _ => True) b b' → P b → P b') {b b' : Board} (h : Develops b b')
    (hb : P b) : P b' := by
  induction h with
  | refl => exact hb
  | tail _ hlast ih => exact hstep _ _ hlast ih

/-! ### Operations -/

/-- Whether an operation fires an occurrence on its way. -/
def Fires : Operation → Prop
  | .summon _ _ _ _ _ | .dealDamage _ _ _ | .endTurn | .fire _ _ _ | .act _ _ => True
  | _ => False

lemma work_of_not_fires {operation : Operation} (h : ¬Fires operation) :
    ∃ work : BoardM operation.Reply, (∀ (R : Board → Board → Prop) [Handles R], Within R work) ∧
      ∀ {σ : Type} (fire : Firing σ), Game.perform fire operation = onBoard work := by
  cases operation with
  | removeMinion minion => exact ⟨_, fun _ _ => within_removeMinion minion, fun _ => rfl⟩
  | raiseStat entity key amount => exact ⟨_, fun _ _ => within_updateStat _ _ _, fun _ => rfl⟩
  | lowerStat entity key amount => exact ⟨_, fun _ _ => within_updateStat _ _ _, fun _ => rfl⟩
  | setStat entity key value => exact ⟨_, fun _ _ => within_setStat _ _ _, fun _ => rfl⟩
  | unsubscribe surface event listener =>
    exact ⟨_, fun _ _ => within_unsubscribe _ _ _, fun _ => rfl⟩
  | release event binding => exact ⟨_, fun _ _ => within_release _ _, fun _ => rfl⟩
  | undo change target => exact ⟨_, fun _ _ => within_undo _ _, fun _ => rfl⟩
  | switchOnEffect effect owner => exact ⟨_, fun _ _ => within_switchOnEffect _ _, fun _ => rfl⟩
  | switchOffEffect effect => exact ⟨_, fun _ _ => within_switchOffEffect _, fun _ => rfl⟩
  | attachEffect owner effect => exact ⟨_, fun _ _ => within_attachEffect _ _, fun _ => rfl⟩
  | detachEffects owner => exact ⟨_, fun _ _ => within_detachEffects _, fun _ => rfl⟩
  | switchOnAura aura slot => exact ⟨_, fun _ _ => Handles.switchOn aura slot, fun _ => rfl⟩
  | switchOffAura aura => exact ⟨_, fun _ _ => Handles.switchOff aura, fun _ => rfl⟩
  | addAura holder owner aura => exact ⟨_, fun _ _ => within_addAura _ _ trivial, fun _ => rfl⟩
  | removeAura aura => exact ⟨_, fun _ _ => within_removeAura _, fun _ => rfl⟩
  | refreshAuras => exact ⟨_, fun _ _ => within_refreshAuras, fun _ => rfl⟩
  | _ => exact absurd trivial h

/-! ### Readings -/

/-- A reading of boards that no change of a character shows in. -/
structure Aloof {γ : Type} (reading : Board → γ) : Prop where
  modifyCharacter : ∀ b entity f, reading (b.modifyCharacter entity f) = reading b
  of_bare : ∀ {b b'}, bare b' = bare b → reading b' = reading b
  nextListener : ∀ b n, reading { b with nextListener := n } = reading b

/-- Whether a move changes a character, if anything. -/
def Move.OnCharacter : Move → Prop
  | .write _ _ _ | .bind _ _ _ | .unbind _ _ _ | .equip _ _ => True
  | _ => False

lemma within_player_switchOff {R : Board → Board → Prop} [IsPreorder Board R]
    (hbare : ∀ b b', bare b' = bare b → R b b')
    (hrelease : ∀ surface event id, Within R (Board.unsubscribe surface event id))
    (aura : PlayerAura) : Within R aura.switchOff := by
  have hundo : ∀ change target, Within R (StatChange.undo change target) := by
    intro change target b
    by_cases hbears : Bears b target fun key => -delta change key
    · obtain ⟨b', hrun, hshift⟩ := (undo_shifts change target).ok_of_bears b hbears
      rw [leftBy_of_ok hrun]
      exact hbare _ _ hshift.bare_eq
    · obtain ⟨fault, b', hrun, hshift, -⟩ := (undo_shifts change target).error_of_not b hbears
      rw [leftBy_of_error hrun]
      exact hbare _ _ hshift.bare_eq
  unfold PlayerAura.switchOff
  cases aura.active with
  | none => exact within_throw _
  | some active => exact (hundo _ _).bind fun _ => releases_event hrelease _ _

section Aloof

variable {γ : Type} {reading : Board → γ} (h : Aloof reading)

include h

lemma Aloof.subscribed (b : Board) (surface : EntityId) (event : String) (listener : Listener) :
    reading (subscribed b surface event listener) = reading b :=
  (h.nextListener (b.modifyCharacter surface _) _).trans (h.modifyCharacter _ _ _)

lemma Aloof.unsubscribe (surface : EntityId) (event : String) (id : ListenerId) (b : Board) :
    reading (leftBy (Board.unsubscribe surface event id) b) = reading b := by
  unfold leftBy
  rw [unsubscribe_run]
  cases b.character? surface with
  | none => rfl
  | some c =>
    cases hremove : c.listeners.remove? event id with
    | none => simp [hremove]
    | some listeners =>
      simp only [hremove]
      exact h.modifyCharacter _ _ _

lemma Aloof.switchOn (aura : Aura) (slot : Slot) (b : Board) :
    reading (leftBy (aura.switchOn slot) b) = reading b := by
  cases hon : aura.switchOn slot b with
  | error fault b' =>
    rw [leftBy_of_error hon]
    exact h.of_bare (aura_switchOn_error hon).bare_eq
  | ok aura' b' =>
    rw [leftBy_of_ok hon]
    rcases aura_switchOn_ok hon with ⟨m, m', -, -, hm⟩ | ⟨p, p', -, -, hp⟩
    · obtain ⟨matched, -, -, hshift⟩ := minions_switchOn_ok hm
      exact h.of_bare hshift.bare_eq
    · obtain ⟨b₁, surface, c, hshift, -, -, -, rfl⟩ := player_switchOn_ok hp
      exact (h.subscribed _ _ _ _).trans (h.of_bare hshift.bare_eq)

lemma Aloof.switchOff (aura : Aura) (b : Board) : reading (leftBy aura.switchOff b) = reading b := by
  cases aura with
  | minions aura => exact h.of_bare (minions_switchOff_bare aura b)
  | player aura =>
    exact within_player_switchOff (R := Same reading) (fun _ _ => h.of_bare) h.unsubscribe aura b

lemma Aloof.move {move : Move} (hmove : move.OnCharacter) (b : Board) :
    reading (leftBy move.run b) = reading b := by
  cases move with
  | write entity key f =>
    rcases write_step entity key f b with hsame | ⟨value, hwritten⟩
    · rw [hsame]
    · rw [hwritten]
      exact h.modifyCharacter _ _ _
  | bind surface event listener =>
    simp only [Move.run, leftBy_discard]
    unfold leftBy
    rw [subscribe_run]
    cases b.character? surface with
    | none => rfl
    | some c => exact h.subscribed _ _ _ _
  | unbind surface event listener => exact h.unsubscribe surface event listener b
  | equip owner f => exact h.modifyCharacter b owner fun c => { c with effects := f c.effects }
  | _ => exact hmove.elim

end Aloof

/-! ### The course of a game -/

/-- Which occurrences are under way on a board and whose turn it is, under which settings. -/
def course (b : Board) : Settings × List (EntityId × String) × PlayerId × Nat :=
  (b.settings, b.dispatching, b.activePlayer, b.turn)

/-- The course of a game, and which endings of auras have been called. -/
def progress (b : Board) : (Settings × List (EntityId × String) × PlayerId × Nat) × List ListenerId :=
  (course b, b.spent)

lemma aloof_progress : Aloof progress where
  modifyCharacter b entity f := by
    unfold Board.modifyCharacter
    cases b.seat? entity <;> rfl
  of_bare h := (congrArg progress h : progress (bare _) = progress (bare _))
  nextListener _ _ := rfl

lemma aloof_course : Aloof course where
  modifyCharacter b entity f := congrArg Prod.fst (aloof_progress.modifyCharacter b entity f)
  of_bare h := congrArg Prod.fst (aloof_progress.of_bare h)
  nextListener _ _ := rfl

lemma progress_move {move : Move} (h : move.Local) (hsparing : move.Sparing) (b : Board) :
    progress (leftBy move.run b) = progress b := by
  by_cases hcharacter : move.OnCharacter
  · exact aloof_progress.move hcharacter b
  cases move with
  | place player spot name attack health =>
    rcases place_step player spot name attack health b with hsame | ⟨index, stats, -, hplaced⟩
    · rw [hsame]
    · rw [hplaced]
      rfl
  | leave id =>
    rcases leave_step id b with hsame | ⟨minion, -, -, hdeparted⟩
    · rw [hsame]
    · rw [hdeparted]
      rfl
  | addAura holder owner aura =>
    simp only [Move.run, leftBy_discard]
    cases hrun : Board.addAura holder owner aura b with
    | error fault b' =>
      rw [leftBy_of_error hrun]
      rcases addAura_error hrun with rfl | hshift
      · rfl
      · exact aloof_progress.of_bare (b := numbered b) hshift.bare_eq
    | ok id b' =>
      obtain ⟨-, -, aura', b₁, hon, rfl⟩ := addAura_ok hrun
      have hprogress := aloof_progress.switchOn aura (nextSlot b holder owner) (numbered b)
      rw [leftBy_of_ok hon] at hprogress
      rw [leftBy_of_ok hrun]
      exact hprogress
  | removeAura id =>
    change progress (leftBy (Board.removeAura id) b) = progress b
    rw [leftBy_removeAura]
    cases hget : Table.get? b.auras id with
    | none => rfl
    | some active =>
      exact aloof_progress.switchOff active.aura (deregistered b id active.slot.holder)
  | refreshAura id =>
    change progress (leftBy (Board.refreshAura id) b) = progress b
    cases hrun : Board.refreshAura id b with
    | error fault b' =>
      obtain ⟨slot, aura, b₁, -, hbare, rfl⟩ := refreshAura_error hrun
      rw [leftBy_of_error hrun]
      exact (aloof_progress.of_bare hbare : progress b₁ = progress b)
    | ok _ b' =>
      rw [leftBy_of_ok hrun]
      rcases refreshAura_ok hrun with
        rfl | ⟨slot, aura, b₁, matched, b₂, -, -, hbare, -, hshift, rfl⟩
      · rfl
      · exact (aloof_progress.of_bare (hshift.bare_eq.trans hbare) : progress b₂ = progress b)
  | spend listener => exact hsparing.elim
  | enter _ _ => exact h.elim
  | conclude => exact h.elim
  | passTurn => exact h.elim
  | _ => exact absurd trivial hcharacter

instance : Handles (Same Board.spent) where
  of_move _ _ hlocal hsparing b := congrArg Prod.snd (progress_move hlocal hsparing b)
  switchOn aura slot b := congrArg Prod.snd (aloof_progress.switchOn aura slot b)
  switchOff aura b := congrArg Prod.snd (aloof_progress.switchOff aura b)

lemma course_move {move : Move} (h : move.Local) (b : Board) :
    course (leftBy move.run b) = course b := by
  by_cases hsparing : move.Sparing
  · exact congrArg Prod.fst (progress_move h hsparing b)
  · cases move with
    | spend listener => rfl
    | _ => exact absurd trivial hsparing

lemma Works.course_eq {b b' : Board} (h : Works b b') : course b' = course b := by
  induction h with
  | refl => rfl
  | tail _ hstep ih =>
    refine Eq.trans ?_ ih
    cases hstep with
    | move move _ hlocal => exact course_move hlocal _
    | switchOn aura slot => exact aloof_course.switchOn aura slot _
    | switchOff aura => exact aloof_course.switchOff aura _

lemma Develops.settings_eq {b b' : Board} (h : Develops b b') : b'.settings = b.settings := by
  refine h.preserves (P := fun c => c.settings = b.settings) (fun c c' hstep hc => ?_) rfl
  refine Eq.trans ?_ hc
  cases hstep with
  | move move _ _ =>
    by_cases hlocal : move.Local
    · exact congrArg Prod.fst (course_move hlocal c)
    · cases move with
      | enter surface event => rfl
      | conclude => rfl
      | passTurn => rfl
      | _ => exact absurd trivial hlocal
  | switchOn aura slot => exact congrArg Prod.fst (aloof_course.switchOn aura slot c)
  | switchOff aura => exact congrArg Prod.fst (aloof_course.switchOff aura c)

/-! ### Who is in play -/

lemma aloof_outline : Aloof outline where
  modifyCharacter := outline_modifyCharacter
  of_bare := outline_eq_of_bare
  nextListener _ _ := rfl

/-- A step is a move as far as the outline is concerned, or leaves it as it is. -/
lemma outline_step {kind : Move → Prop} {b b' : Board} (h : Step kind b b') :
    outline b' = outline b ∨ ∃ move : Move, b' = leftBy move.run b := by
  cases h with
  | move move _ _ => exact .inr ⟨move, rfl⟩
  | switchOn aura slot => exact .inl (aloof_outline.switchOn aura slot b)
  | switchOff aura => exact .inl (aloof_outline.switchOff aura b)

lemma WellFormed.develops {b b' : Board} (h : WellFormed (outline b)) (hdev : Develops b b') :
    WellFormed (outline b') := by
  refine hdev.preserves (P := fun b => WellFormed (outline b)) (fun c c' hstep hc => ?_) h
  rcases outline_step hstep with hsame | ⟨move, rfl⟩
  · rwa [hsame]
  · exact wellFormed_step move c hc

/-! ### Subscriptions -/

lemma listening_of_step {kind : Move → Prop} {b b' : Board} (h : WellFormed (outline b))
    (hstep : Step kind b b') :
    Fewer b b' ∨ ∃ surface event listener, Gained b b' surface event listener := by
  cases hstep with
  | move move hfits _ =>
    rcases listening_step hfits h with hfewer | ⟨surface, event, listener, hgained, -⟩
    · exact .inl hfewer
    · exact .inr ⟨surface, event, listener, hgained⟩
  | switchOn aura slot =>
    cases hon : aura.switchOn slot b with
    | error fault b' =>
      rw [leftBy_of_error hon]
      exact .inl (fewer_of_listening (listening_eq_of_bare (aura_switchOn_error hon).bare_eq))
    | ok aura' b' =>
      rw [leftBy_of_ok hon]
      rcases aura_switchOn_ok hon with ⟨m, m', -, -, hm⟩ | ⟨p, p', -, -, hp⟩
      · obtain ⟨matched, -, -, hshift⟩ := minions_switchOn_ok hm
        exact .inl (fewer_of_listening (listening_eq_of_bare hshift.bare_eq))
      · obtain ⟨b₁, surface, c, hshift, -, hc, -, rfl⟩ := player_switchOn_ok hp
        exact .inr ⟨surface, p.ending.name, endingListener p slot,
          gained_of_subscribed hc (listening_eq_of_bare hshift.bare_eq) rfl⟩
  | switchOff aura =>
    cases aura with
    | minions aura =>
      exact .inl (fewer_of_listening (listening_eq_of_bare (minions_switchOff_bare aura b)))
    | player aura =>
      exact .inl (within_player_switchOff (R := Fewer)
        (fun _ _ hbare => fewer_of_listening (listening_eq_of_bare hbare)) fewer_unsubscribe aura b)

lemma ListenersFit.step {kind : Move → Prop} {b b' : Board} (h : ListenersFit b)
    (hstep : Step kind b b') : ListenersFit b' := by
  have hwell : WellFormed (outline b') := by
    rcases outline_step hstep with hsame | ⟨move, rfl⟩
    · rw [hsame]
      exact h.wellFormed
    · exact wellFormed_step move b h.wellFormed
  rcases listening_of_step h.wellFormed hstep with hfewer | ⟨surface, event, listener, hgained⟩
  · exact h.of_fewer hwell hfewer
  · exact h.of_gained hwell hgained

lemma ListenersFit.develops {b b' : Board} (h : ListenersFit b) (hdev : Develops b b') :
    ListenersFit b' :=
  hdev.preserves (fun _ _ hstep hb => hb.step hstep) h

lemma nextListener_step {kind : Move → Prop} {b b' : Board} (h : WellFormed (outline b))
    (hstep : Step kind b b') : b.nextListener ≤ b'.nextListener := by
  rcases listening_of_step h hstep with hfewer | ⟨surface, event, listener, hgained⟩
  · exact hfewer.next_eq.ge
  · rw [hgained.next_eq]
    exact Nat.le_succ _

lemma ListenersFit.nextListener_le {b b' : Board} (h : ListenersFit b) (hdev : Develops b b') :
    b.nextListener ≤ b'.nextListener := by
  induction hdev with
  | refl => exact le_rfl
  | tail hfirst hlast ih =>
    exact ih.trans (nextListener_step (h.develops hfirst).wellFormed hlast)

lemma ListenersFit.mem_of_develops {b b' : Board} (h : ListenersFit b) (hdev : Develops b b')
    {surface : EntityId} {event : String} {id : ListenerId} {listener : Listener}
    (hlt : id.raw < b.nextListener) (hmem : (id, listener) ∈ listenersAt b' surface event) :
    (id, listener) ∈ listenersAt b surface event := by
  induction hdev using Relation.ReflTransGen.head_induction_on with
  | refl => exact hmem
  | head hstep _ ih =>
    have hold := ih (h.step hstep) (lt_of_lt_of_le hlt (nextListener_step h.wellFormed hstep))
    rcases listening_of_step h.wellFormed hstep with hfewer | ⟨_, _, _, hgained⟩
    · exact (hfewer.sublist _ _).mem hold
    · rcases hgained.mem_cases hold with hold | ⟨-, -, rfl, -⟩
      · exact hold
      · exact absurd hlt (lt_irrefl _)

end CardEffects.Proofs
