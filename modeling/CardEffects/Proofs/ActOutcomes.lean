import CardEffects.Proofs.Acts

/-!
# Outcomes of acts

What acts come to, one case for each way in which they can change subscriptions and those who keep
them. Every outcome keeps that each keeper has a subscription of its own.
-/

namespace CardEffects.Proofs

/-! ### What every act keeps -/

section Keeping

variable {b b' : Board} {effects : EntityId → List Effect}
  {auras : AuraId → Option (Slot × PlayerAura)}

lemma keeping?_effect (h : upkeep b = (effects, auras)) (owner : EntityId) (index : Nat) :
    keeping? b (.effect owner index) = (effects owner)[index]?.map (effectKeeping owner) := by
  have heffects : effectsOf b = effects := congrArg Prod.fst h
  rw [← heffects]
  rfl

lemma keeping?_aura (h : upkeep b = (effects, auras)) (id : AuraId) :
    keeping? b (.aura id) = (auras id).map fun entry => auraKeeping entry.1 entry.2 := by
  have hauras : playerAura? b = auras := congrArg Prod.snd h
  rw [← hauras]
  rfl

end Keeping

lemma Attached.keeping {b b' : Board} {owner surface : EntityId} {effect : Effect}
    (h : Attached b b' owner surface effect) (keeper : Keeper) (k : Keeping) :
    keeping? b' keeper = some k ↔ keeping? b keeper = some k ∨
      keeper = .effect owner (effectsOf b owner).length ∧
        k = effectKeeping owner (switchedOn b owner surface effect) := by
  cases keeper with
  | aura id =>
    rw [keeping?_aura h.upkeep_eq]
    exact ⟨.inl, fun hor => hor.resolve_right fun hright => by cases hright.1⟩
  | effect owner' index =>
    rw [keeping?_effect h.upkeep_eq]
    by_cases howner : owner' = owner
    · subst howner
      rw [Function.update_self, List.getElem?_append]
      simp only [keeping?, Keeper.effect.injEq, true_and]
      split
      · next hlt =>
        exact ⟨.inl, fun hor => hor.resolve_right fun hright => by omega⟩
      · next hge =>
        have hnone : (effectsOf b owner')[index]? = none := List.getElem?_eq_none (by omega)
        simp only [hnone, Option.map_none, reduceCtorEq, false_or]
        by_cases hindex : index = (effectsOf b owner').length
        · simp [hindex, eq_comm]
        · have hlater : index - (effectsOf b owner').length ≠ 0 := by omega
          simp [hindex, hlater]
    · rw [Function.update_of_ne howner]
      refine ⟨.inl, fun hor => hor.resolve_right fun hright => howner ?_⟩
      exact (Keeper.effect.inj hright.1).1

lemma Added.keeping {b b' : Board} {slot : Slot} {surface : EntityId} {aura : PlayerAura}
    (h : Added b b' slot surface aura) (hfresh : playerAura? b slot.id = none) (keeper : Keeper)
    (k : Keeping) :
    keeping? b' keeper = some k ↔ keeping? b keeper = some k ∨
      keeper = .aura slot.id ∧ k = auraKeeping slot (switchedOnFor b slot surface aura) := by
  cases keeper with
  | effect owner index =>
    rw [keeping?_effect h.upkeep_eq]
    exact ⟨.inl, fun hor => hor.resolve_right fun hright => by cases hright.1⟩
  | aura id =>
    rw [keeping?_aura h.upkeep_eq]
    by_cases hid : id = slot.id
    · subst hid
      simp [keeping?, hfresh, eq_comm]
    · rw [Function.update_of_ne hid]
      refine ⟨.inl, fun hor => hor.resolve_right fun hright => hid ?_⟩
      exact Keeper.aura.inj hright.1

lemma keeping?_detached {b : Board} {owner : EntityId} (keeper : Keeper) (k : Keeping) :
    keeping? (leftBy (Board.detachEffects owner) b) keeper = some k ↔
      keeping? b keeper = some k ∧ ∀ index, keeper ≠ .effect owner index := by
  cases keeper with
  | aura id =>
    rw [keeping?_aura (upkeep_detachEffects b owner)]
    exact ⟨fun hk => ⟨hk, fun index hsame => by cases hsame⟩, And.left⟩
  | effect owner' index =>
    rw [keeping?_effect (upkeep_detachEffects b owner)]
    by_cases howner : owner' = owner
    · subst howner
      simp
    · rw [Function.update_of_ne howner]
      exact ⟨fun hk => ⟨hk, fun i hsame => howner (Keeper.effect.inj hsame).1⟩, And.left⟩

lemma Removed.keeping {b b' : Board} {id : AuraId} (h : Removed b b' id) (keeper : Keeper)
    (k : Keeping) :
    keeping? b' keeper = some k ↔ keeping? b keeper = some k ∧ keeper ≠ .aura id := by
  cases keeper with
  | effect owner index =>
    rw [keeping?_effect h.upkeep_eq]
    exact ⟨fun hk => ⟨hk, fun hsame => by cases hsame⟩, And.left⟩
  | aura id' =>
    rw [keeping?_aura h.upkeep_eq]
    by_cases hid : id' = id
    · subst hid
      simp
    · rw [Function.update_of_ne hid]
      exact ⟨fun hk => ⟨hk, fun hsame => hid (Keeper.aura.inj hsame)⟩, And.left⟩

lemma Attached.on {b b' : Board} {owner surface : EntityId} {effect : Effect}
    (h : Attached b b' owner surface effect) :
    (effectKeeping owner (switchedOn b owner surface effect)).On b' {
      target := owner, surface, event := effect.event.name, listener := ⟨b.nextListener⟩ } := by
  have hk := (h.keeping _ _).mpr (.inr ⟨rfl, rfl⟩)
  have hin : b'.contains owner = true := owner_inPlay h.frame.wellFormed hk
  exact ⟨rfl, rfl, rfl, (surface_eq_of_controller?
    (h.frame.steady _ (inPlay_of_surface h.surface_eq) hin) _).trans h.surface_eq⟩

lemma Added.on {b b' : Board} {slot : Slot} {surface : EntityId} {aura : PlayerAura}
    (h : Added b b' slot surface aura) (hfresh : playerAura? b slot.id = none) :
    (auraKeeping slot (switchedOnFor b slot surface aura)).On b' {
      target := slot.owner, surface, event := aura.ending.name,
      listener := ⟨b.nextListener⟩ } := by
  have hk := (h.keeping hfresh _ _).mpr (.inr ⟨rfl, rfl⟩)
  have hin : b'.contains slot.owner = true := owner_inPlay h.frame.wellFormed hk
  exact ⟨rfl, rfl, rfl, (surface_eq_of_controller?
    (h.frame.steady _ (inPlay_of_surface h.surface_eq) hin) _).trans h.surface_eq⟩

lemma Attached.fits {b b' : Board} {owner surface : EntityId} {effect : Effect}
    (h : Attached b b' owner surface effect) (hfit : KeepersFit b) : KeepersFit b' := by
  refine hfit.of_gained h.frame.wellFormed h.frame.seated h.frame.steady h.gained
    (.effect owner (effectsOf b owner).length) fun keeper k hk => ?_
  rcases (h.keeping keeper k).mp hk with hold | ⟨rfl, rfl⟩
  · exact .inl hold
  · exact .inr ⟨rfl, rfl, h.on⟩

lemma Added.fits {b b' : Board} {slot : Slot} {surface : EntityId} {aura : PlayerAura}
    (h : Added b b' slot surface aura) (hfresh : playerAura? b slot.id = none)
    (hfit : KeepersFit b) : KeepersFit b' := by
  refine hfit.of_gained h.frame.wellFormed h.frame.seated h.frame.steady h.gained (.aura slot.id)
    fun keeper k hk => ?_
  rcases (h.keeping hfresh keeper k).mp hk with hold | ⟨rfl, rfl⟩
  · exact .inl hold
  · exact .inr ⟨rfl, rfl, h.on hfresh⟩

/-! ### Outcomes -/

/-- Whether an act has no part in subscriptions other than those of auras and those of a minion that
leaves. -/
def Act.Plain : Act → Prop
  | .listen _ _ _ | .release _ _ _ | .attach _ _ | .detach _ => False
  | _ => True

/-- What an act comes to on a board. -/
inductive Outcome (b : Board) : Act → Board → Prop where
  | failed {act : Act} {fault : Fault} (hrun : act.run b = .error fault b)
      (hkeeps : ∀ owner, act ≠ .detach owner) : Outcome b act b
  | idle {act : Act} {b' : Board} (hplain : act.Plain) (hidle : Idle b b') : Outcome b act b'
  | left {id : EntityId} {b' : Board} (hleft : Left b b' id) : Outcome b (.leave id) b'
  | listened {surface : EntityId} {event : String} {listener : Listener} {b' : Board}
      (hrun : (Act.listen surface event listener).run b = .ok () b')
      (hin : b.contains surface = true) (hframe : Frame b b')
      (hgained : Gained b b' surface event listener) (hupkeep : upkeep b' = upkeep b) :
      Outcome b (.listen surface event listener) b'
  | released {surface : EntityId} {event : String} {id : ListenerId} {b' : Board}
      (hrun : (Act.release surface event id).run b = .ok () b')
      (hbound : b.isBound surface event id = true) (hframe : Frame b b')
      (hfreed : Freed b b' [id]) (hupkeep : upkeep b' = upkeep b) :
      Outcome b (.release surface event id) b'
  | attached {owner surface : EntityId} {effect : Effect} {b' : Board}
      (hrun : (Act.attach owner effect).run b = .ok () b')
      (hattached : Attached b b' owner surface effect) : Outcome b (.attach owner effect) b'
  | detached {owner : EntityId} {b' : Board}
      (hleft : leftBy (Board.detachEffects owner) b = b') : Outcome b (.detach owner) b'
  | added {holder : PlayerId} {owner surface : EntityId} {aura : Aura} {player : PlayerAura}
      {b' : Board} (hadded : Added b b' (nextSlot b holder owner) surface player) :
      Outcome b (.addAura holder owner aura) b'
  | removed {id : AuraId} {slot : Slot} {aura : PlayerAura} {b' : Board}
      (hleft : leftBy (Board.removeAura id) b = b')
      (hget : playerAura? b id = some (slot, aura)) : Outcome b (.removeAura id) b'

theorem KeepersFit.outcome {b : Board} (h : KeepersFit b) (act : Act) :
    Outcome b act (leftBy act.run b) := by
  cases act with
  | quiet change hquiet => exact .idle trivial (h.idle_quiet (hquiet b))
  | place player spot name attack health => exact .idle trivial (idle_place h _ _ _ _ _)
  | leave id =>
    rcases leave_cases h id with hsame | hleft
    · rw [hsame]
      exact .idle trivial h.idle_self
    · exact .left hleft
  | listen surface event listener =>
    rcases listen_cases h surface event listener with
      ⟨fault, hrun⟩ | ⟨b', hrun, hin, hframe, hgained, hupkeep⟩
    · have hact : (Act.listen surface event listener).run b = .error fault b := by
        simp [Act.run, hrun]
      rw [leftBy_of_error hact]
      exact .failed hact (by simp)
    · have hact : (Act.listen surface event listener).run b = .ok () b' := by simp [Act.run, hrun]
      rw [leftBy_of_ok hact]
      exact .listened hact hin hframe hgained hupkeep
  | release surface event id =>
    rcases release_cases h surface event id with
      ⟨fault, hrun⟩ | ⟨b', hrun, hbound, hframe, hfreed, hupkeep⟩
    · rw [Act.run, leftBy_of_error hrun]
      exact .failed hrun (by simp)
    · rw [Act.run, leftBy_of_ok hrun]
      exact .released hrun hbound hframe hfreed hupkeep
  | attach owner effect =>
    rcases attach_cases h owner effect with ⟨fault, hrun⟩ | ⟨surface, b', hrun, hattached⟩
    · rw [Act.run, leftBy_of_error hrun]
      exact .failed hrun (by simp)
    · rw [Act.run, leftBy_of_ok hrun]
      exact .attached hrun hattached
  | detach owner => exact .detached (leftBy_discard _ _).symm
  | addAura holder owner aura =>
    simp only [Act.run, leftBy_discard]
    rcases addAura_cases h holder owner aura with hidle | ⟨player, surface, b', hrun, hadded⟩
    · exact .idle trivial hidle
    · rw [leftBy_of_ok hrun]
      exact .added hadded
  | removeAura id =>
    cases hget : playerAura? b id with
    | none => exact .idle trivial (idle_removeAura h hget)
    | some entry => exact .removed rfl hget

lemma Frame.fits_of_fewer {b b' : Board} (h : Frame b b') (hfit : KeepersFit b)
    (hfewer : Fewer b b')
    (hkeep : ∀ keeper k, keeping? b' keeper = some k → keeping? b keeper = some k) :
    KeepersFit b' :=
  hfit.of_fewer h.wellFormed h.seated h.steady hfewer hkeep

theorem KeepersFit.act {b b' : Board} (h : KeepersFit b) {act : Act} (hout : Outcome b act b') :
    KeepersFit b' := by
  cases hout with
  | failed hrun hkeeps => exact h
  | idle hplain hidle => exact h.of_idle hidle
  | left hleft =>
    refine h.of_fewer hleft.wellFormed hleft.seated hleft.steady hleft.fewer fun keeper k hk => ?_
    rwa [keeping?_eq_of_upkeep hleft.upkeep_eq] at hk
  | listened hrun hin hframe hgained hupkeep =>
    refine h.of_gained hframe.wellFormed hframe.seated hframe.steady hgained (.aura ⟨0⟩)
      fun keeper k hk => .inl ?_
    rwa [keeping?_eq_of_upkeep hupkeep] at hk
  | released hrun hbound hframe hfreed hupkeep =>
    refine hframe.fits_of_fewer h hfreed.fewer fun keeper k hk => ?_
    rwa [keeping?_eq_of_upkeep hupkeep] at hk
  | attached hrun hattached => exact hattached.fits h
  | detached hleft =>
    subst hleft
    obtain ⟨gone, hfreed, -⟩ := detach_freed h _
    exact (detach_frame h _).fits_of_fewer h hfreed.fewer fun keeper k hk =>
      ((keeping?_detached keeper k).mp hk).1
  | added hadded => exact hadded.fits (playerAura?_fresh h) h
  | removed hleft hget =>
    subst hleft
    exact (removed h _).frame.fits_of_fewer h (removed h _).fewer fun keeper k hk =>
      (((removed h _).keeping keeper k).mp hk).1

/-- At every moment each keeper has a subscription of its own. -/
theorem keepersFit_enact {b : Board} (h : KeepersFit b) (acts : List Act) :
    KeepersFit (enact b acts) := by
  induction acts generalizing b with
  | nil => exact h
  | cons act acts ih => exact ih (h.act (h.outcome act))

lemma keeping?_of_outcome {b b' : Board} (h : KeepersFit b) {act : Act} (hout : Outcome b act b')
    {keeper : Keeper} {k : Keeping} (hk : keeping? b' keeper = some k) :
    keeping? b keeper = some k ∨
      ∃ binding, k.binding = some binding ∧ binding.listener = ⟨b.nextListener⟩ := by
  cases hout with
  | failed hrun hkeeps => exact .inl hk
  | idle hplain hidle => exact .inl (keeping?_eq_of_upkeep hidle.upkeep_eq ▸ hk)
  | left hleft => exact .inl (keeping?_eq_of_upkeep hleft.upkeep_eq ▸ hk)
  | listened hrun hin hframe hgained hupkeep => exact .inl (keeping?_eq_of_upkeep hupkeep ▸ hk)
  | released hrun hbound hframe hfreed hupkeep => exact .inl (keeping?_eq_of_upkeep hupkeep ▸ hk)
  | attached hrun hattached =>
    rcases (hattached.keeping keeper k).mp hk with hold | ⟨-, rfl⟩
    · exact .inl hold
    · exact .inr ⟨_, hattached.on.binding_eq, rfl⟩
  | detached hleft =>
    subst hleft
    exact .inl ((keeping?_detached keeper k).mp hk).1
  | added hadded =>
    rcases (hadded.keeping (playerAura?_fresh h) keeper k).mp hk with hold | ⟨-, rfl⟩
    · exact .inl hold
    · exact .inr ⟨_, (hadded.on (playerAura?_fresh h)).binding_eq, rfl⟩
  | removed hleft hget =>
    subst hleft
    exact .inl (((removed h _).keeping keeper k).mp hk).1

/-- An act makes at most one subscription, which has the next number, or drops some. -/
lemma listening_of_outcome {b b' : Board} (h : KeepersFit b) {act : Act}
    (hout : Outcome b act b') :
    Fewer b b' ∨ ∃ surface event listener, Gained b b' surface event listener := by
  cases hout with
  | failed hrun hkeeps => exact .inl (fewer_of_listening rfl)
  | idle hplain hidle => exact .inl (fewer_of_listening hidle.listening_eq)
  | left hleft => exact .inl hleft.fewer
  | listened hrun hin hframe hgained hupkeep => exact .inr ⟨_, _, _, hgained⟩
  | released hrun hbound hframe hfreed hupkeep => exact .inl hfreed.fewer
  | attached hrun hattached => exact .inr ⟨_, _, _, hattached.gained⟩
  | detached hleft =>
    subst hleft
    obtain ⟨gone, hfreed, -⟩ := detach_freed h _
    exact .inl hfreed.fewer
  | added hadded => exact .inr ⟨_, _, _, hadded.gained⟩
  | removed hleft hget =>
    subst hleft
    exact .inl (removed h _).fewer

lemma nextListener_le_of_outcome {b b' : Board} (h : KeepersFit b) {act : Act}
    (hout : Outcome b act b') : b.nextListener ≤ b'.nextListener := by
  rcases listening_of_outcome h hout with hfewer | ⟨_, _, _, hgained⟩
  · exact hfewer.next_eq.ge
  · rw [hgained.next_eq]
    exact Nat.le_succ _

lemma keepersFit_start {σ : Type} {settings : Settings} {host : σ} {game : Game σ}
    (hnew : Game.new settings host = .ok game) : KeepersFit game.board := by
  have hseated := seated_new hnew
  exact keepersFit_new (board_new hnew) (hseated.playerCount_eq ▸ hseated)

end CardEffects.Proofs
