import CardEffects.Proofs.QuietChanges

/-!
# Acts

An act is something that is done to a board at one go and that has or may have a part in its
subscriptions. What each act does to subscriptions and to those who keep them is said once here.
-/

namespace CardEffects.Proofs

/-- Something that is done to a board at one go. -/
inductive Act where
  /-- A change that has no part in subscriptions and in who is in play. -/
  | quiet (change : BoardM Unit) (hquiet : Within Quiet change)
  | place (player : PlayerId) (spot : Option Nat) (name : String) (attack health : Amount)
  | leave (minion : EntityId)
  /-- Subscribe by oneself, and not by attaching an effect or adding an aura. -/
  | listen (surface : EntityId) (event : String) (listener : Listener)
  /-- Release a subscription by oneself. -/
  | release (surface : EntityId) (event : String) (listener : ListenerId)
  | attach (owner : EntityId) (effect : Effect)
  | detach (owner : EntityId)
  | addAura (holder : PlayerId) (owner : EntityId) (aura : Aura)
  | removeAura (aura : AuraId)

/-- Do an act. A minion that has effects or owns auras does not leave. -/
def Act.run : Act → BoardM Unit
  | .quiet change _ => change
  | .place player spot name attack health =>
    discard (Board.placeMinion player spot name attack health)
  | .leave minion => do
    if (effectsOf (← get) minion).isEmpty then
      Move.run (.leave minion)
  | .listen surface event listener => discard (Board.subscribe surface event listener)
  | .release surface event listener => Board.unsubscribe surface event listener
  | .attach owner effect => Board.attachEffect owner effect
  | .detach owner => discard (Board.detachEffects owner)
  | .addAura holder owner aura => discard (Board.addAura holder owner aura)
  | .removeAura aura => Board.removeAura aura

/-- The board after some acts, of which any may end in a fault. -/
def enact (board : Board) (acts : List Act) : Board :=
  acts.foldl (fun board act => leftBy act.run board) board

@[simp] lemma enact_nil (board : Board) : enact board [] = board := rfl

@[simp] lemma enact_cons (board : Board) (act : Act) (acts : List Act) :
    enact board (act :: acts) = enact (leftBy act.run board) acts := rfl

lemma enact_append (board : Board) (acts acts' : List Act) :
    enact board (acts ++ acts') = enact (enact board acts) acts' :=
  List.foldl_append ..

lemma enact_concat (board : Board) (acts : List Act) (act : Act) :
    enact board (acts ++ [act]) = leftBy act.run (enact board acts) :=
  enact_append ..

/-- Whether some of the acts has a property on the board that it was done on. -/
def Past (P : Board → Act → Prop) (start : Board) (acts : List Act) : Prop :=
  ∃ before act after, acts = before ++ act :: after ∧ P (enact start before) act

lemma past_concat {P : Board → Act → Prop} (start : Board) (acts : List Act) (act : Act) :
    Past P start (acts ++ [act]) ↔ Past P start acts ∨ P (enact start acts) act :=
  exists_split_concat (Q := fun before act => P (enact start before) act) acts act

lemma not_past_nil {P : Board → Act → Prop} (start : Board) : ¬Past P start [] := by
  rintro ⟨before, act, after, hacts, -⟩
  simp at hacts

/-! ### What acts leave alone -/

/-- Everybody who was in play still is, for the same player. -/
structure Frame (b b' : Board) : Prop where
  wellFormed : WellFormed (outline b')
  seated : Seated b.playerCount (outline b')
  steady : Steady b b'
  next_le : b.nextEntity ≤ b'.nextEntity
  contains_eq : ∀ entity, entity.raw < b.nextEntity → b'.contains entity = b.contains entity

/-- Nothing has happened to subscriptions and to those who keep them. -/
structure Idle (b b' : Board) : Prop extends Frame b b' where
  listening_eq : listening b' = listening b
  upkeep_eq : upkeep b' = upkeep b

section Frames

variable {b b' : Board} (h : KeepersFit b)

include h

lemma KeepersFit.frame_of_seating (hwell : WellFormed (outline b'))
    (hseating : seating b' = seating b) : Frame b b' where
  wellFormed := hwell
  seated := h.seated.of_seating hseating
  steady := steady_of_seating hseating
  next_le := by
    have hnext : b'.nextEntity = b.nextEntity := congrArg (·.2.2) hseating
    exact hnext.ge
  contains_eq entity _ := by rw [contains_eq_of_seating hseating]

lemma KeepersFit.frame_of_outline (houtline : outline b' = outline b) : Frame b b' :=
  h.frame_of_seating (houtline ▸ h.wellFormed) (seating_eq_of_outline houtline)

lemma KeepersFit.idle_self : Idle b b :=
  ⟨h.frame_of_outline rfl, rfl, rfl⟩

lemma KeepersFit.idle_quiet (hquiet : Quiet b b') : Idle b b' :=
  ⟨h.frame_of_seating (h.wellFormed.develops hquiet.develops) hquiet.seating_eq,
    hquiet.listening_eq, hquiet.upkeep_eq⟩

lemma KeepersFit.of_idle (hidle : Idle b b') : KeepersFit b' := by
  refine h.of_fewer hidle.wellFormed hidle.seated hidle.steady
    (fewer_of_listening hidle.listening_eq) fun keeper k hk => ?_
  rwa [keeping?_eq_of_upkeep hidle.upkeep_eq] at hk

end Frames

/-! ### Minions -/

lemma idle_placed {b : Board} (h : KeepersFit b) (minion : Minion) {index : Nat} {seat : Player}
    (hseat : b.players.get? minion.controller = some seat) (hindex : index ≤ seat.minions.length)
    (hlisteners : minion.body.listeners = { }) (heffects : minion.body.effects = []) :
    Idle b (placed b minion.controller index minion) := by
  have hnew : b.character? ⟨b.nextEntity⟩ = none := by
    refine character?_eq_none ?_
    by_contra hin
    exact lt_irrefl _ (number_lt_of_contains h.wellFormed (by simpa using hin))
  have hself := character?_placed_self b minion.controller index minion
    (playerCount_le_nextEntity h.wellFormed)
  have hother := fun entity =>
    @character?_placed_of_ne b minion.controller index minion entity
  refine ⟨⟨?_, h.seated.placed hseat hindex, steady_placed h.wellFormed _ _ _, Nat.le_succ _,
    fun entity hlt => ?_⟩, ?_, ?_⟩
  · rw [outline_placed]
    exact h.wellFormed.place_minion minion.controller.index index
  · have hne : (⟨b.nextEntity⟩ : EntityId) ≠ entity := by
      rintro rfl
      exact lt_irrefl _ hlt
    rw [← character?_isSome, ← character?_isSome, hother entity hne]
  · have hlists : listenersAt (placed b minion.controller index minion) = listenersAt b := by
      funext surface event
      unfold listenersAt
      by_cases hs : (⟨b.nextEntity⟩ : EntityId) = surface
      · rw [← hs, hself, hnew]
        simp [hlisteners, Subscriptions.listFor]
      · rw [hother surface hs]
    exact congrArg (·, b.nextListener) hlists
  · have hsame : effectsOf (placed b minion.controller index minion) = effectsOf b := by
      funext entity
      unfold effectsOf
      by_cases he : (⟨b.nextEntity⟩ : EntityId) = entity
      · rw [← he, hself, hnew]
        simp [heffects]
      · rw [hother entity he]
    exact congrArg (·, playerAura? b) hsame

lemma idle_place {b : Board} (h : KeepersFit b) (player : PlayerId) (spot : Option Nat)
    (name : String) (attack health : Amount) :
    Idle b (leftBy (Act.place player spot name attack health).run b) := by
  change Idle b (leftBy (Move.place player spot name attack health).run b)
  rcases place_step player spot name attack health b with
    hsame | ⟨index, stats, ⟨seat, hseat, hindex⟩, hplaced⟩
  · rw [hsame]
    exact h.idle_self
  · rw [hplaced]
    exact idle_placed h { name, controller := player, body := { stats } } hseat hindex rfl rfl

/-- Who leaves takes along the subscriptions on the own surface, and has no others. -/
structure Left (b b' : Board) (id : EntityId) : Prop where
  wellFormed : WellFormed (outline b')
  seated : Seated b.playerCount (outline b')
  steady : Steady b b'
  minion : b.isMinion id = true
  effects_eq : effectsOf b id = []
  auras_eq : b.aurasOwnedBy id = []
  next_eq : b'.nextEntity = b.nextEntity
  contains_eq : ∀ entity, b'.contains entity = if entity = id then false else b.contains entity
  lists_eq : ∀ surface event,
    listenersAt b' surface event = if surface = id then [] else listenersAt b surface event
  nextListener_eq : b'.nextListener = b.nextListener
  upkeep_eq : upkeep b' = upkeep b

lemma leave_cases {b : Board} (h : KeepersFit b) (id : EntityId) :
    leftBy (Act.leave id).run b = b ∨ Left b (leftBy (Act.leave id).run b) id := by
  have hwell := wellFormed_step (.leave id) b h.wellFormed
  by_cases heffects : effectsOf b id = []
  swap
  · exact .inl (by simp [leftBy, Act.run, heffects])
  have hsame : leftBy (Act.leave id).run b = leftBy (Move.leave id).run b := by
    simp [leftBy, Act.run, heffects]
  rw [hsame]
  rcases leave_step id b with hstays | ⟨minion, hminion, howns, hdeparted⟩
  · exact .inl hstays
  rw [hdeparted] at hwell ⊢
  have hself := character?_departed_self b minion.controller
    (playerCount_le_of_minion? h.wellFormed hminion)
  have hother := fun entity => @character?_departed_of_ne b minion.controller id entity
  refine .inr ⟨hwell, h.seated.departed _ _, steady_departed h.wellFormed hminion,
    by simp [Board.isMinion, hminion], heffects, howns, rfl, fun entity => ?_,
    fun surface event => ?_, rfl, ?_⟩
  · rw [← character?_isSome, ← character?_isSome]
    split
    · next he => rw [he, hself]; rfl
    · next he => rw [hother entity (Ne.symm he)]
  · unfold listenersAt
    split
    · next hs => rw [hs, hself]; rfl
    · next hs => rw [hother surface (Ne.symm hs)]
  · refine Prod.ext (funext fun entity => ?_) rfl
    change effectsOf _ entity = effectsOf b entity
    by_cases he : entity = id
    · rw [he, heffects]
      simp [effectsOf, hself]
    · unfold effectsOf
      rw [hother entity (Ne.symm he)]

lemma Left.fewer {b b' : Board} {id : EntityId} (h : Left b b' id) : Fewer b b' where
  sublist surface event := by
    rw [h.lists_eq]
    split
    · exact List.nil_sublist _
    · exact List.Sublist.refl _
  next_eq := h.nextListener_eq

lemma Left.surface_ne {b b' : Board} {id : EntityId} (h : Left b b' id) (hfit : KeepersFit b)
    {keeper : Keeper} {k : Keeping} (hk : keeping? b keeper = some k) {binding : Binding}
    (hon : k.On b binding) : binding.surface ≠ id := by
  have howner : k.owner ≠ id := by
    cases keeper with
    | effect owner index =>
      obtain ⟨effect, hget, rfl⟩ := Option.map_eq_some_iff.mp hk
      rintro rfl
      change (effectsOf b owner)[index]? = some effect at hget
      have hnone : effectsOf b owner = [] := h.effects_eq
      simp [hnone] at hget
    | aura aura =>
      obtain ⟨⟨slot, player⟩, hget, rfl⟩ := Option.map_eq_some_iff.mp hk
      exact owner_ne_of_owns_nothing h.auras_eq (playerAura?_eq_some.mp hget)
  rcases surface_cases hon.surface_eq with hself | ⟨player, hcontroller, hhero⟩
  · exact hself ▸ howner
  · rw [hhero]
    rintro rfl
    obtain ⟨minion, hminion⟩ := Option.isSome_iff_exists.mp h.minion
    have hlt : player.index < b.playerCount := hfit.seated.controller_lt hcontroller
    exact absurd (playerCount_le_of_minion? hfit.wellFormed hminion) (not_le.mpr hlt)

/-! ### Subscribing and releasing by oneself -/

lemma listen_cases {b : Board} (h : KeepersFit b) (surface : EntityId) (event : String)
    (listener : Listener) :
    (∃ fault, Board.subscribe surface event listener b = .error fault b) ∨
    ∃ b', Board.subscribe surface event listener b = .ok ⟨b.nextListener⟩ b' ∧
      b.contains surface = true ∧ Frame b b' ∧ Gained b b' surface event listener ∧
        upkeep b' = upkeep b := by
  rw [subscribe_run]
  cases hc : b.character? surface with
  | none => exact .inl ⟨_, rfl⟩
  | some c =>
    refine .inr ⟨_, rfl, by rw [← character?_isSome, hc]; rfl, ?_,
      gained_of_subscribed hc rfl rfl, upkeep_subscribed b surface event listener⟩
    exact h.frame_of_outline (outline_eq_of_standing (standing_subscribed b surface event listener))

lemma release_cases {b : Board} (h : KeepersFit b) (surface : EntityId) (event : String)
    (id : ListenerId) :
    (∃ fault, Board.unsubscribe surface event id b = .error fault b) ∨
    ∃ b', Board.unsubscribe surface event id b = .ok () b' ∧
      b.isBound surface event id = true ∧ Frame b b' ∧ Freed b b' [id] ∧
        upkeep b' = upkeep b := by
  rcases unsubscribe_cases h.toListenersFit surface event id with
    ⟨hbound, b', hrun, hfreed⟩ | ⟨-, hfault⟩
  · have hstanding := within_standing_unsubscribe surface event id b
    have hupkeep := upkeep_unsubscribe surface event id b
    rw [leftBy_of_ok hrun] at hstanding hupkeep
    exact .inr ⟨b', hrun, hbound, h.frame_of_outline (outline_eq_of_standing hstanding), hfreed,
      hupkeep⟩
  · exact .inl hfault

/-! ### Effects -/

/-- An effect that is on for an owner, with the next number on a board. -/
def switchedOn (b : Board) (owner surface : EntityId) (effect : Effect) : Effect :=
  { effect with active := some (owner, {
      target := owner, surface, event := effect.event.name, listener := ⟨b.nextListener⟩ }) }

/-- What attaching an effect does: a subscription where the event of the effect has it, kept by the
effect as the last one of its owner. -/
structure Attached (b b' : Board) (owner surface : EntityId) (effect : Effect) : Prop where
  frame : Frame b b'
  surface_eq : effect.event.surface b owner = .ok surface
  gained : Gained b b' surface effect.event.name (effectKeeping owner effect).listener
  upkeep_eq : upkeep b' =
    (Function.update (effectsOf b) owner (effectsOf b owner ++ [switchedOn b owner surface effect]),
      playerAura? b)

lemma attach_cases {b : Board} (h : KeepersFit b) (owner : EntityId) (effect : Effect) :
    (∃ fault, Board.attachEffect owner effect b = .error fault b) ∨
    ∃ surface b', Board.attachEffect owner effect b = .ok () b' ∧
      Attached b b' owner surface effect := by
  unfold Board.attachEffect Board.character Effect.switchOn
  cases hc : b.character? owner with
  | none => exact .inl ⟨.unknownEntity owner, by simp [hc]⟩
  | some c =>
    by_cases hactive : effect.isActive
    · exact .inl ⟨.alreadyActive .effect, by simp [hc, hactive]⟩
    rcases event_subscribe_outcome effect.event owner
      (.trigger owner effect.action effect.targeting) b with
      ⟨surface, c', hsurface, hc', hrun⟩ | ⟨fault, hrun⟩
    swap
    · exact .inl ⟨fault, by simp [hc, hactive, hrun]⟩
    refine .inr ⟨surface, equipped (subscribed b surface effect.event.name
      (effectKeeping owner effect).listener) owner (· ++ [switchedOn b owner surface effect]),
      by simp [hc, hactive, hrun]; rfl, ?_⟩
    have hstanding := standing_subscribed b surface effect.event.name
      (effectKeeping owner effect).listener
    have houtline := outline_eq_of_standing hstanding
    have hin : (subscribed b surface effect.event.name
        (effectKeeping owner effect).listener).contains owner = true := by
      rw [contains_eq_of_outline houtline, ← character?_isSome, hc]
      rfl
    have hupkeep := upkeep_subscribed b surface effect.event.name
      (effectKeeping owner effect).listener
    have heffects := congrArg Prod.fst hupkeep
    have hauras := congrArg Prod.snd hupkeep
    refine ⟨h.frame_of_outline ((outline_modifyCharacter _ _ _).trans houtline), hsurface,
      gained_of_subscribed hc' rfl (listening_modifyCharacter _ _ fun _ => rfl), ?_⟩
    rw [upkeep_equipped _ _ (.inl hin)]
    simp only [upkeep] at heffects hauras
    rw [heffects, hauras]

lemma detach_frame {b : Board} (h : KeepersFit b) (owner : EntityId) :
    Frame b (leftBy (Board.detachEffects owner) b) :=
  h.frame_of_outline (outline_eq_of_standing (within_standing_detachEffects owner b))

lemma detach_freed {b : Board} (h : KeepersFit b) (owner : EntityId) :
    ∃ gone, Freed b (leftBy (Board.detachEffects owner) b) gone ∧
      gone ⊆ (effectsOf b owner).filterMap number? := by
  rcases detachEffects_cases h owner with
    ⟨-, hrun⟩ | ⟨-, -, count, b', hrun, hfreed⟩ |
    ⟨-, before, silent, cut, ⟨hsplit, -⟩, fault, b', hrun, hfreed⟩
  · rw [leftBy_of_error hrun]
    exact ⟨[], .of_listening rfl, List.nil_subset _⟩
  · rw [leftBy_of_ok hrun]
    exact ⟨_, hfreed, List.Subset.refl _⟩
  · rw [leftBy_of_error hrun]
    refine ⟨_, hfreed, ?_⟩
    rw [hsplit, List.filterMap_append]
    exact List.subset_append_left _ _

/-! ### Auras -/

/-- A player aura that is on for a slot, with the next number on a board. -/
def switchedOnFor (b : Board) (slot : Slot) (surface : EntityId) (aura : PlayerAura) : PlayerAura :=
  { aura with active := some (slot, endingBinding aura slot surface b) }

/-- What adding a player aura does: a subscription where its ending has it, kept by the aura. -/
structure Added (b b' : Board) (slot : Slot) (surface : EntityId) (aura : PlayerAura) : Prop where
  frame : Frame b b'
  surface_eq : aura.ending.surface b slot.owner = .ok surface
  gained : Gained b b' surface aura.ending.name (endingListener aura slot)
  upkeep_eq : upkeep b' =
    (effectsOf b,
      Function.update (playerAura? b) slot.id (some (slot, switchedOnFor b slot surface aura)))

lemma upkeep_registered (b : Board) (slot : Slot) (aura : Aura) :
    upkeep (registered b slot aura) =
      (effectsOf b, Function.update (playerAura? b) slot.id (asPlayerAura? { slot, aura })) := by
  refine Prod.ext (funext fun entity => ?_) (funext fun id => ?_)
  · change effectsOf (registered b slot aura) entity = effectsOf b entity
    unfold effectsOf
    rw [character?_registered]
  · change (Table.get? (Table.insert b.auras slot.id { slot, aura }) id).bind asPlayerAura? =
      Function.update (playerAura? b) slot.id (asPlayerAura? { slot, aura }) id
    by_cases hid : slot.id = id
    · subst hid
      rw [Table.get?_insert_self, Function.update_self]
      rfl
    · rw [Table.get?_insert_of_ne _ _ hid, Function.update_of_ne (Ne.symm hid)]
      rfl

lemma playerAura?_fresh {b : Board} (h : KeepersFit b) : playerAura? b ⟨b.nextAura⟩ = none := by
  have hnone : Table.get? b.auras ⟨b.nextAura⟩ = none := h.wellFormed.aura_fresh le_rfl
  simp [playerAura?, hnone]

lemma addAura_cases {b : Board} (h : KeepersFit b) (holder : PlayerId) (owner : EntityId)
    (aura : Aura) :
    Idle b (leftBy (Board.addAura holder owner aura) b) ∨
    ∃ player surface b', Board.addAura holder owner aura b = .ok ⟨b.nextAura⟩ b' ∧
      Added b b' (nextSlot b holder owner) surface player := by
  have hwell := wellFormed_addAura holder owner aura h.wellFormed
  have hseating := seating_step (.addAura holder owner aura) trivial b
  simp only [Move.run, leftBy_discard] at hwell hseating
  have hframe := h.frame_of_seating hwell hseating
  cases hrun : Board.addAura holder owner aura b with
  | error fault b' =>
    rw [leftBy_of_error hrun] at hframe ⊢
    rcases addAura_error hrun with rfl | hshift
    · exact .inl h.idle_self
    · exact .inl ⟨hframe, listening_eq_of_bare (b := numbered b) hshift.bare_eq,
        upkeep_eq_of_bare (b := numbered b) hshift.bare_eq⟩
  | ok id b' =>
    obtain ⟨rfl, -, aura', b₁, hon, rfl⟩ := addAura_ok hrun
    rw [leftBy_of_ok hrun] at hframe ⊢
    rcases aura_switchOn_ok hon with ⟨m, m', rfl, rfl, hm⟩ | ⟨p, p', rfl, rfl, hp⟩
    · obtain ⟨matched, -, -, hshift⟩ := minions_switchOn_ok hm
      have hupkeep : upkeep b₁ = upkeep b :=
        upkeep_eq_of_bare (b := numbered b) hshift.bare_eq
      refine .inl ⟨hframe, (listening_registered _ _ _).trans
        (listening_eq_of_bare (b := numbered b) hshift.bare_eq), Eq.trans ?_ hupkeep⟩
      have hnone : playerAura? b₁ ⟨b.nextAura⟩ = none :=
        (congrFun (congrArg Prod.snd hupkeep) _).trans (playerAura?_fresh h)
      rw [upkeep_registered]
      change (effectsOf b₁, Function.update (playerAura? b₁) ⟨b.nextAura⟩ none) = upkeep b₁
      rw [← hnone, Function.update_eq_self]
      rfl
    · obtain ⟨b₂, surface, c, hshift, hsurface, hc, rfl, rfl⟩ := player_switchOn_ok hp
      have hlistening : listening b₂ = listening b :=
        listening_eq_of_bare (b := numbered b) hshift.bare_eq
      have hnext : b₂.nextListener = b.nextListener := congrArg Prod.snd hlistening
      have hcontroller : ∀ entity, b₂.controller? entity = b.controller? entity := by
        have houtline : outline b₂ = outline (numbered b) := hshift.outline_eq
        intro entity
        rw [controller?_eq, controller?_eq, houtline]
        rfl
      have hupkeep : upkeep (subscribed b₂ surface p.ending.name
          (endingListener p (nextSlot b holder owner))) = upkeep b :=
        (upkeep_subscribed _ _ _ _).trans (upkeep_eq_of_bare (b := numbered b) hshift.bare_eq)
      have heffects := congrArg Prod.fst hupkeep
      have hauras := congrArg Prod.snd hupkeep
      simp only [upkeep] at heffects hauras
      refine .inr ⟨p, surface, _, rfl, hframe, ?_, ?_, ?_⟩
      · rw [← surface_eq_of_controller? (hcontroller _)]
        exact hsurface
      · exact gained_of_subscribed hc hlistening (listening_registered _ _ _)
      · rw [upkeep_registered, heffects, hauras]
        simp [asPlayerAura?, switchedOnFor, endingBinding, hnext]

/-- What removing a player aura does: the aura keeps nothing any more, and the subscription to its
ending is released if all goes well. -/
structure Removed (b b' : Board) (id : AuraId) : Prop where
  frame : Frame b b'
  fewer : Fewer b b'
  upkeep_eq : upkeep b' = (effectsOf b, Function.update (playerAura? b) id none)

lemma upkeep_removeAura (id : AuraId) (b : Board) :
    upkeep (leftBy (Board.removeAura id) b) =
      (effectsOf b, Function.update (playerAura? b) id none) := by
  have hauras : playerAura? (leftBy (Board.removeAura id) b) =
      Function.update (playerAura? b) id none := by
    funext id'
    have herase := auras_removeAura_step id b
    simp only [Move.run] at herase
    by_cases hid : id = id'
    · subst hid
      simp [playerAura?, get?_removeAura]
    · rw [Function.update_of_ne (Ne.symm hid)]
      unfold playerAura?
      rw [herase, Table.get?_erase_of_ne _ hid]
  have heffects : effectsOf (leftBy (Board.removeAura id) b) = effectsOf b := by
    rw [leftBy_removeAura]
    cases hget : Table.get? b.auras id with
    | none => rfl
    | some active =>
      obtain ⟨slot, aura⟩ := active
      have hfirst : effectsOf (deregistered b id slot.holder) = effectsOf b := by
        funext entity
        unfold effectsOf
        rw [character?_deregistered]
      have hoff : upkeep (leftBy aura.switchOff (deregistered b id slot.holder)) =
          upkeep (deregistered b id slot.holder) := by
        cases aura with
        | minions aura => exact upkeep_eq_of_bare (minions_switchOff_bare aura _)
        | player aura =>
          exact within_player_switchOff (R := Same upkeep) (fun _ _ => upkeep_eq_of_bare)
            upkeep_unsubscribe aura _
      exact (congrArg Prod.fst hoff).trans hfirst
  exact Prod.ext heffects hauras

lemma removed {b : Board} (h : KeepersFit b) (id : AuraId) :
    Removed b (leftBy (Board.removeAura id) b) id where
  frame := h.frame_of_seating (wellFormed_step (.removeAura id) b h.wellFormed)
    (seating_step (.removeAura id) trivial b)
  fewer := fewer_removeAura h.wellFormed id
  upkeep_eq := upkeep_removeAura id b

lemma idle_removeAura {b : Board} (h : KeepersFit b) {id : AuraId}
    (hnone : playerAura? b id = none) : Idle b (leftBy (Board.removeAura id) b) := by
  refine ⟨(removed h id).frame, ?_, ?_⟩
  · rw [leftBy_removeAura]
    cases hget : Table.get? b.auras id with
    | none => rfl
    | some active =>
      obtain ⟨slot, aura⟩ := active
      cases aura with
      | player aura =>
        rw [playerAura?_eq_some.mpr hget] at hnone
        cases hnone
      | minions aura =>
        exact (listening_eq_of_bare (minions_switchOff_bare aura _)).trans
          (listening_deregistered b id slot.holder)
  · rw [upkeep_removeAura, ← hnone, Function.update_eq_self]
    rfl

lemma freed_of_removeAura {b b' : Board} (h : KeepersFit b) {id : AuraId} {slot : Slot}
    {aura : PlayerAura} (hget : playerAura? b id = some (slot, aura))
    (hrun : Board.removeAura id b = .ok () b') :
    ∃ binding, (auraKeeping slot aura).binding = some binding ∧
      Freed b b' [binding.listener] := by
  obtain ⟨binding, hactive, ⟨-, fault, b₁, herror, -⟩ | ⟨-, b₁, hlistening, houtline, hrest⟩⟩ :=
    removeAura_player_outcome h.wellFormed (playerAura?_eq_some.mp hget)
  · rw [herror] at hrun
    cases hrun
  · refine ⟨binding, by simp [auraKeeping, hactive], ?_⟩
    have hwell : WellFormed (outline b₁) := houtline ▸ h.wellFormed.erase_aura id
    have hfit := h.toListenersFit.of_fewer hwell (fewer_of_listening hlistening)
    rw [hrest] at hrun
    rcases unsubscribe_cases hfit binding.surface binding.event binding.listener with
      ⟨-, b₂, hok, hfreed⟩ | ⟨-, fault, herror⟩
    · rw [hok] at hrun
      cases hrun
      exact (Freed.of_listening hlistening).trans hfreed
    · rw [herror] at hrun
      cases hrun

end CardEffects.Proofs
