import CardEffects.Proofs.WellFormed

/-!
# Subscriptions over a step

Two moves can add a subscription, the binding of one and the adding of a player aura. The others
leave the subscriptions of a board or drop some of them.
-/

namespace CardEffects.Proofs

/-- The subscriptions of a board, and the number of the next one. -/
def listening (board : Board) : (EntityId → String → List (ListenerId × Listener)) × Nat :=
  (listenersAt board, board.nextListener)

/-- One board has no subscription that the other has not. -/
structure Fewer (b b' : Board) : Prop where
  sublist : ∀ surface event, (listenersAt b' surface event).Sublist (listenersAt b surface event)
  next_eq : b'.nextListener = b.nextListener

lemma fewer_of_listening {b b' : Board} (h : listening b' = listening b) : Fewer b b' where
  sublist surface event := by
    have hl : listenersAt b' = listenersAt b := congrArg Prod.fst h
    rw [hl]
  next_eq := congrArg Prod.snd h

lemma Fewer.trans {b b' b'' : Board} (h : Fewer b b') (h' : Fewer b' b'') : Fewer b b'' where
  sublist surface event := (h'.sublist surface event).trans (h.sublist surface event)
  next_eq := h'.next_eq.trans h.next_eq

instance : IsPreorder Board Fewer where
  refl _ := fewer_of_listening rfl
  trans _ _ _ h h' := h.trans h'

/-- One board has the subscriptions of another and a new one, which has the next number. -/
structure Gained (b b' : Board) (surface : EntityId) (event : String) (listener : Listener) :
    Prop where
  lists_eq : ∀ surface' event', listenersAt b' surface' event' = listenersAt b surface' event' ++
    if surface = surface' ∧ event = event' then [(⟨b.nextListener⟩, listener)] else []
  next_eq : b'.nextListener = b.nextListener + 1

lemma Gained.mem_iff {b b' : Board} {surface : EntityId} {event : String} {listener : Listener}
    (h : Gained b b' surface event listener) {surface' : EntityId} {event' : String}
    {id : ListenerId} {other : Listener} : (id, other) ∈ listenersAt b' surface' event' ↔
      (id, other) ∈ listenersAt b surface' event' ∨
        surface = surface' ∧ event = event' ∧ id = ⟨b.nextListener⟩ ∧ other = listener := by
  rw [h.lists_eq, List.mem_append]
  refine or_congr_right ?_
  split
  · next hplace => simp [hplace]
  · next hplace => exact iff_of_false (by simp) fun hnew => hplace ⟨hnew.1, hnew.2.1⟩

lemma Gained.mem_cases {b b' : Board} {surface : EntityId} {event : String} {listener : Listener}
    (h : Gained b b' surface event listener) {surface' : EntityId} {event' : String}
    {id : ListenerId} {other : Listener} (hmem : (id, other) ∈ listenersAt b' surface' event') :
    (id, other) ∈ listenersAt b surface' event' ∨
      surface = surface' ∧ event = event' ∧ id = ⟨b.nextListener⟩ ∧ other = listener :=
  h.mem_iff.mp hmem

lemma gained_of_subscribed {b b₁ b' : Board} {surface : EntityId} {event : String}
    {listener : Listener} {c : Character} (hc : b₁.character? surface = some c)
    (hfirst : listening b₁ = listening b)
    (hafter : listening b' = listening (subscribed b₁ surface event listener)) :
    Gained b b' surface event listener := by
  have hlists₁ : listenersAt b₁ = listenersAt b := congrArg Prod.fst hfirst
  have hnext₁ : b₁.nextListener = b.nextListener := congrArg Prod.snd hfirst
  have hlists : listenersAt b' = listenersAt (subscribed b₁ surface event listener) :=
    congrArg Prod.fst hafter
  have hnext : b'.nextListener = b₁.nextListener + 1 := congrArg Prod.snd hafter
  refine ⟨fun surface' event' => ?_, hnext.trans (by rw [hnext₁])⟩
  rw [hlists, listenersAt_subscribed hc, hlists₁, hnext₁]

lemma listenersAt_new {settings : Settings} {b : Board} (h : Board.new settings = .ok b)
    (surface : EntityId) (event : String) : listenersAt b surface event = [] := by
  obtain ⟨players, rfl, hvalues, -⟩ := new_eq h
  unfold listenersAt Board.character?
  split
  · next seat hseat =>
    simp only [PerPlayer.get?, hvalues, List.getElem?_map]
    cases (PlayerId.all settings.playerCount)[seat.index]? <;> rfl
  · rfl

lemma listening_eq_of_bare {b b' : Board} (h : bare b' = bare b) : listening b' = listening b := by
  have hl : listenersAt b' = listenersAt b :=
    funext fun surface => funext fun event => listenersAt_eq_of_bare h surface event
  unfold listening
  rw [hl, nextListener_eq_of_bare h]

lemma listening_modifyCharacter (board : Board) (entity : EntityId) {f : Character → Character}
    (h : ∀ c, (f c).listeners = c.listeners) :
    listening (board.modifyCharacter entity f) = listening board := by
  have hl : listenersAt (board.modifyCharacter entity f) = listenersAt board :=
    funext fun surface => funext fun event =>
      listenersAt_modifyCharacter board entity h surface event
  unfold listening
  rw [hl, nextListener_modifyCharacter]

lemma listening_eq_of_character? {b b' : Board} (h : b'.character? = b.character?)
    (hnext : b'.nextListener = b.nextListener) : listening b' = listening b := by
  unfold listening
  rw [listenersAt_eq_of_character? h, hnext]

lemma listening_deregistered (b : Board) (id : AuraId) (holder : PlayerId) :
    listening (deregistered b id holder) = listening b :=
  listening_eq_of_character? (character?_deregistered b id holder) rfl

lemma listening_registered (b : Board) (slot : Slot) (aura : Aura) :
    listening (registered b slot aura) = listening b :=
  listening_eq_of_character? (character?_registered b slot aura) rfl

lemma Released.fewer {b b' : Board} {surface : EntityId} {event : String} {id : ListenerId}
    (h : Released b b' surface event id) : Fewer b b' where
  sublist surface' event' := by
    rw [h.listeners_eq]
    split
    · exact List.eraseP_sublist
    · exact List.Sublist.refl _
  next_eq := h.nextListener_eq

lemma fewer_unsubscribe (surface : EntityId) (event : String) (id : ListenerId) (b : Board) :
    Fewer b (leftBy (Board.unsubscribe surface event id) b) := by
  rcases unsubscribe_outcome surface event id b with ⟨-, b', hrun, hreleased⟩ | ⟨-, fault, -, hrun⟩
  · rw [leftBy_of_ok hrun]
    exact hreleased.fewer
  · rw [leftBy_of_error hrun]
    exact fewer_of_listening rfl

/-- Removing a player aura fails on its owner, or comes down to releasing the subscription to its
ending. -/
lemma removeAura_player_outcome {b : Board} (h : WellFormed (outline b)) {id : AuraId} {slot : Slot}
    {aura : PlayerAura} (hget : Table.get? b.auras id = some { slot, aura := .player aura }) :
    ∃ binding, aura.active = some (slot, binding) ∧
      (¬Bears b slot.owner (fun key => -delta aura.change key) ∧
          (∃ fault b', Board.removeAura id b = .error fault b' ∧ listening b' = listening b ∧
            Blames b slot.owner fault) ∨
        Bears b slot.owner (fun key => -delta aura.change key) ∧
          ∃ b₁, listening b₁ = listening b ∧
            outline b₁ = { outline b with auras := Table.erase b.auras id } ∧
            Board.removeAura id b =
              Board.unsubscribe binding.surface binding.event binding.listener b₁) := by
  obtain ⟨binding, hactive, hevent⟩ := (h.fits id _ hget).player aura rfl
  have hrun : Board.removeAura id b = aura.switchOff (deregistered b id slot.holder) := by
    rw [removeAura_run]
    simp only [hget]
    rfl
  have hlistening := listening_deregistered b id slot.holder
  rw [hrun, ← bears_deregistered b id slot.holder]
  refine ⟨binding, hactive, ?_⟩
  rcases player_switchOff_outcome hactive hevent (deregistered b id slot.holder) with
    ⟨hno, fault, b', herror, hshift, hblames⟩ | ⟨hbears, b₁, hshift, hrest⟩
  · refine .inl ⟨hno, fault, b', herror, (listening_eq_of_bare hshift.bare_eq).trans hlistening, ?_⟩
    unfold Blames at *
    rwa [contains_eq_of_character? (character?_deregistered b id slot.holder)] at hblames
  · exact .inr ⟨hbears, b₁, (listening_eq_of_bare hshift.bare_eq).trans hlistening,
      hshift.outline_eq.trans (outline_deregistered b id slot.holder), hrest⟩

lemma fewer_removeAura {b : Board} (h : WellFormed (outline b)) (id : AuraId) :
    Fewer b (leftBy (Board.removeAura id) b) := by
  cases hget : Table.get? b.auras id with
  | none =>
    rw [leftBy_removeAura, hget]
    exact fewer_of_listening rfl
  | some active =>
    obtain ⟨slot, aura⟩ := active
    cases aura with
    | minions aura =>
      rw [leftBy_removeAura, hget]
      exact fewer_of_listening ((listening_eq_of_bare (minions_switchOff_bare aura _)).trans
        (listening_deregistered b id slot.holder))
    | player aura =>
      obtain ⟨binding, -, ⟨-, fault, b', herror, hsame, -⟩ | ⟨-, b₁, hfirst, -, hrest⟩⟩ :=
        removeAura_player_outcome h hget
      · rw [leftBy_of_error herror]
        exact fewer_of_listening hsame
      · have hend : leftBy (Board.removeAura id) b =
            leftBy (Board.unsubscribe binding.surface binding.event binding.listener) b₁ := by
          unfold leftBy
          rw [hrest]
        rw [hend]
        exact (fewer_of_listening hfirst).trans (fewer_unsubscribe _ _ _ b₁)

lemma fewer_removeAuras (ids : List AuraId) {b : Board} (h : WellFormed (outline b)) :
    Fewer b (leftBy (Board.removeAuras ids) b) := by
  induction ids generalizing b with
  | nil => exact fewer_of_listening rfl
  | cons id ids ih =>
    have hfirst := fewer_removeAura h id
    have hwell := wellFormed_step (.removeAura id) b h
    exact leftBy_bind_related hfirst fun _ b' hrun => by
      rw [Move.run, leftBy_of_ok hrun] at hwell
      exact ih hwell

lemma listening_refreshAura (id : AuraId) (b : Board) :
    listening (leftBy (Board.refreshAura id) b) = listening b := by
  have hreplaced : ∀ {b₁ : Board} {aura : Aura}, bare b₁ = bare b →
      listening (replaced b₁ id aura) = listening b :=
    fun {b₁ _} hbare => (listening_eq_of_bare hbare : listening b₁ = listening b)
  cases hrun : Board.refreshAura id b with
  | error fault b' =>
    obtain ⟨slot, aura, b₁, -, hbare, rfl⟩ := refreshAura_error hrun
    rw [leftBy_of_error hrun, hreplaced hbare]
  | ok _ b' =>
    rw [leftBy_of_ok hrun]
    rcases refreshAura_ok hrun with
      rfl | ⟨slot, aura, b₁, matched, b₂, -, -, hbare, -, hshift, rfl⟩
    · rfl
    · exact hreplaced (hshift.bare_eq.trans hbare)

/-- Whether an aura is a player aura that is on and has the given subscription for its ending. -/
def HoldsEnding (active : ActiveAura) (surface : EntityId) (event : String) (id : ListenerId) :
    Prop :=
  ∃ player binding, active.aura = .player player ∧
    player.active = some (active.slot, binding) ∧
    binding.surface = surface ∧ binding.event = event ∧ binding.listener = id

lemma HoldsEnding.isActive {active : ActiveAura} {surface : EntityId} {event : String}
    {id : ListenerId} (h : HoldsEnding active surface event id) : active.aura.isActive = true := by
  obtain ⟨player, binding, haura, hactive, -⟩ := h
  simp [haura, Aura.isActive, hactive]

/-- A player aura that is on for a slot and listens on a surface. -/
def withEnding (aura : PlayerAura) (slot : Slot) (surface : EntityId) (board : Board) :
    PlayerAura :=
  { aura with active := some (slot, endingBinding aura slot surface board) }

lemma listening_addAura (holder : PlayerId) (owner : EntityId) (aura : Aura) (b : Board) :
    listening (leftBy (Board.addAura holder owner aura) b) = listening b ∨
    ∃ player surface c b₁, b₁.character? surface = some c ∧ listening b₁ = listening b ∧
      Table.get? (leftBy (Board.addAura holder owner aura) b).auras ⟨b.nextAura⟩ =
        some ⟨nextSlot b holder owner,
          .player (withEnding player (nextSlot b holder owner) surface b₁)⟩ ∧
      listening (leftBy (Board.addAura holder owner aura) b) =
        listening (subscribed b₁ surface player.ending.name
          (endingListener player (nextSlot b holder owner))) := by
  cases hrun : Board.addAura holder owner aura b with
  | error fault b' =>
    rw [leftBy_of_error hrun]
    rcases addAura_error hrun with rfl | hshift
    · exact .inl rfl
    · exact .inl (listening_eq_of_bare (b := numbered b) hshift.bare_eq)
  | ok id b' =>
    obtain ⟨-, -, aura', b₁, hon, rfl⟩ := addAura_ok hrun
    rw [leftBy_of_ok hrun, listening_registered]
    rcases aura_switchOn_ok hon with ⟨m, m', rfl, rfl, hm⟩ | ⟨p, p', rfl, rfl, hp⟩
    · obtain ⟨matched, -, -, hshift⟩ := minions_switchOn_ok hm
      exact .inl (listening_eq_of_bare (b := numbered b) hshift.bare_eq)
    · obtain ⟨b₂, surface, c, hshift, -, hc, rfl, rfl⟩ := player_switchOn_ok hp
      have hfirst : listening b₂ = listening b :=
        listening_eq_of_bare (b := numbered b) hshift.bare_eq
      exact .inr ⟨p, surface, c, b₂, hc, hfirst, Table.get?_insert_self _ _ _, rfl⟩

/-- Whether a move may add a subscription. -/
def Move.Subscribes : Move → Prop
  | .bind _ _ _ | .addAura _ _ _ => True
  | _ => False

lemma fewer_placed {b : Board} (h : WellFormed (outline b)) (player : PlayerId) (index : Nat)
    {minion : Minion} (hminion : minion.body.listeners = { }) :
    Fewer b (placed b player index minion) := by
  refine ⟨fun surface event => ?_, rfl⟩
  have hcount := playerCount_le_nextEntity h
  unfold listenersAt
  by_cases hs : (⟨b.nextEntity⟩ : EntityId) = surface
  · rw [← hs, character?_placed_self b player index minion hcount]
    simp [hminion, Subscriptions.listFor]
  · rw [character?_placed_of_ne b player index minion hs]

lemma fewer_departed {b : Board} (h : WellFormed (outline b)) {id : EntityId} {minion : Minion}
    (hminion : b.minion? id = some minion) : Fewer b (departed b minion.controller id) := by
  refine ⟨fun surface event => ?_, rfl⟩
  unfold listenersAt
  by_cases hs : id = surface
  · rw [← hs, character?_departed_self b _ (playerCount_le_of_minion? h hminion)]
    exact List.nil_sublist _
  · rw [character?_departed_of_ne b _ hs]

lemma fewer_step {move : Move} (hmove : ¬move.Subscribes) {b : Board}
    (h : WellFormed (outline b)) : Fewer b (leftBy move.run b) := by
  cases move with
  | place player spot name attack health =>
    rcases place_step player spot name attack health b with hsame | ⟨index, stats, -, hplaced⟩
    · rw [hsame]
      exact fewer_of_listening rfl
    · rw [hplaced]
      exact fewer_placed h player index rfl
  | leave id =>
    rcases leave_step id b with hsame | ⟨minion, hminion, -, hdeparted⟩
    · rw [hsame]
      exact fewer_of_listening rfl
    · rw [hdeparted]
      exact fewer_departed h hminion
  | write entity key f =>
    rcases write_step entity key f b with hsame | ⟨value, hwritten⟩
    · rw [hsame]
      exact fewer_of_listening rfl
    · rw [hwritten]
      exact fewer_of_listening (listening_modifyCharacter b entity fun _ => rfl)
  | bind surface event listener => exact absurd trivial hmove
  | unbind surface event listener => exact fewer_unsubscribe surface event listener b
  | equip owner f =>
    exact fewer_of_listening
      (listening_modifyCharacter b owner (f := fun c => { c with effects := f c.effects })
        fun _ => rfl)
  | addAura holder owner aura => exact absurd trivial hmove
  | removeAura id => exact fewer_removeAura h id
  | refreshAura id => exact fewer_of_listening (listening_refreshAura id b)
  | spend listener => exact fewer_of_listening rfl
  | enter surface event => exact fewer_of_listening rfl
  | conclude => exact fewer_of_listening rfl
  | passTurn => exact fewer_of_listening rfl

/-- What a move that fits does to subscriptions. A new one that is to end an aura is that of the
aura that the move adds. -/
lemma listening_step {allowed : Aura → Prop} {move : Move} (hfits : move.Fits allowed) {b : Board}
    (h : WellFormed (outline b)) :
    Fewer b (leftBy move.run b) ∨
    ∃ surface event listener, Gained b (leftBy move.run b) surface event listener ∧
      ∀ aura, listener.handler = .endAura aura → aura = ⟨b.nextAura⟩ ∧
        ∃ active, Table.get? (leftBy move.run b).auras aura = some active ∧
          HoldsEnding active surface event ⟨b.nextListener⟩ := by
  by_cases hmove : move.Subscribes
  · cases move with
    | bind surface event listener =>
      have hrun := subscribe_run surface event listener b
      have hleft : leftBy (Move.bind surface event listener).run b =
          leftBy (Board.subscribe surface event listener) b := leftBy_discard _ _
      rw [hleft]
      cases hc : b.character? surface with
      | none =>
        simp only [hc] at hrun
        rw [leftBy_of_error hrun]
        exact .inl (fewer_of_listening rfl)
      | some c =>
        simp only [hc] at hrun
        rw [leftBy_of_ok hrun]
        exact .inr ⟨surface, event, listener, gained_of_subscribed hc rfl rfl,
          fun aura hhandler => absurd hhandler (hfits aura)⟩
    | addAura holder owner aura =>
      have hleft : leftBy (Move.addAura holder owner aura).run b =
          leftBy (Board.addAura holder owner aura) b := leftBy_discard _ _
      rw [hleft]
      rcases listening_addAura holder owner aura b with
        hsame | ⟨player, surface, c, b₁, hc, hfirst, hget, hafter⟩
      · exact .inl (fewer_of_listening hsame)
      · refine .inr ⟨surface, player.ending.name, _, gained_of_subscribed hc hfirst hafter, ?_⟩
        intro aura' hhandler
        cases hhandler
        have hnext : b₁.nextListener = b.nextListener := congrArg Prod.snd hfirst
        refine ⟨rfl, _, hget, withEnding player (nextSlot b holder owner) surface b₁,
          endingBinding player (nextSlot b holder owner) surface b₁, rfl, rfl, rfl, rfl, ?_⟩
        simp [endingBinding, hnext]
    | _ => exact hmove.elim
  · exact .inl (fewer_step hmove h)

/-! ### Numbers -/

/-- What is kept of subscriptions: each list has them in the order in which they were made, no number
stands in two lists, and none is still to be given. -/
structure ListenersFit (b : Board) : Prop where
  wellFormed : WellFormed (outline b)
  ordered : ∀ surface event, (listenersAt b surface event).Pairwise (·.1.raw < ·.1.raw)
  lt_next : ∀ {surface event id listener}, (id, listener) ∈ listenersAt b surface event →
    id.raw < b.nextListener
  place_eq : ∀ {surface event surface' event' id listener listener'},
    (id, listener) ∈ listenersAt b surface event →
      (id, listener') ∈ listenersAt b surface' event' → surface = surface' ∧ event = event'

lemma ne_next_of_lt {b : Board} {id : ListenerId} (h : id.raw < b.nextListener) :
    id ≠ ⟨b.nextListener⟩ := by
  rintro rfl
  exact lt_irrefl _ h

lemma ListenersFit.nodup {b : Board} (h : ListenersFit b) (surface : EntityId) (event : String) :
    ((listenersAt b surface event).map (·.1)).Nodup :=
  List.pairwise_map.mpr ((h.ordered surface event).imp fun hlt hsame => (hsame ▸ hlt).false)

lemma ListenersFit.of_fewer {b b' : Board} (h : ListenersFit b)
    (hwell : WellFormed (outline b')) (hfewer : Fewer b b') : ListenersFit b' where
  wellFormed := hwell
  ordered surface event := (h.ordered surface event).sublist (hfewer.sublist surface event)
  lt_next hmem := by
    rw [hfewer.next_eq]
    exact h.lt_next ((hfewer.sublist _ _).mem hmem)
  place_eq hmem hmem' := h.place_eq ((hfewer.sublist _ _).mem hmem) ((hfewer.sublist _ _).mem hmem')

lemma ListenersFit.of_gained {b b' : Board} (h : ListenersFit b)
    (hwell : WellFormed (outline b')) {surface : EntityId} {event : String} {listener : Listener}
    (hgained : Gained b b' surface event listener) : ListenersFit b' where
  wellFormed := hwell
  ordered surface' event' := by
    rw [hgained.lists_eq]
    refine List.pairwise_append.mpr ⟨h.ordered surface' event', by split <;> simp, ?_⟩
    intro entry hentry last hlast
    split at hlast
    · rw [List.mem_singleton.mp hlast]
      exact h.lt_next hentry
    · cases hlast
  lt_next hmem := by
    rw [hgained.next_eq]
    rcases hgained.mem_cases hmem with hold | ⟨-, -, rfl, -⟩
    · exact Nat.lt_succ_of_lt (h.lt_next hold)
    · exact Nat.lt_succ_self _
  place_eq hmem hmem' := by
    rcases hgained.mem_cases hmem with hold | ⟨rfl, rfl, rfl, -⟩ <;>
      rcases hgained.mem_cases hmem' with hold' | ⟨rfl, rfl, hid, -⟩
    · exact h.place_eq hold hold'
    · subst hid
      exact absurd (h.lt_next hold) (lt_irrefl _)
    · exact absurd (h.lt_next hold') (lt_irrefl _)
    · exact ⟨rfl, rfl⟩

lemma listenersFit_new {settings : Settings} {b : Board} (h : Board.new settings = .ok b) :
    ListenersFit b := by
  have hnone := listenersAt_new h
  exact ⟨wellFormed_new h, by simp [hnone], by simp [hnone], by simp [hnone]⟩

end CardEffects.Proofs
