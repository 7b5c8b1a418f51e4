import CardEffects.Proofs.Sides

/-!
# Keepers of subscriptions

An attached effect and a registered player aura each keep the subscription that they made when they
went on. No two of them keep the same one, and what they keep, as long as it is in force, is where
their event has it and does what they are for.
-/

namespace CardEffects.Proofs

/-- The effects that are attached to an entity, oldest first. -/
def effectsOf (board : Board) (owner : EntityId) : List Effect :=
  ((board.character? owner).map (·.effects)).getD []

def asPlayerAura? : ActiveAura → Option (Slot × PlayerAura)
  | { slot, aura := .player aura } => some (slot, aura)
  | { slot := _, aura := .minions _ } => none

/-- The player aura that is registered under a number, with its slot. -/
def playerAura? (board : Board) (id : AuraId) : Option (Slot × PlayerAura) :=
  (Table.get? board.auras id).bind asPlayerAura?

/-- The effects and the player auras of a board. -/
def upkeep (board : Board) :
    (EntityId → List Effect) × (AuraId → Option (Slot × PlayerAura)) :=
  (effectsOf board, playerAura? board)

lemma playerAura?_eq_of_auras {b b' : Board} (h : b'.auras = b.auras) :
    playerAura? b' = playerAura? b := by
  funext id
  unfold playerAura?
  rw [h]

lemma effectsOf_of_character? {b : Board} {owner : EntityId} {c : Character}
    (h : b.character? owner = some c) : effectsOf b owner = c.effects := by
  simp [effectsOf, h]

lemma upkeep_eq_of_bare {b b' : Board} (h : bare b' = bare b) : upkeep b' = upkeep b := by
  have heffects : effectsOf b' = effectsOf b := by
    funext owner
    have hc := congrArg (fun b : Board => ((b.character? owner).map (·.effects)).getD []) h
    simpa [Function.comp_def, bareCharacter, effectsOf] using hc
  unfold upkeep
  rw [heffects, playerAura?_eq_of_auras (auras_eq_of_outline (outline_eq_of_bare h))]

lemma upkeep_modifyCharacter (b : Board) (entity : EntityId) {f : Character → Character}
    (h : ∀ c, (f c).effects = c.effects) : upkeep (b.modifyCharacter entity f) = upkeep b := by
  have heffects : effectsOf (b.modifyCharacter entity f) = effectsOf b := by
    funext owner
    unfold effectsOf
    rw [Board.character?_modifyCharacter]
    by_cases he : entity = owner
    · cases b.character? owner <;> simp [he, h]
    · rw [if_neg he]
  unfold upkeep
  rw [heffects, playerAura?_eq_of_auras (auras_eq_of_outline (outline_modifyCharacter _ _ _))]

lemma upkeep_eq_of_character? {b b' : Board} (h : b'.character? = b.character?)
    (hauras : playerAura? b' = playerAura? b) : upkeep b' = upkeep b := by
  have heffects : effectsOf b' = effectsOf b := by
    funext owner
    unfold effectsOf
    rw [h]
  unfold upkeep
  rw [heffects, hauras]

lemma upkeep_subscribed (b : Board) (surface : EntityId) (event : String) (listener : Listener) :
    upkeep (subscribed b surface event listener) = upkeep b :=
  upkeep_modifyCharacter b surface fun _ => rfl

lemma upkeep_unsubscribe (surface : EntityId) (event : String) (id : ListenerId) :
    Within (Same upkeep) (Board.unsubscribe surface event id) := by
  intro b
  change upkeep _ = upkeep b
  unfold leftBy
  rw [unsubscribe_run]
  cases b.character? surface with
  | none => rfl
  | some c =>
    cases hremove : c.listeners.remove? event id with
    | none => simp [hremove]
    | some listeners =>
      simp only [hremove]
      exact upkeep_modifyCharacter b surface fun _ => rfl

/-- The board with the effects of an owner changed. -/
def equipped (board : Board) (owner : EntityId) (f : List Effect → List Effect) : Board :=
  board.modifyCharacter owner fun c => { c with effects := f c.effects }

lemma upkeep_equipped (b : Board) (owner : EntityId) {f : List Effect → List Effect}
    (h : b.contains owner = true ∨ f [] = []) :
    upkeep (equipped b owner f) =
      (Function.update (effectsOf b) owner (f (effectsOf b owner)), playerAura? b) := by
  refine Prod.ext (funext fun entity => ?_) ?_
  · change effectsOf (equipped b owner f) entity = Function.update (effectsOf b) owner _ entity
    by_cases he : owner = entity
    · subst he
      rw [Function.update_self]
      unfold effectsOf equipped
      rw [Board.character?_modifyCharacter, if_pos rfl]
      rw [← character?_isSome] at h
      cases hc : b.character? owner with
      | none =>
        have hnil : f [] = [] := by simpa [hc] using h
        exact hnil.symm
      | some c => rfl
    · rw [Function.update_of_ne (Ne.symm he)]
      unfold effectsOf equipped
      rw [Board.character?_modifyCharacter, if_neg he]
  · exact playerAura?_eq_of_auras (auras_eq_of_outline (outline_modifyCharacter _ _ _))

/-! ### Who keeps what -/

/-- An effect, by its place among those of its owner, or a player aura, by its number. -/
inductive Keeper where
  | effect (owner : EntityId) (index : Nat)
  | aura (id : AuraId)

/-- What a keeper listens for on behalf of its owner, what it does then, and the subscription it has
made for that. -/
structure Keeping where
  owner : EntityId
  event : Event
  handler : Handler
  binding : Option Binding

def effectKeeping (owner : EntityId) (effect : Effect) : Keeping where
  owner
  event := effect.event
  handler := .trigger owner effect.action effect.targeting
  binding := effect.active.map (·.2)

def auraKeeping (slot : Slot) (aura : PlayerAura) : Keeping where
  owner := slot.owner
  event := aura.ending
  handler := .endAura slot.id
  binding := aura.active.map (·.2)

/-- What a keeper on a board keeps. -/
def keeping? (board : Board) : Keeper → Option Keeping
  | .effect owner index => (effectsOf board owner)[index]?.map (effectKeeping owner)
  | .aura id => (playerAura? board id).map fun entry => auraKeeping entry.1 entry.2

def Keeping.listener (k : Keeping) : Listener where
  gate := k.event.condition.map fun condition => (condition, k.owner)
  handler := k.handler

/-- Whether a subscription is the one of a keeper, on the surface that its event resolves to for its
owner and to the occurrence that the event names. -/
structure Keeping.On (k : Keeping) (b : Board) (binding : Binding) : Prop where
  binding_eq : k.binding = some binding
  target_eq : binding.target = k.owner
  event_eq : binding.event = k.event.name
  surface_eq : k.event.surface b k.owner = .ok binding.surface

lemma keeping?_of_getElem? {b : Board} {owner : EntityId} {index : Nat} {effect : Effect}
    (h : (effectsOf b owner)[index]? = some effect) :
    keeping? b (.effect owner index) = some (effectKeeping owner effect) := by
  simp [keeping?, h]

lemma keeping?_eq_of_upkeep {b b' : Board} (h : upkeep b' = upkeep b) :
    keeping? b' = keeping? b := by
  have heffects : effectsOf b' = effectsOf b := congrArg Prod.fst h
  have hauras : playerAura? b' = playerAura? b := congrArg Prod.snd h
  funext keeper
  cases keeper with
  | effect owner index => simp only [keeping?, heffects]
  | aura id => simp only [keeping?, hauras]

lemma playerAura?_eq_some {b : Board} {id : AuraId} {slot : Slot} {aura : PlayerAura} :
    playerAura? b id = some (slot, aura) ↔
      Table.get? b.auras id = some { slot, aura := .player aura } := by
  unfold playerAura?
  cases hget : Table.get? b.auras id with
  | none => simp
  | some active =>
    obtain ⟨slot', aura' | aura'⟩ := active <;> simp [asPlayerAura?]

lemma inPlay_of_mem_effectsOf {b : Board} {owner : EntityId} {effect : Effect}
    (h : effect ∈ effectsOf b owner) : b.contains owner = true := by
  rw [← character?_isSome]
  cases hc : b.character? owner with
  | none => simp [effectsOf, hc] at h
  | some c => rfl

lemma owner_inPlay {b : Board} (h : WellFormed (outline b)) {keeper : Keeper} {k : Keeping}
    (hk : keeping? b keeper = some k) : b.contains k.owner = true := by
  cases keeper with
  | effect owner index =>
    obtain ⟨effect, hget, rfl⟩ := Option.map_eq_some_iff.mp hk
    exact inPlay_of_mem_effectsOf (List.mem_of_getElem? hget)
  | aura id =>
    obtain ⟨⟨slot, aura⟩, hget, rfl⟩ := Option.map_eq_some_iff.mp hk
    exact (inPlay_outline_iff b slot.owner).mp
      (h.fits id _ (playerAura?_eq_some.mp hget)).owner_inPlay

/-! ### Surfaces that stay -/

lemma controller?_eq (b : Board) (entity : EntityId) :
    b.controller? entity =
      if entity.raw < (outline b).sides.length then some ⟨entity.raw⟩
      else Table.get? (outline b).controllers entity := by
  unfold Board.controller? Board.seat?
  rw [controllers_outline, count_outline]
  split <;> rfl

lemma contains_eq_controller? (b : Board) (entity : EntityId) :
    b.contains entity = (b.controller? entity).isSome := by
  unfold Board.contains Board.controller? Board.isMinion
  cases b.seat? entity <;> simp

/-- Whether those who are in play on two boards have the same controllers on both. -/
def Steady (b b' : Board) : Prop :=
  ∀ entity, b.contains entity = true → b'.contains entity = true →
    b'.controller? entity = b.controller? entity

lemma Steady.symm {b b' : Board} (h : Steady b b') : Steady b' b :=
  fun entity hin hin' => (h entity hin' hin).symm

lemma steady_of_seating {b b' : Board} (h : seating b' = seating b) : Steady b b' := by
  have hsides : (outline b').sides = (outline b).sides := congrArg (·.1) h
  have hcontrollers : (outline b').controllers = (outline b).controllers := congrArg (·.2.1) h
  intro entity _ _
  rw [controller?_eq, controller?_eq, hsides, hcontrollers]

lemma steady_placed {b : Board} (h : WellFormed (outline b)) (player : PlayerId) (index : Nat)
    (minion : Minion) : Steady b (placed b player index minion) := by
  intro entity hin _
  have hne : (⟨b.nextEntity⟩ : EntityId) ≠ entity := by
    rintro rfl
    exact lt_irrefl _ (number_lt_of_contains h hin)
  rw [controller?_eq, controller?_eq, outline_placed]
  simp only [List.length_modify, Table.get?_insert_of_ne _ _ hne]

lemma steady_departed {b : Board} (h : WellFormed (outline b)) {id : EntityId} {minion : Minion}
    (hminion : b.minion? id = some minion) : Steady b (departed b minion.controller id) := by
  intro entity _ hin
  have hne : id ≠ entity := by
    rintro rfl
    rw [← character?_isSome, character?_departed_self b _ (playerCount_le_of_minion? h hminion)]
      at hin
    cases hin
  rw [controller?_eq, controller?_eq, outline_departed]
  simp only [List.length_modify, Table.get?_erase_of_ne _ hne]

lemma surface_eq_of_controller? {b b' : Board} {target : EntityId}
    (h : b'.controller? target = b.controller? target) (event : Event) :
    event.surface b' target = event.surface b target := by
  unfold Event.surface
  rw [contains_eq_controller?, contains_eq_controller?, h]

lemma inPlay_of_surface {event : Event} {b : Board} {target surface : EntityId}
    (h : event.surface b target = .ok surface) : b.contains target = true := by
  rw [contains_eq_controller?]
  unfold Event.surface at h
  cases hcontroller : b.controller? target with
  | some player => rfl
  | none =>
    rw [contains_eq_controller?, hcontroller] at h
    cases hscope : event.scope <;> simp [hscope] at h

lemma surface_cases {event : Event} {b : Board} {target surface : EntityId}
    (h : event.surface b target = .ok surface) :
    surface = target ∨ ∃ player, b.controller? target = some player ∧ surface = player.hero := by
  unfold Event.surface at h
  cases hscope : event.scope with
  | minion =>
    simp only [hscope] at h
    split at h
    · exact .inl (Except.ok.inj h).symm
    · cases h
  | player =>
    simp only [hscope] at h
    cases hcontroller : b.controller? target with
    | none => simp [hcontroller] at h
    | some player =>
      simp only [hcontroller, Except.ok.injEq] at h
      exact .inr ⟨player, rfl, h.symm⟩

lemma Seated.controller_lt {b : Board} (h : Seated b.playerCount (outline b)) {entity : EntityId}
    {player : PlayerId} (hcontroller : b.controller? entity = some player) :
    player.index < b.playerCount := by
  rw [controller?_eq] at hcontroller
  rw [← h.count_eq]
  split at hcontroller
  · next hlt =>
    cases hcontroller
    exact hlt
  · obtain ⟨side, hside, -⟩ := h.on_side entity player hcontroller
    exact (List.getElem?_eq_some_iff.mp hside).1

lemma contains_hero {b : Board} {player : PlayerId} (h : player.index < b.playerCount) :
    b.contains player.hero = true := by
  simp [Board.contains, Board.seat?, PlayerId.hero, h]

lemma Seated.hero_inPlay {b : Board} (h : Seated b.playerCount (outline b)) {entity : EntityId}
    {player : PlayerId} (hcontroller : b.controller? entity = some player) :
    b.contains player.hero = true :=
  contains_hero (h.controller_lt hcontroller)

lemma Seated.surface_inPlay {b : Board} (h : Seated b.playerCount (outline b)) (event : Event)
    {target : EntityId} (htarget : b.contains target = true) :
    ∃ surface, event.surface b target = .ok surface ∧ b.contains surface = true := by
  unfold Event.surface
  cases hscope : event.scope with
  | minion => exact ⟨target, by simp [htarget], htarget⟩
  | player =>
    rw [contains_eq_controller?] at htarget
    obtain ⟨player, hplayer⟩ := Option.isSome_iff_exists.mp htarget
    exact ⟨player.hero, by simp [hplayer], h.hero_inPlay hplayer⟩

lemma Keeping.On.steady {k : Keeping} {b b' : Board} {binding : Binding} (h : k.On b binding)
    (hsteady : Steady b b') (hin : b.contains k.owner = true) (hin' : b'.contains k.owner = true) :
    k.On b' binding :=
  ⟨h.binding_eq, h.target_eq, h.event_eq,
    (surface_eq_of_controller? (hsteady _ hin hin') _).trans h.surface_eq⟩

/-! ### What is kept of keepers -/

/-- What every change of a board keeps of its keepers: each has made a subscription of its own, and
what is in force under its number is that subscription. -/
structure KeepersFit (b : Board) : Prop extends ListenersFit b where
  seated : Seated b.playerCount (outline b)
  kept : ∀ {keeper k}, keeping? b keeper = some k →
    ∃ binding, k.On b binding ∧ binding.listener.raw < b.nextListener
  faithful : ∀ {keeper k binding surface event listener}, keeping? b keeper = some k →
    k.binding = some binding → (binding.listener, listener) ∈ listenersAt b surface event →
      surface = binding.surface ∧ event = binding.event ∧ listener = k.listener
  apart : ∀ {keeper keeper' k k' binding binding'}, keeping? b keeper = some k →
    keeping? b keeper' = some k' → k.binding = some binding → k'.binding = some binding' →
      binding.listener = binding'.listener → keeper = keeper'

section Changes

variable {b b' : Board} (h : KeepersFit b) (hwell : WellFormed (outline b'))
  (hseated : Seated b.playerCount (outline b')) (hsteady : Steady b b')

include h hwell hseated hsteady

lemma KeepersFit.of_fewer (hfewer : Fewer b b')
    (hkeep : ∀ keeper k, keeping? b' keeper = some k → keeping? b keeper = some k) :
    KeepersFit b' where
  toListenersFit := h.toListenersFit.of_fewer hwell hfewer
  seated := hseated.playerCount_eq ▸ hseated
  kept hk := by
    have hold := hkeep _ _ hk
    obtain ⟨binding, hon, hlt⟩ := h.kept hold
    refine ⟨binding, hon.steady hsteady (owner_inPlay h.wellFormed hold) (owner_inPlay hwell hk), ?_⟩
    rwa [hfewer.next_eq]
  faithful hk hbinding hmem :=
    h.faithful (hkeep _ _ hk) hbinding ((hfewer.sublist _ _).mem hmem)
  apart hk hk' := h.apart (hkeep _ _ hk) (hkeep _ _ hk')

/-- A subscription that is new has a number that no keeper has, unless it is that of a keeper that
is new as well. -/
lemma KeepersFit.of_gained {surface : EntityId} {event : String} {listener : Listener}
    (hgained : Gained b b' surface event listener) (new : Keeper)
    (hkeep : ∀ keeper k, keeping? b' keeper = some k → keeping? b keeper = some k ∨
      keeper = new ∧ k.listener = listener ∧
        k.On b' { target := k.owner, surface, event, listener := ⟨b.nextListener⟩ }) :
    KeepersFit b' where
  toListenersFit := h.toListenersFit.of_gained hwell hgained
  seated := hseated.playerCount_eq ▸ hseated
  kept hk := by
    rw [hgained.next_eq]
    rcases hkeep _ _ hk with hold | ⟨-, -, hon⟩
    · obtain ⟨binding, hon, hlt⟩ := h.kept hold
      exact ⟨binding, hon.steady hsteady (owner_inPlay h.wellFormed hold) (owner_inPlay hwell hk),
        Nat.lt_succ_of_lt hlt⟩
    · exact ⟨_, hon, Nat.lt_succ_self _⟩
  faithful {keeper k binding surface' event' listener'} hk hbinding hmem := by
    rcases hkeep _ _ hk with hold | ⟨-, rfl, hon⟩
    · obtain ⟨binding', hon', hlt⟩ := h.kept hold
      rcases hgained.mem_cases hmem with hmem | ⟨-, -, hid, -⟩
      · exact h.faithful hold hbinding hmem
      · obtain rfl : binding' = binding := Option.some.inj (hon'.binding_eq.symm.trans hbinding)
        rw [hid] at hlt
        exact absurd hlt (lt_irrefl _)
    · obtain rfl := Option.some.inj (hon.binding_eq.symm.trans hbinding)
      rcases hgained.mem_cases hmem with hmem | ⟨rfl, rfl, -, rfl⟩
      · exact absurd (h.lt_next hmem) (lt_irrefl _)
      · exact ⟨rfl, rfl, rfl⟩
  apart {keeper keeper' k k' binding binding'} hk hk' hbinding hbinding' hsame := by
    have hfresh : ∀ {keeper k binding}, keeping? b keeper = some k → k.binding = some binding →
        binding.listener ≠ ⟨b.nextListener⟩ := by
      intro keeper k binding hold hbinding hid
      obtain ⟨binding', hon, hlt⟩ := h.kept hold
      obtain rfl : binding' = binding := Option.some.inj (hon.binding_eq.symm.trans hbinding)
      rw [hid] at hlt
      exact lt_irrefl _ hlt
    rcases hkeep _ _ hk with hold | ⟨rfl, -, hon⟩ <;>
      rcases hkeep _ _ hk' with hold' | ⟨rfl, -, hon'⟩
    · exact h.apart hold hold' hbinding hbinding' hsame
    · obtain rfl := Option.some.inj (hon'.binding_eq.symm.trans hbinding')
      exact absurd hsame (hfresh hold hbinding)
    · obtain rfl := Option.some.inj (hon.binding_eq.symm.trans hbinding)
      exact absurd hsame.symm (hfresh hold' hbinding')
    · rfl

end Changes

lemma upkeep_new {settings : Settings} {b : Board} (h : Board.new settings = .ok b) :
    upkeep b = (fun _ => [], fun _ => none) := by
  obtain ⟨players, rfl, hvalues, -⟩ := new_eq h
  refine Prod.ext (funext fun owner => ?_) rfl
  change effectsOf _ owner = []
  unfold effectsOf Board.character?
  split
  · next seat hseat =>
    simp only [PerPlayer.get?, hvalues, List.getElem?_map]
    cases (PlayerId.all settings.playerCount)[seat.index]? <;> rfl
  · rfl

lemma keepersFit_new {settings : Settings} {b : Board} (hnew : Board.new settings = .ok b)
    (hseated : Seated b.playerCount (outline b)) : KeepersFit b := by
  have hnone := listenersAt_new hnew
  have hnobody : ∀ keeper, keeping? b keeper = none := by
    have heffects : effectsOf b = fun _ => [] := congrArg Prod.fst (upkeep_new hnew)
    have hauras : playerAura? b = fun _ => none := congrArg Prod.snd (upkeep_new hnew)
    intro keeper
    cases keeper <;> simp [keeping?, heffects, hauras]
  exact ⟨listenersFit_new hnew, hseated, by simp [hnobody], by simp [hnobody], by simp [hnobody]⟩

end CardEffects.Proofs
