import CardEffects.Board.Effects
import CardEffects.Proofs.StatLevels

/-!
# Surfaces

The subscriptions on the surfaces of a board, and the operations that make and release them. These
operations have no part in who is in play, in the register of auras or in any stat.
-/

namespace CardEffects.Proofs

/-- The subscriptions to an occurrence on a surface, oldest first. -/
def listenersAt (board : Board) (surface : EntityId) (event : String) :
    List (ListenerId × Listener) :=
  ((board.character? surface).map (·.listeners.listFor event)).getD []

/-- The outline of a board with the levels of all stats. -/
def standing (board : Board) : Outline × (EntityId → String → Int) :=
  (outline board, level board)

lemma outline_eq_of_standing {b b' : Board} (h : standing b' = standing b) :
    outline b' = outline b :=
  congrArg Prod.fst h

lemma level_eq_of_standing {b b' : Board} (h : standing b' = standing b) : level b' = level b :=
  congrArg Prod.snd h

lemma isBound_iff (board : Board) (surface : EntityId) (event : String) (id : ListenerId) :
    board.isBound surface event id = true ↔
      ∃ listener, (id, listener) ∈ listenersAt board surface event := by
  unfold Board.isBound listenersAt
  cases board.character? surface with
  | none => simp
  | some c => simp [Subscriptions.has]

lemma listenersAt_eq_of_bare {b b' : Board} (h : bare b' = bare b) (surface : EntityId)
    (event : String) : listenersAt b' surface event = listenersAt b surface event := by
  have hl := congrArg (Option.map fun subs : Subscriptions Listener => subs.listFor event)
    (listeners_eq_of_bare h surface)
  simp only [Option.map_map, Function.comp_def] at hl
  unfold listenersAt
  rw [hl]

lemma standing_modifyCharacter (board : Board) (entity : EntityId) {f : Character → Character}
    (h : ∀ c, (f c).stats = c.stats) :
    standing (board.modifyCharacter entity f) = standing board := by
  have hlevel : level (board.modifyCharacter entity f) = level board := by
    funext entity' key
    unfold level Board.stat?
    rw [Board.character?_modifyCharacter]
    by_cases he : entity = entity'
    · cases board.character? entity' <;> simp [he, Character.stat, h]
    · rw [if_neg he]
  unfold standing
  rw [outline_modifyCharacter, hlevel]

lemma listenersAt_modifyCharacter_of_ne (board : Board) {entity surface : EntityId}
    (f : Character → Character) (event : String) (h : entity ≠ surface) :
    listenersAt (board.modifyCharacter entity f) surface event =
      listenersAt board surface event := by
  unfold listenersAt
  rw [Board.character?_modifyCharacter, if_neg h]

lemma listenersAt_modifyCharacter (board : Board) (entity : EntityId) {f : Character → Character}
    (h : ∀ c, (f c).listeners = c.listeners) (surface : EntityId) (event : String) :
    listenersAt (board.modifyCharacter entity f) surface event =
      listenersAt board surface event := by
  by_cases he : entity = surface
  · unfold listenersAt
    rw [Board.character?_modifyCharacter, if_pos he]
    cases board.character? surface <;> simp [h]
  · exact listenersAt_modifyCharacter_of_ne board f event he

@[simp] lemma nextListener_modifyCharacter (board : Board) (entity : EntityId)
    (f : Character → Character) :
    (board.modifyCharacter entity f).nextListener = board.nextListener := by
  unfold Board.modifyCharacter
  cases board.seat? entity <;> rfl

lemma listenersAt_modifyCharacter_self (board : Board) (surface : EntityId) {c : Character}
    (hc : board.character? surface = some c) (f : Character → Character) (event : String) :
    listenersAt (board.modifyCharacter surface f) surface event =
      (f c).listeners.listFor event := by
  unfold listenersAt
  rw [Board.character?_modifyCharacter, if_pos rfl, hc]
  rfl

/-! ### Making a subscription -/

/-- A board with a further subscription, which has the next number. -/
def subscribed (board : Board) (surface : EntityId) (event : String) (listener : Listener) :
    Board :=
  { board.modifyCharacter surface fun c =>
      { c with listeners := c.listeners.add event ⟨board.nextListener⟩ listener } with
    nextListener := board.nextListener + 1 }

lemma subscribe_run (surface : EntityId) (event : String) (listener : Listener) (b : Board) :
    Board.subscribe surface event listener b =
      match b.character? surface with
      | none => .error (.unknownEntity surface) b
      | some _ => .ok ⟨b.nextListener⟩ (subscribed b surface event listener) := by
  unfold Board.subscribe Board.character
  cases h : b.character? surface with
  | none => simp [h]
  | some c => simp [h, subscribed]

lemma standing_subscribed (b : Board) (surface : EntityId) (event : String) (listener : Listener) :
    standing (subscribed b surface event listener) = standing b :=
  standing_modifyCharacter b surface fun _ => rfl

lemma listenersAt_subscribed {b : Board} {surface : EntityId} {c : Character}
    (hc : b.character? surface = some c) (event : String) (listener : Listener)
    (surface' : EntityId) (event' : String) :
    listenersAt (subscribed b surface event listener) surface' event' =
      listenersAt b surface' event' ++
        if surface = surface' ∧ event = event' then [(⟨b.nextListener⟩, listener)] else [] := by
  change listenersAt (b.modifyCharacter surface _) surface' event' = _
  by_cases hs : surface = surface'
  · subst hs
    have hold : listenersAt b surface event' = c.listeners.listFor event' := by
      simp [listenersAt, hc]
    rw [listenersAt_modifyCharacter_self b surface hc, Subscriptions.listFor_add, hold]
    simp only [true_and]
  · rw [listenersAt_modifyCharacter_of_ne _ _ _ hs, if_neg (fun h => hs h.1), List.append_nil]

lemma event_subscribe_outcome (event : Event) (target : EntityId) (handler : Handler) (b : Board) :
    (∃ surface c, event.surface b target = .ok surface ∧ b.character? surface = some c ∧
      event.subscribe target handler b =
        .ok { target, surface, event := event.name, listener := ⟨b.nextListener⟩ }
          (subscribed b surface event.name
            { gate := event.condition.map fun condition => (condition, target), handler })) ∨
    ∃ fault, event.subscribe target handler b = .error fault b := by
  unfold Event.subscribe
  cases hsurface : event.surface b target with
  | error fault => exact .inr ⟨fault, by simp [hsurface]⟩
  | ok surface =>
    cases hc : b.character? surface with
    | none => exact .inr ⟨.unknownEntity surface, by simp [hsurface, subscribe_run, hc]⟩
    | some c => exact .inl ⟨surface, c, rfl, hc, by simp [hsurface, subscribe_run, hc]⟩

/-! ### Releasing a subscription -/

lemma unsubscribe_run (surface : EntityId) (event : String) (id : ListenerId) (b : Board) :
    Board.unsubscribe surface event id b =
      match b.character? surface with
      | none => .error (.unknownEntity surface) b
      | some c =>
        match c.listeners.remove? event id with
        | none => .error (.listenerNotBound surface event id) b
        | some listeners => .ok () (b.modifyCharacter surface fun c => { c with listeners }) := by
  unfold Board.unsubscribe Board.character
  cases h : b.character? surface with
  | none => simp [h]
  | some c => cases hr : c.listeners.remove? event id <;> simp [h, hr]

/-- One board comes from another by the release of one subscription, the oldest with its number. -/
structure Released (b b' : Board) (surface : EntityId) (event : String) (id : ListenerId) :
    Prop where
  standing_eq : standing b' = standing b
  nextListener_eq : b'.nextListener = b.nextListener
  listeners_eq : ∀ surface' event', listenersAt b' surface' event' =
    if surface = surface' ∧ event = event' then
      (listenersAt b surface' event').eraseP (·.1 = id)
    else listenersAt b surface' event'

lemma Released.not_mem {b b' : Board} {surface : EntityId} {event : String} {id : ListenerId}
    (h : Released b b' surface event id)
    (hnodup : ((listenersAt b surface event).map (·.1)).Nodup) (listener : Listener) :
    (id, listener) ∉ listenersAt b' surface event := by
  rw [h.listeners_eq, if_pos ⟨rfl, rfl⟩]
  intro hmem
  have herase : ((listenersAt b surface event).eraseP (·.1 = id)).map (·.1) =
      ((listenersAt b surface event).map (·.1)).erase id := by
    rw [List.erase_eq_eraseP', List.eraseP_map]
    congr 2
  refine hnodup.not_mem_erase (a := id) ?_
  rw [← herase]
  exact List.mem_map_of_mem hmem

lemma unsubscribe_outcome (surface : EntityId) (event : String) (id : ListenerId) (b : Board) :
    (b.isBound surface event id = true ∧
      ∃ b', Board.unsubscribe surface event id b = .ok () b' ∧ Released b b' surface event id) ∨
    (b.isBound surface event id = false ∧
      ∃ fault, (fault = .unknownEntity surface ∨ fault = .listenerNotBound surface event id) ∧
        Board.unsubscribe surface event id b = .error fault b) := by
  rw [unsubscribe_run]
  cases hc : b.character? surface with
  | none => exact .inr ⟨by simp [Board.isBound, hc], _, .inl rfl, rfl⟩
  | some c =>
    have hbound : b.isBound surface event id = c.listeners.has event id := by
      simp [Board.isBound, hc]
    cases hhas : c.listeners.has event id with
    | false =>
      exact .inr ⟨hbound.trans hhas, .listenerNotBound surface event id, .inr rfl,
        by simp [Subscriptions.remove?, hhas]⟩
    | true =>
      refine .inl ⟨hbound.trans hhas,
        b.modifyCharacter surface fun x => { x with
          listeners := c.listeners.withList event
            ((c.listeners.listFor event).eraseP (·.1 = id)) },
        by simp [Subscriptions.remove?, hhas],
        standing_modifyCharacter b surface fun _ => rfl, nextListener_modifyCharacter _ _ _, ?_⟩
      intro surface' event'
      by_cases hs : surface = surface'
      · subst hs
        have hold : listenersAt b surface event' = c.listeners.listFor event' := by
          simp [listenersAt, hc]
        rw [listenersAt_modifyCharacter_self b surface hc, Subscriptions.listFor_withList, hold]
        by_cases he : event = event'
        · rw [if_pos he, if_pos ⟨rfl, he⟩, he]
        · rw [if_neg he, if_neg (fun h => he h.2)]
      · rw [listenersAt_modifyCharacter_of_ne _ _ _ hs, if_neg (fun h => hs h.1)]

lemma within_standing_unsubscribe (surface : EntityId) (event : String) (id : ListenerId) :
    Within (Same standing) (Board.unsubscribe surface event id) := by
  intro b
  rcases unsubscribe_outcome surface event id b with ⟨-, b', hrun, hreleased⟩ | ⟨-, fault, -, hrun⟩
  · rw [leftBy_of_ok hrun]
    exact hreleased.standing_eq
  · rw [leftBy_of_error hrun]
    exact refl b

lemma within_character {R : Board → Board → Prop} [IsPreorder Board R] (entity : EntityId) :
    Within R (Board.character entity) := by
  refine within_get.bind fun b => ?_
  cases b.character? entity with
  | none => exact within_throw _
  | some c => exact within_pure _

section Releases

/-! Releasing through an event or an effect is releasing, or nothing. -/

variable {R : Board → Board → Prop} [IsPreorder Board R]
  (h : ∀ surface event id, Within R (Board.unsubscribe surface event id))

include h

lemma releases_event (event : Event) (binding : Binding) :
    Within R (event.unsubscribe binding) := by
  unfold Event.unsubscribe
  split
  · exact (within_throw _).bind fun _ => h _ _ _
  · exact h _ _ _

lemma releases_effect (effect : Effect) : Within R effect.switchOff := by
  unfold Effect.switchOff
  cases effect.active with
  | none => exact within_throw _
  | some active => exact releases_event h _ _

lemma releases_effects (effects : List Effect) : Within R (Board.switchOffEffects effects) := by
  induction effects with
  | nil => exact within_pure _
  | cons effect effects ih => exact (releases_effect h effect).bind fun _ => ih

end Releases

lemma within_standing_release (event : Event) (binding : Binding) :
    Within (Same standing) (event.unsubscribe binding) :=
  releases_event within_standing_unsubscribe event binding

lemma within_standing_switchOffEffects (effects : List Effect) :
    Within (Same standing) (Board.switchOffEffects effects) :=
  releases_effects within_standing_unsubscribe effects

lemma within_standing_detachEffects (owner : EntityId) :
    Within (Same standing) (Board.detachEffects owner) := by
  have hequip : Within (Same standing)
      (modify (·.modifyCharacter owner fun c => { c with effects := [] }) : BoardM Unit) :=
    fun b => standing_modifyCharacter b owner (f := fun c => { c with effects := [] }) fun _ => rfl
  exact (within_character owner).bind fun c => hequip.bind fun _ =>
    (within_standing_switchOffEffects c.effects).bind fun _ => within_pure _

end CardEffects.Proofs
