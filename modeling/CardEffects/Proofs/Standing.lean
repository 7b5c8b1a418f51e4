import CardEffects.Proofs.ActSteps
import CardEffects.Proofs.Balances

/-!
# Standing subscriptions

A subscription that was made by hand stands until it is released by hand or its surface leaves play.
Nothing else that is done to a board drops it, and the program that is kept for it stays the same.
-/

namespace CardEffects.Proofs

/-- Whether an act neither releases a subscription by hand nor takes a target out of play that is
the surface itself. -/
def Act.Spares (target surface : EntityId) (id : ListenerId) : Act → Prop
  | .release _ _ id' => id' ≠ id
  | .leave minion => ¬(minion = target ∧ minion = surface)
  | _ => True

lemma common_spares (target surface : EntityId) (id : ListenerId) :
    Common (Act.Spares target surface id) :=
  ⟨⟨fun _ _ => trivial, fun _ _ _ => trivial, fun _ _ => trivial, fun _ => trivial,
    fun _ _ _ => trivial, fun _ => trivial⟩, fun _ _ _ _ _ => trivial⟩

/-- Whether a keeper has made the subscription with a number. -/
def IsKept (b : Board) (id : ListenerId) : Prop :=
  ∃ keeper k binding, keeping? b keeper = some k ∧ k.binding = some binding ∧ binding.listener = id

/-- A subscription that is in force and no keeper's, on a target or on a hero. -/
structure Standing (b : Board) (target surface : EntityId) (event : String) (id : ListenerId)
    (listener : Listener) : Prop extends KeepersFit b where
  mem : (id, listener) ∈ listenersAt b surface event
  unkept : ¬IsKept b id
  place : surface = target ∨ surface.raw < b.playerCount

section Standing

variable {b b' : Board} {target surface : EntityId} {event : String} {id : ListenerId}
  {listener : Listener}

lemma KeepersFit.kept_lt (h : KeepersFit b) (hkept : IsKept b id) : id.raw < b.nextListener := by
  obtain ⟨keeper, k, binding, hk, hbinding, rfl⟩ := hkept
  obtain ⟨binding', hon, hlt⟩ := h.kept hk
  obtain rfl := Option.some.inj (hbinding.symm.trans hon.binding_eq)
  exact hlt

lemma KeepersFit.isKept_of_mem_numbers (h : KeepersFit b) {owner : EntityId}
    (hmem : id ∈ (effectsOf b owner).filterMap number?) : IsKept b id := by
  obtain ⟨keeper, surface, event, listener, -, k, hk, -, hon⟩ := h.mem_numbers_iff.mp hmem
  exact ⟨keeper, k, _, hk, hon.binding_eq, rfl⟩

lemma removeAura_freed (h : KeepersFit b) (aura : AuraId) :
    ∃ gone, Freed b (leftBy (Board.removeAura aura) b) gone ∧ ∀ id ∈ gone, IsKept b id := by
  cases hget : playerAura? b aura with
  | none => exact ⟨[], .of_listening (idle_removeAura h hget).listening_eq, by simp⟩
  | some entry =>
    obtain ⟨slot, player⟩ := entry
    cases hrun : Board.removeAura aura b with
    | error fault b' =>
      refine ⟨[], .of_listening ?_, by simp⟩
      rw [leftBy_of_error hrun]
      obtain ⟨binding, hactive, ⟨-, fault', b₁, herror, hlistening, -⟩ |
          ⟨-, b₁, hfirst, -, hrest⟩⟩ :=
        removeAura_player_outcome h.wellFormed (playerAura?_eq_some.mp hget)
      · rw [hrun] at herror
        cases herror
        exact hlistening
      · rw [hrun] at hrest
        rcases unsubscribe_outcome binding.surface binding.event binding.listener b₁ with
          ⟨-, b₂, hok, -⟩ | ⟨-, fault', -, herror⟩
        · rw [hok] at hrest
          cases hrest
        · rw [herror] at hrest
          cases hrest
          exact hfirst
    | ok _ b' =>
      obtain ⟨binding, hbinding, hfreed⟩ := freed_of_removeAura h hget hrun
      rw [leftBy_of_ok hrun]
      refine ⟨_, hfreed, fun id hid => ?_⟩
      rw [List.mem_singleton.mp hid]
      exact ⟨.aura aura, _, binding, by simp [keeping?, hget], hbinding, rfl⟩

lemma Standing.lt_nextListener (h : Standing b target surface event id listener) :
    id.raw < b.nextListener :=
  h.lt_next h.mem

lemma Standing.surface_ne (h : Standing b target surface event id listener) {minion : EntityId}
    (hleft : Left b b' minion) (hspares : ¬(minion = target ∧ minion = surface)) :
    surface ≠ minion := by
  rintro rfl
  rcases h.place with rfl | hhero
  · exact hspares ⟨rfl, rfl⟩
  · obtain ⟨body, hbody⟩ := Option.isSome_iff_exists.mp hleft.minion
    exact absurd (playerCount_le_of_minion? h.wellFormed hbody) (not_le.mpr hhero)

lemma playerCount_of_outcome (h : KeepersFit b) {act : Act} (hout : Outcome b act b') :
    b'.playerCount = b.playerCount := by
  refine Seated.playerCount_eq ?_
  cases hout with
  | failed hrun hkeeps => exact h.seated
  | idle hplain hidle => exact hidle.seated
  | left hleft => exact hleft.seated
  | listened hrun hin hframe hgained hupkeep => exact hframe.seated
  | released hrun hbound hframe hfreed hupkeep => exact hframe.seated
  | attached hrun hattached => exact hattached.frame.seated
  | detached hleft => exact hleft ▸ (detach_frame h _).seated
  | added hadded => exact hadded.frame.seated
  | removed hleft hget => exact hleft ▸ (removed h _).frame.seated

/-- A subscription stands through every act that spares it. -/
lemma Standing.act (h : Standing b target surface event id listener) {act : Act}
    (hspares : act.Spares target surface id) :
    Standing (leftBy act.run b) target surface event id listener := by
  have hfit := h.toKeepersFit
  have hout := hfit.outcome act
  refine ⟨hfit.act hout, ?_, ?_, ?_⟩
  · have hmem := h.mem
    have hfreed : ∀ {b' gone}, Freed b b' gone → (∀ other ∈ gone, IsKept b other) →
        (id, listener) ∈ listenersAt b' surface event := fun hfreed hgone =>
      hfreed.mem_iff.mpr ⟨hmem, fun hid => h.unkept (hgone id hid)⟩
    generalize hb' : leftBy act.run b = b' at hout
    cases hout with
    | failed hrun hkeeps => exact hmem
    | idle hplain hidle => exact hfreed (.of_listening hidle.listening_eq) (by simp)
    | left hleft => rwa [hleft.lists_eq, if_neg (h.surface_ne hleft hspares)]
    | listened hrun hin hframe hgained hupkeep => exact hgained.mem_iff.mpr (.inl hmem)
    | released hrun hbound hframe hfreed hupkeep =>
      exact hfreed.mem_iff.mpr ⟨hmem, by simpa using Ne.symm hspares⟩
    | attached hrun hattached => exact hattached.gained.mem_iff.mpr (.inl hmem)
    | detached hleft =>
      obtain ⟨gone, hfrees, hsub⟩ := detach_freed hfit _
      rw [hleft] at hfrees
      exact hfreed hfrees fun other hother => hfit.isKept_of_mem_numbers (hsub hother)
    | added hadded => exact hadded.gained.mem_iff.mpr (.inl hmem)
    | removed hleft hget =>
      obtain ⟨gone, hfrees, hgone⟩ := removeAura_freed hfit _
      rw [hleft] at hfrees
      exact hfreed hfrees hgone
  · rintro ⟨keeper, k, binding, hk, hbinding, rfl⟩
    rcases keeping?_of_outcome hfit hout hk with hold | ⟨binding', hbinding', hfresh⟩
    · exact h.unkept ⟨keeper, k, binding, hold, hbinding, rfl⟩
    · obtain rfl := Option.some.inj (hbinding.symm.trans hbinding')
      exact ne_next_of_lt h.lt_nextListener hfresh
  · rw [playerCount_of_outcome hfit hout]
    exact h.place

end Standing

/-! ### Programs that are kept -/

section Scripts

variable {σ α : Type}

lemma scripts_after (operation : BoardM α) (game : Game σ) (next : Except Fault α → Task σ)
    (frames : List (TaskFrame σ)) :
    (Config.after (onBoard operation game) next frames).game.scripts = game.scripts := by
  unfold Config.after onBoard
  cases operation game.board <;> rfl

lemma subscribe_scripts (surface : EntityId) (event : String) (body : Payload → Program σ)
    (game : Game σ) (next : Except Fault ListenerId → Task σ) (frames : List (TaskFrame σ)) :
    let c := Config.after (Game.subscribe surface event body game) next frames
    c.game.scripts = game.scripts ∨
      c.game.scripts = Table.insert game.scripts ⟨game.board.nextListener⟩ body := by
  unfold Game.subscribe Game.keepScript
  simp only [bind_run, onBoard, subscribe_run]
  cases game.board.character? surface with
  | none => exact .inl rfl
  | some c => exact .inr rfl

lemma subscribeEvent_scripts (event : Event) (target : EntityId) (body : Payload → Program σ)
    (game : Game σ) (next : Except Fault Binding → Task σ) (frames : List (TaskFrame σ)) :
    let c := Config.after (Game.subscribeEvent event target body game) next frames
    c.game.scripts = game.scripts ∨
      c.game.scripts = Table.insert game.scripts ⟨game.board.nextListener⟩ body := by
  unfold Game.subscribeEvent Game.keepScript
  simp only [bind_run, onBoard]
  rcases event_subscribe_outcome event target .script game.board with
    ⟨surface, c, -, -, hrun⟩ | ⟨fault, hrun⟩
  · rw [hrun]
    exact .inr rfl
  · rw [hrun]
    exact .inl rfl

lemma scripts_startOperation (game : Game σ) (frames : List (TaskFrame σ)) (operation : Operation)
    (next : Except Fault operation.Reply → Program σ) :
    (startOperation game frames operation next).game.scripts = game.scripts := by
  by_cases hfires : Fires operation
  · cases operation with
    | summon player spot name attack health =>
      simp only [startOperation, onBoard]
      cases Board.placeMinion player spot name attack health game.board <;> rfl
    | dealDamage source target amount => rfl
    | endTurn => rfl
    | fire surface event args => rfl
    | act action target => rfl
    | _ => exact hfires.elim
  · obtain ⟨work, -, hperform⟩ := work_of_not_fires hfires
    rw [startOperation_of_not_fires game frames hfires, hperform]
    exact scripts_after work game _ frames

lemma scripts_startFiring (game : Game σ) (frames : List (TaskFrame σ)) (surface : EntityId)
    (event : String) (args : Payload) :
    (startFiring game frames surface event args).game.scripts = game.scripts := by
  unfold startFiring
  cases refusal? game.board surface event with
  | some fault => rfl
  | none => cases listenersAt game.board surface event <;> rfl

lemma scripts_startDamage (game : Game σ) (frames : List (TaskFrame σ))
    (source : Option EntityId) (target : EntityId) (amount : Amount) :
    (startDamage game frames source target amount).game.scripts = game.scripts := by
  unfold startDamage onBoard
  cases Board.lowerStat target Stat.health amount game.board <;> rfl

lemma scripts_startCall (game : Game σ) (frames : List (TaskFrame σ)) (id : ListenerId)
    (listener : Listener) (args : Payload) :
    (startCall game frames id listener args).game.scripts = game.scripts := by
  unfold startCall
  split
  · cases listener.handler with
    | trigger owner action targeting =>
      simp only [startHandling]
      cases targeting.resolve game.board owner args.focus args.other <;> rfl
    | endAura aura => exact scripts_after _ game _ frames
    | script =>
      simp only [startHandling]
      cases Table.get? game.scripts id <;> rfl
  · rfl

lemma scripts_takeUp (game : Game σ) (frames : List (TaskFrame σ)) (frame : TaskFrame σ)
    (result : Except Fault Unit) :
    (takeUp game frames frame result).game.scripts = game.scripts := by
  cases frame with
  | resume next => rfl
  | tell target args =>
    cases result with
    | error fault => rfl
    | ok _ =>
      simp only [takeUp]
      cases game.board.controller? target <;> rfl
  | passTurn => cases result <;> rfl
  | pass surface event args rest =>
    cases result with
    | error fault => rfl
    | ok _ =>
      cases rest with
      | nil => rfl
      | cons entry rest =>
        simp only [takeUp, callNext]
        split <;> rfl

lemma scripts_of_step {c c' : Config σ} (h : step c = some c') :
    c'.game.scripts = c.game.scripts ∨ ∃ body,
      c'.game.scripts = Table.insert c.game.scripts ⟨c.game.board.nextListener⟩ body := by
  obtain ⟨task, frames, game⟩ := c
  cases task with
  | fire surface event args =>
    cases h
    exact .inl (scripts_startFiring game frames surface event args)
  | damage source target amount =>
    cases h
    exact .inl (scripts_startDamage game frames source target amount)
  | act action target =>
    cases h
    left
    cases action with
    | change change => exact scripts_after _ game _ frames
    | damage amount => rfl
    | heal amount => exact scripts_after _ game _ frames
  | call id listener args =>
    cases h
    exact .inl (scripts_startCall game frames id listener args)
  | run program =>
    cases h
    cases program with
    | finish result => exact .inl rfl
    | look next => exact .inl rfl
    | note update next => exact .inl rfl
    | perform operation next => exact .inl (scripts_startOperation game frames operation next)
    | subscribe surface event body next =>
      exact (subscribe_scripts surface event body game _ frames).imp_right fun h => ⟨body, h⟩
    | subscribeEvent event target body next =>
      exact (subscribeEvent_scripts event target body game _ frames).imp_right fun h => ⟨body, h⟩
  | done result =>
    cases frames with
    | nil => cases h
    | cons frame frames =>
      cases h
      exact .inl (scripts_takeUp game frames frame result)

end Scripts

end CardEffects.Proofs
