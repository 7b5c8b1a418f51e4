import CardEffects.Proofs.CalmFiring

/-!
# Rule safety

Where all subscriptions are left to effects and player auras, whatever is set off finds what it
refers to. So however many rules set each other off, all that can stop them is a limit, of an amount
or of the occurrences under way.
-/

namespace CardEffects.Proofs

/-! ### Operations -/

/-- Whether an operation leaves subscribing to rules: effects are attached, with built-in
targetings, and player auras are registered, and neither is switched on or off by hand. -/
def ByRules : Operation → Prop
  | .unsubscribe _ _ _ | .release _ _ | .switchOnEffect _ _ | .switchOffEffect _ => False
  | .attachEffect _ effect => IsBuiltInTargeting effect.targeting
  | .switchOnAura aura _ | .switchOffAura aura => aura.tracksBoard = true
  | _ => True

/-- A board under rules on which it is some player's turn. -/
structure Playable (b : Board) : Prop extends Ruled b where
  active_lt : b.activePlayer.index < b.playerCount

lemma Playable.of_calm {b b' : Board} (h : Playable b) (hcalm : Calm b b') : Playable b' where
  toRuled := hcalm.ruled
  active_lt := by
    rw [hcalm.active_eq, (h.seated.of_seating hcalm.seating_eq).playerCount_eq]
    exact h.active_lt

lemma Playable.of_works {b b' : Board} (h : Playable b) (hruled : Ruled b') (hworks : Works b b') :
    Playable b' where
  toRuled := hruled
  active_lt := by
    have hactive : b'.activePlayer = b.activePlayer := congrArg (·.2.2.1) hworks.course_eq
    rw [hactive, (h.seated.develops hworks.develops).playerCount_eq]
    exact h.active_lt

lemma Playable.passTurn {b : Board} (h : Playable b) : Playable (leftBy Move.passTurn.run b) where
  toRuled := h.quiet quiet_passTurn
  active_lt := next_index_lt (Nat.zero_lt_of_lt h.active_lt) b.activePlayer

section Operations

variable {σ : Type} {game : Game σ}

lemma onBoard_ok {α : Type} {operation : BoardM α} {game' : Game σ} {a : α}
    (h : onBoard operation game = .ok a game') : operation game.board = .ok a game'.board := by
  obtain ⟨b, hrun, rfl⟩ := onBoard_eq_ok.mp h
  exact hrun

section Works

variable {α : Type} {work : BoardM α} {a : α} {game' : Game σ}
  (hrun : onBoard work game = .ok a game')

include hrun

lemma Ruled.of_quiet (h : Ruled game.board) (hquiet : Within Quiet work) : Ruled game'.board := by
  have hleft := h.quiet hquiet
  rwa [leftBy_of_ok (onBoard_ok hrun)] at hleft

lemma Ruled.of_act (h : Ruled game.board) (act : Act) (hrules : act.ByRules game.board)
    (hact : leftBy act.run game.board = leftBy work game.board) : Ruled game'.board := by
  have hleft := h.act act hrules
  rwa [hact, leftBy_of_ok (onBoard_ok hrun)] at hleft

end Works

lemma Ruled.perform (h : Ruled game.board) {fire : Firing σ} {operation : Operation}
    (hfires : ¬Fires operation) (hrules : ByRules operation) {reply : operation.Reply}
    {game' : Game σ} (hrun : Game.perform fire operation game = .ok reply game') :
    Ruled game'.board := by
  cases operation with
  | removeMinion minion => exact h.removeMinion (onBoard_ok hrun)
  | raiseStat entity key amount => exact h.of_quiet hrun (quiet_updateStat _ _ _)
  | lowerStat entity key amount => exact h.of_quiet hrun (quiet_updateStat _ _ _)
  | setStat entity key value => exact h.of_quiet hrun (quiet_setStat _ _ _)
  | undo change target => exact h.of_quiet hrun (quiet_undo _ _)
  | attachEffect owner effect => exact h.of_act hrun (.attach owner effect) hrules rfl
  | detachEffects owner => exact h.of_act hrun (.detach owner) trivial (leftBy_discard _ _)
  | addAura holder owner aura =>
    exact h.of_act hrun (.addAura holder owner aura) trivial (leftBy_discard _ _)
  | removeAura aura => exact h.of_act hrun (.removeAura aura) ⟨_, onBoard_ok hrun⟩ rfl
  | refreshAuras => exact h.of_quiet hrun quiet_refreshAuras
  | switchOnAura aura slot =>
    cases aura with
    | minions aura =>
      exact h.of_quiet hrun ((quiet_minions_switchOn aura slot).bind fun _ => within_pure _)
    | player aura => cases hrules
  | switchOffAura aura =>
    cases aura with
    | minions aura => exact h.of_quiet hrun (quiet_minions_switchOff aura)
    | player aura => cases hrules
  | unsubscribe | release | switchOnEffect | switchOffEffect => exact hrules.elim
  | summon | dealDamage | endTurn | fire | act => exact absurd trivial hfires

end Operations

/-! ### Operations that fire -/

section Playing

variable {σ : Type} {fire : Firing σ} (hfire : KeepsCalm fire) {game : Game σ}
  (h : Playable game.board)

include hfire h

lemma upholds_summon {player : PlayerId} (hplayer : player.index < game.board.playerCount)
    (place : Option Nat) (name : String) (attack health : Amount) :
    Upholds (Game.summon fire player place name attack health) Playable game := by
  have hplace : Upholds (onBoard (Board.placeMinion player place name attack health))
      (fun b => Playable b ∧ b.contains player.hero = true) game := by
    obtain ⟨seat, hseat⟩ := Option.isSome_iff_exists.mp
      ((PerPlayer.get?_isSome_iff game.board.players player).mpr hplayer)
    refine upholds_onBoard (fun id b hrun => ?_) fun fault b hrun => ?_
    · have hruled := h.act (.place player place name attack health) trivial
      have hworks : Works game.board _ := within_placeMinion player place name attack health _
      rw [Act.run, leftBy_discard, leftBy_of_ok hrun] at hruled
      rw [leftBy_of_ok hrun] at hworks
      refine ⟨h.of_works hruled hworks, contains_hero ?_⟩
      rwa [(h.seated.develops hworks.develops).playerCount_eq]
    · simp [Board.placeMinion, hseat] at hrun
  refine hplace.bind fun id game' _ hafter => ?_
  have hsummoned := hfire player.hero Occurrence.minionSummoned { focus := some id } game'
    hafter.1.toRuled hafter.2
  exact hsummoned.bind fun _ _ _ hcalm => upholds_pure id (hafter.1.of_calm hcalm)

lemma upholds_endTurn : Upholds (Game.endTurn fire) Playable game := by
  have hending := hfire game.board.activePlayer.hero Occurrence.turnEnded
    { focus := some game.board.activePlayer.hero } game h.toRuled (contains_hero h.active_lt)
  refine Upholds.congr (hending.bind fun _ game' _ hcalm => ?_) rfl
  have hpassed := (h.of_calm hcalm).passTurn
  have hstarting := hfire (leftBy Move.passTurn.run game'.board).activePlayer.hero
    Occurrence.turnStarted
    { focus := some (leftBy Move.passTurn.run game'.board).activePlayer.hero }
    { game' with board := leftBy Move.passTurn.run game'.board } hpassed.toRuled
    (contains_hero hpassed.active_lt)
  exact (hstarting.mono fun b => hpassed.of_calm).congr rfl

end Playing

/-- Whether an operation refers to somebody in play where it says on whom it is done, and to a player
where it says for whom. -/
def Addressed (b : Board) : Operation → Prop
  | .summon player _ _ _ _ => player.index < b.playerCount
  | .dealDamage _ target _ | .act _ target => b.contains target = true
  | .fire surface _ _ => b.contains surface = true
  | _ => True

section Addresses

variable {σ : Type} {game game' : Game σ}

lemma contains_of_dealDamage {fire : Firing σ} {source : Option EntityId} {target : EntityId}
    {amount : Amount} (hrun : Game.dealDamage fire source target amount game = .ok () game') :
    game.board.contains target = true := by
  obtain ⟨value, game₁, hfirst, -⟩ := bind_ok hrun
  have hlower := onBoard_ok hfirst
  rw [Board.lowerStat, updateStat_run] at hlower
  rw [← character?_isSome]
  cases hc : game.board.character? target with
  | some c => rfl
  | none => simp [hc] at hlower

lemma contains_of_act {fire : Firing σ} {action : Action} {target : EntityId}
    (hrun : Game.act fire action target game = .ok () game') :
    game.board.contains target = true := by
  cases action with
  | change change => exact ((make_shifts change target).ok (onBoard_ok hrun)).1.1
  | damage amount => exact contains_of_dealDamage hrun
  | heal amount =>
    have hheal := onBoard_ok hrun
    rw [← character?_isSome]
    cases hc : game.board.character? target with
    | some c => rfl
    | none => simp [Board.heal, Board.setStat, Board.character, hc] at hheal

lemma contains_of_fireWithin (budget : Nat) {surface : EntityId} {event : String} {args : Payload}
    (hrun : Game.fireWithin budget surface event args game = .ok () game') :
    game.board.contains surface = true := by
  cases budget with
  | zero =>
    obtain ⟨_, _, -, hrest⟩ := bind_ok hrun
    cases hrest
  | succ budget =>
    change (onBoard (Game.refuseReentry surface event) >>= fun _ =>
      Game.pass (Game.fireWithin budget) surface event args) game = .ok () game' at hrun
    rw [refuseReentry_run, pass_run] at hrun
    rw [← character?_isSome]
    cases hc : game.board.character? surface with
    | some c => rfl
    | none =>
      rw [hc] at hrun
      split at hrun <;> cases hrun

lemma addressed_of_ok {operation : Operation} {reply : operation.Reply}
    (hrun : Game.perform Game.fire operation game = .ok reply game') :
    Addressed game.board operation := by
  cases operation with
  | summon player place name attack health =>
    obtain ⟨id, game₁, hfirst, -⟩ := bind_ok hrun
    have hplace := onBoard_ok hfirst
    refine (PerPlayer.get?_isSome_iff game.board.players player).mp ?_
    cases hseat : game.board.players.get? player with
    | some seat => rfl
    | none => simp [Board.placeMinion, hseat] at hplace
  | dealDamage source target amount => exact contains_of_dealDamage hrun
  | act action target => exact contains_of_act hrun
  | fire surface event args => exact contains_of_fireWithin game.budget hrun
  | _ => trivial

end Addresses

section Performing

variable {σ : Type} {game : Game σ} (h : Playable game.board) {operation : Operation}

include h

/-- An operation that fires occurrences, and is addressed to somebody who is there, can only meet a
limit. -/
lemma upholds_perform (hfires : Fires operation) (haddressed : Addressed game.board operation) :
    Upholds (Game.perform Game.fire operation) Playable game := by
  cases operation with
  | summon player place name attack health =>
    exact upholds_summon keepsCalm_fire h haddressed place name attack health
  | dealDamage source target amount =>
    exact (upholds_dealDamage keepsCalm_fire h.toRuled haddressed source amount).mono
      fun b => h.of_calm
  | endTurn => exact upholds_endTurn keepsCalm_fire h
  | fire surface event args =>
    exact (keepsCalm_fire surface event args game h.toRuled haddressed).mono fun b => h.of_calm
  | act action target =>
    exact (upholds_act keepsCalm_fire h.toRuled haddressed action).mono fun b => h.of_calm
  | _ => exact hfires.elim

lemma Playable.perform (hrules : ByRules operation) {reply : operation.Reply} {game' : Game σ}
    (hrun : Game.perform Game.fire operation game = .ok reply game') : Playable game'.board := by
  by_cases hfires : Fires operation
  · exact (upholds_perform h hfires (addressed_of_ok hrun)).ok hrun
  · obtain ⟨work, hworks, hsame⟩ := work_of_not_fires hfires
    have hleft := hworks Works game.board
    rw [leftBy_of_ok (onBoard_ok (hsame Game.fire ▸ hrun))] at hleft
    exact h.of_works (h.toRuled.perform hfires hrules hrun) hleft

end Performing

/-! ### Runs -/

/-- Perform operations one after another, up to the first fault. -/
def carryOut {σ : Type} : List Operation → GameM σ Unit
  | [] => return
  | operation :: operations => do
    let _ ← Game.perform Game.fire operation
    carryOut operations

lemma Playable.carryOut {σ : Type} {operations : List Operation} {game game' : Game σ}
    (h : Playable game.board) (hrules : ∀ operation ∈ operations, ByRules operation)
    (hrun : carryOut operations game = .ok () game') : Playable game'.board := by
  induction operations generalizing game with
  | nil =>
    cases hrun
    exact h
  | cons operation operations ih =>
    obtain ⟨reply, game₁, hfirst, hrest⟩ := bind_ok hrun
    have hnext := h.perform (hrules operation List.mem_cons_self) hfirst
    exact ih hnext (fun other hother => hrules other (List.mem_cons_of_mem _ hother)) hrest

lemma playable_new {σ : Type} {settings : Settings} {host : σ} {game : Game σ}
    (hnew : Game.new settings host = .ok game) : Playable game.board where
  toRuled := ruled_new hnew
  active_lt := by
    have hcount := (seated_new hnew).playerCount_eq
    have hpos := playerCount_pos_of_new (board_new hnew)
    obtain ⟨players, hboard, -⟩ := new_eq (board_new hnew)
    have hactive : game.board.activePlayer.index = 0 := by rw [hboard]
    omega

/-- Whether nothing that rules refer to is ever missing on a game. -/
structure RulesSafe {σ : Type} (game : Game σ) : Prop where
  /-- A built-in targeting points at nobody or at somebody in play. -/
  target_inPlay : ∀ targeting, IsBuiltInTargeting targeting → ∀ owner focus other target,
    targeting.resolve game.board owner focus other = some target →
      game.board.contains target = true
  dealDamage : ∀ source target amount, game.board.contains target = true → ∀ fault game',
    Game.dealDamage Game.fire source target amount game = .error fault game' → IsLimit fault
  endTurn : ∀ fault game', Game.endTurn Game.fire game = .error fault game' → IsLimit fault
  summon : ∀ player place name attack health, player.index < game.board.playerCount →
    ∀ fault game', Game.summon Game.fire player place name attack health game =
      .error fault game' → IsLimit fault
  fire : ∀ surface event args, game.board.contains surface = true → ∀ fault game',
    Game.fire surface event args game = .error fault game' → IsLimit fault

/-- As long as subscribing is left to attached effects and registered player auras, and operations
succeed, a game is such that targetings find those in play, and damage, the end of a turn, a
summoning or any other occurrence can fail at limits only, however many rules set each other off. -/
theorem rules_safe {σ : Type} {settings : Settings} {host : σ} {start game : Game σ}
    (hnew : Game.new settings host = .ok start) {operations : List Operation}
    (hrules : ∀ operation ∈ operations, ByRules operation)
    (hrun : carryOut operations start = .ok () game) : RulesSafe game := by
  have hplayable := (playable_new hnew).carryOut hrules hrun
  constructor
  case target_inPlay =>
    exact fun targeting hbuiltIn owner focus other target hresolve =>
      hplayable.seated.target_inPlay hbuiltIn hresolve
  case dealDamage =>
    exact fun source target amount hin _ _ hfails =>
      (upholds_dealDamage keepsCalm_fire hplayable.toRuled hin source amount).error hfails
  case endTurn =>
    exact fun _ _ hfails => (upholds_endTurn keepsCalm_fire hplayable).error hfails
  case summon =>
    exact fun player place name attack health hplayer _ _ hfails =>
      (upholds_summon keepsCalm_fire hplayable hplayer place name attack health).error hfails
  case fire =>
    exact fun surface event args hin _ _ hfails =>
      (keepsCalm_fire surface event args game hplayable.toRuled hin).error hfails

/-- Whenever its owner is hurt, the opponent is hurt. -/
def retort : Effect where
  event := { name := Occurrence.damaged, scope := .minion }
  action := .damage .one
  targeting := .opponentHero

/-- Until its owner is hurt, the owner is stronger. -/
def confidence : PlayerAura where
  change := .attack .one
  ending := { name := Occurrence.damaged, scope := .minion }

/-- Two heroes pay each other back, and the first of them is confident. -/
def duel : List Operation :=
  [.addAura ⟨0⟩ ⟨0⟩ (.player confidence), .attachEffect ⟨0⟩ retort, .attachEffect ⟨1⟩ retort]

/-- The first blow ends the confidence and comes back, which is where it meets a limit. -/
theorem duel_safe :
    ∃ start game, Game.new Settings.standard () = .ok start ∧
      carryOut duel start = .ok () game ∧ RulesSafe game ∧
      ∃ fault after, Game.dealDamage Game.fire none ⟨0⟩ .one game = .error fault after ∧
        IsLimit fault ∧ after.board.isAuraActive ⟨0⟩ = false := by
  obtain ⟨start, hnew⟩ : ∃ start, Game.new Settings.standard () = .ok start := ⟨_, rfl⟩
  obtain ⟨game, hrun⟩ : ∃ game, carryOut duel start = .ok () game := by
    cases hnew
    exact ⟨_, rfl⟩
  have hrules : ∀ operation ∈ duel, ByRules operation := by
    have hretort : IsBuiltInTargeting retort.targeting := ⟨"opponent_hero", by decide⟩
    simp [duel, ByRules, hretort]
  have hsafe := rules_safe hnew hrules hrun
  obtain ⟨hin, hfails, hgone⟩ : game.board.contains ⟨0⟩ = true ∧
      (EStateM.run' (Game.dealDamage Game.fire none ⟨0⟩ .one) game).isSome = false ∧
      (leftBy (Game.dealDamage Game.fire none ⟨0⟩ .one) game).board.isAuraActive ⟨0⟩ = false := by
    cases hnew
    cases hrun
    decide +kernel
  cases hblow : Game.dealDamage Game.fire none ⟨0⟩ .one game with
  | ok _ after =>
    have hok : EStateM.run' (fun _ => Game.dealDamage Game.fire none ⟨0⟩ .one game) game =
        some () := by
      rw [hblow]
      rfl
    exact absurd (hfails.symm.trans (congrArg Option.isSome hok)) (by decide)
  | error fault after =>
    rw [leftBy_of_error hblow] at hgone
    exact ⟨start, game, hnew, hrun, hsafe, fault, after, hblow,
      hsafe.dealDamage none ⟨0⟩ .one hin fault after hblow, hgone⟩

end CardEffects.Proofs
