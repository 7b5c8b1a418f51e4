import CardEffects.Proofs.FailedAdditions
import CardEffects.Proofs.Refreshing

/-!
# Auras after a refresh

A refresh that succeeds leaves each minion aura on for its slot. One that takes every minion, or
every minion but its owner, is then on the minions of the players that it covers as they stand, no
matter how the auras overlap. All that is not a stat of a minion in some scope stays as it was.
-/

namespace CardEffects.Proofs

/-- The minions of the players that a coverage takes in on behalf of a controller, in the order of
the seats and from left to right. -/
def coveredBy (b : Board) (coverage : Coverage) (controller : PlayerId) : List EntityId :=
  ((PlayerId.all b.playerCount).filter (coverage.covers controller)).flatMap b.minionsOf

/-- What two boards have in common if one comes from the other by a refresh. -/
structure Untouched (b b' : Board) : Prop where
  keys_eq : Table.keys b'.auras = Table.keys b.auras
  holdings_eq : ∀ player, b'.aurasOf player = b.aurasOf player
  playerAuras_eq : ∀ id, playerAura? b' id = playerAura? b id
  listeners_eq : ∀ surface event, listenersAt b' surface event = listenersAt b surface event
  effects_eq : ∀ owner, effectsOf b' owner = effectsOf b owner
  sides_eq : ∀ player, b'.minionsOf player = b.minionsOf player
  controllers_eq : ∀ entity, b'.controller? entity = b.controller? entity
  /-- Whoever is no minion, or a minion outside all scopes, keeps every stat. -/
  stats_eq : ∀ entity,
    (∀ id slot aura, Table.get? b.auras id = some { slot, aura := .minions aura } →
      ¬(b.isMinion entity = true ∧ InScope b aura slot.owner entity)) →
    ∀ key, b'.stat? entity key = b.stat? entity key

lemma keys_refreshAura (id : AuraId) :
    Within (Same fun b : Board => Table.keys b.auras) (Board.refreshAura id) := by
  intro b
  change Table.keys (leftBy (Move.refreshAura id).run b).auras = Table.keys b.auras
  rcases auras_refreshAura_step id b with hsame | ⟨slot, aura, active, -, hrefreshed⟩
  · rw [hsame]
  · rw [hrefreshed, Table.keys_modify]

lemma untouched_of_refreshAuras {b b' : Board} (hfit : ScopesFit b)
    (hrun : Board.refreshAuras b = .ok () b') : Untouched b b' := by
  have hquiet := quiet_refreshAuras b
  have hholdings := within_every holdings_refreshAura b
  have hkeys := within_every keys_refreshAura b
  rw [leftBy_of_ok hrun] at hquiet hholdings hkeys
  rw [refreshAuras_run] at hrun
  have hturns := turns_of_refreshEach hfit hrun
  refine ⟨hkeys, fun player => ?_, congrFun (congrArg Prod.snd hquiet.upkeep_eq),
    fun surface event => congrFun (congrFun (congrArg Prod.fst hquiet.listening_eq) surface) event,
    congrFun (congrArg Prod.fst hquiet.upkeep_eq), minionsOf_eq_of_seating hquiet.seating_eq,
    controller?_eq_of_seating hquiet.seating_eq, fun entity hout key => ?_⟩
  · rw [aurasOf_eq, aurasOf_eq, hholdings]
  · exact stat?_eq_of_level (contains_eq_of_seating hquiet.seating_eq)
      (hturns.level_eq_of_not_inScope hout key)

/-- An aura over all minions, or all but its owner, reads no stats, so whom it picks in its turn
depends on the seating alone. -/
lemma pickedAnew_takesAll {b b' : Board} (hseating : seating b' = seating b) {aura : MinionAura}
    {owner : EntityId} {covered : List EntityId}
    (hcovered : aura.players.minions b owner = .ok covered) :
    ∃ controller, b'.controller? owner = some controller ∧
      (aura.selector = .minion →
        pickedAnew b aura owner covered = coveredBy b' aura.players controller) ∧
      (aura.selector = .notSelf →
        pickedAnew b aura owner covered =
          (coveredBy b' aura.players controller).filter (· ≠ owner)) := by
  rw [← minions_eq_of_seating hseating] at hcovered
  obtain ⟨controller, hcontroller, hseats⟩ := minions_eq_ok.mp hcovered
  refine ⟨controller, hcontroller, fun hselector => ?_, fun hselector => ?_⟩
  · unfold pickedAnew
    rw [hselector, pick_minion, hseats]
    rfl
  · unfold pickedAnew
    rw [hselector, pick_notSelf, hseats]
    rfl

/-- A refresh that succeeds leaves every minion aura on for its slot, on exactly the minions now in
play that it covers if it takes them all, without its owner if it takes all others, and nothing
outside the scopes of these auras changes. -/
theorem refreshed_auras_cover {σ : Type} {settings : Settings} {host : σ} {game : Game σ}
    (hnew : Game.new settings host = .ok game) (program : Program σ) {b : Board}
    (hb : b ∈ boards program game) {b' : Board} (hrun : Board.refreshAuras b = .ok () b') :
    (∀ id slot aura, Table.get? b.auras id = some { slot, aura := .minions aura } →
      ∃ controller affected, b'.controller? slot.owner = some controller ∧
        Table.get? b'.auras id = some (entryOn slot aura affected) ∧
        (aura.selector = .minion → affected = coveredBy b' aura.players controller) ∧
        (aura.selector = .notSelf →
          affected = (coveredBy b' aura.players controller).filter (· ≠ slot.owner))) ∧
    Untouched b b' := by
  have hdev := ((boards_develop (dispatching_new hnew) program).2 b hb).1
  have hholdings := (holdingsFit_new hnew).develops hdev
  have hfit := (scopesFit_new (board_new hnew)).develops hdev
  refine ⟨fun id slot aura hget => ?_, untouched_of_refreshAuras hfit hrun⟩
  rw [refreshAuras_run] at hrun
  have hturns := turns_of_refreshEach hfit hrun
  have hid : id ∈ refreshOrder b := (mem_refreshOrder hholdings id).mpr ⟨_, hget⟩
  obtain ⟨c, covered, hseating, hcovered, hrefreshed⟩ :=
    hturns.has_turn (nodup_refreshOrder hholdings) hid hget
  obtain ⟨controller, hcontroller, haffected⟩ :=
    pickedAnew_takesAll (hturns.seating_eq.trans hseating.symm) hcovered
  exact ⟨controller, _, hcontroller, hrefreshed, haffected⟩

/-- A captain has an aura over all friendly minions but itself, and a recruit joins. -/
def reinforcement : Program Unit :=
  .perform (.summon ⟨0⟩ none "Captain" .one .one) fun _ =>
    .perform (.addAura ⟨0⟩ ⟨2⟩ (.minions { change := .attack .one, selector := .notSelf })) fun _ =>
      .perform (.summon ⟨0⟩ none "Recruit" .one .one) fun _ => .finish (.ok ())

/-- The refresh puts the aura on the recruit, on whom it was not. -/
theorem reinforcement_covers :
    ∃ game, Game.new Settings.standard () = .ok game ∧ ∃ b ∈ boards reinforcement game,
      ∃ slot aura, Table.get? b.auras ⟨0⟩ = some (entryOn slot aura []) ∧
        ∃ b', Board.refreshAuras b = .ok () b' ∧ Untouched b b' ∧
          Table.get? b'.auras ⟨0⟩ = some (entryOn slot aura [⟨3⟩]) := by
  obtain ⟨game, hnew⟩ : ∃ game, Game.new Settings.standard () = .ok game := ⟨_, rfl⟩
  have hlast : (leftBy (Game.execute reinforcement) game).board ∈ boards reinforcement game := by
    simp [boards]
  obtain ⟨slot, aura, hget, hselector, howner, hplayers⟩ : ∃ slot aura,
      Table.get? (leftBy (Game.execute reinforcement) game).board.auras ⟨0⟩ =
        some (entryOn slot aura []) ∧
      aura.selector = .notSelf ∧ slot.owner = ⟨2⟩ ∧ aura.players = .friendly := by
    cases hnew
    exact ⟨⟨⟨0⟩, ⟨2⟩, ⟨0⟩⟩, { change := .attack .one, selector := .notSelf }, rfl, rfl, rfl, rfl⟩
  obtain ⟨b', hrun, hfriends⟩ : ∃ b', Board.refreshAuras
      (leftBy (Game.execute reinforcement) game).board = .ok () b' ∧
      ∀ controller, b'.controller? ⟨2⟩ = some controller →
        coveredBy b' .friendly controller = [⟨2⟩, ⟨3⟩] := by
    cases hnew
    refine ⟨_, rfl, fun controller hcontroller => ?_⟩
    cases hcontroller
    rfl
  obtain ⟨hcover, huntouched⟩ := refreshed_auras_cover hnew reinforcement hlast hrun
  obtain ⟨controller, affected, hcontroller, hrefreshed, -, hothers⟩ := hcover ⟨0⟩ slot _ hget
  refine ⟨game, hnew, _, hlast, slot, aura, hget, b', hrun, huntouched, hrefreshed.trans ?_⟩
  have haffected := hothers hselector
  rw [howner] at hcontroller haffected
  simp only [hplayers, hfriends controller hcontroller] at haffected
  rw [haffected]
  rfl

end CardEffects.Proofs
