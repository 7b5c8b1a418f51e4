import CardEffects.Proofs.ListenerAccounting
import CardEffects.Proofs.RoundTrips

/-!
# Boards under rules

On a board under rules every subscription in force is that of an attached effect or of a registered
player aura. What such a board refers to is there: built-in targetings point at those in play, and
an aura whose ending is in force is registered and listens.
-/

namespace CardEffects.Proofs

/-! ### Boards under rules -/

/-- Whether a handler is that of an effect with a built-in targeting or of a player aura. -/
def RuleHandler : Handler → Prop
  | .trigger _ _ targeting => IsBuiltInTargeting targeting
  | .endAura _ => True
  | .script => False

/-- Whether all subscriptions in force are those of keepers, of which every effect has a built-in
targeting. -/
structure Ruled (b : Board) : Prop extends KeepersFit b where
  balanced : Balanced (fun _ => False) (fun _ _ _ _ => False) b
  handler : ∀ {keeper k}, keeping? b keeper = some k → RuleHandler k.handler

lemma Ruled.keptAt_iff {b : Board} (h : Ruled b) {surface : EntityId} {event : String}
    {id : ListenerId} {listener : Listener} : (id, listener) ∈ listenersAt b surface event ↔
      ∃ keeper, KeptAt b keeper surface event id listener := by
  rw [h.balanced.mem_iff]
  simp

lemma ruled_new {σ : Type} {settings : Settings} {host : σ} {game : Game σ}
    (hnew : Game.new settings host = .ok game) : Ruled game.board where
  toKeepersFit := keepersFit_start hnew
  balanced := by
    have hgiven : Given game.board [] = fun _ => False := by
      funext id
      simp [Given, not_past_nil]
    have hbyHand : ByHand game.board [] = fun _ _ _ _ => False := by
      funext surface event id listener
      simp [ByHand, not_past_nil]
    have hbalanced := balancedAfter_start hnew
    unfold BalancedAfter at hbalanced
    rwa [hgiven, hbyHand] at hbalanced
  handler {keeper k} hk := by
    have hnobody := upkeep_new (board_new hnew)
    cases keeper with
    | effect owner index => simp [keeping?_effect hnobody] at hk
    | aura id => simp [keeping?_aura hnobody] at hk

/-- Whether an act is done by rules: nothing is subscribed or released by hand, an effect that is
attached has a built-in targeting, and an aura that is removed comes off. -/
def Act.ByRules (b : Board) : Act → Prop
  | .listen _ _ _ | .release _ _ _ => False
  | .attach _ effect => IsBuiltInTargeting effect.targeting
  | .removeAura id => ∃ b', Board.removeAura id b = .ok () b'
  | _ => True

lemma Ruled.of_idle {b b' : Board} (h : Ruled b) (hidle : Idle b b') : Ruled b' where
  toKeepersFit := h.toKeepersFit.of_idle hidle
  balanced := h.balanced.of_idle h.toKeepersFit (h.toKeepersFit.of_idle hidle) hidle
  handler hk := by
    rw [keeping?_eq_of_upkeep hidle.upkeep_eq] at hk
    exact h.handler hk

lemma Ruled.outcome {b b' : Board} (h : Ruled b) {act : Act} (hout : Outcome b act b')
    (hrules : act.ByRules b) : Ruled b' where
  toKeepersFit := h.toKeepersFit.act hout
  balanced := by
    refine h.balanced.outcome h.toKeepersFit (h.toKeepersFit.act hout) hout ?_ ?_
    · cases act <;> first | exact not_false | exact hrules.elim
    · rintro id rfl
      exact .inr hrules
  handler {keeper k} hk := by
    cases hout with
    | failed hrun hkeeps => exact h.handler hk
    | idle hplain hidle => exact (h.of_idle hidle).handler hk
    | left hleft =>
      rw [keeping?_eq_of_upkeep hleft.upkeep_eq] at hk
      exact h.handler hk
    | listened => exact hrules.elim
    | released => exact hrules.elim
    | attached hrun hattached =>
      rcases (hattached.keeping keeper k).mp hk with hold | ⟨-, rfl⟩
      · exact h.handler hold
      · exact hrules
    | detached hleft =>
      subst hleft
      exact h.handler ((keeping?_detached keeper k).mp hk).1
    | added hadded =>
      rcases (hadded.keeping (playerAura?_fresh h.toKeepersFit) keeper k).mp hk with
        hold | ⟨-, rfl⟩
      · exact h.handler hold
      · exact trivial
    | removed hleft hget =>
      subst hleft
      exact h.handler (((removed h.toKeepersFit _).keeping keeper k).mp hk).1

lemma Ruled.act {b : Board} (h : Ruled b) (act : Act) (hrules : act.ByRules b) :
    Ruled (leftBy act.run b) :=
  h.outcome (h.toKeepersFit.outcome act) hrules

lemma Ruled.quiet {b : Board} (h : Ruled b) {α : Type} {operation : BoardM α}
    (hquiet : Within Quiet operation) : Ruled (leftBy operation b) :=
  h.of_idle (h.toKeepersFit.idle_quiet (hquiet b))

lemma Ruled.removeAuras {auras : List AuraId} {b b' : Board} (h : Ruled b)
    (hrun : Board.removeAuras auras b = .ok () b') : Ruled b' := by
  induction auras generalizing b with
  | nil =>
    cases hrun
    exact h
  | cons aura auras ih =>
    obtain ⟨b₁, hfirst, hrest⟩ := removeAuras_cons_ok hrun
    have hnext := h.act (.removeAura aura) ⟨b₁, hfirst⟩
    rw [Act.run, leftBy_of_ok hfirst] at hnext
    exact ih hnext hrest

lemma Ruled.removeMinion {id : EntityId} {minion : Minion} {b b' : Board} (h : Ruled b)
    (hrun : Board.removeMinion id b = .ok minion b') : Ruled b' := by
  obtain ⟨-, count, b₁, b₂, hdetach, hremove, hleave, -⟩ := removeMinion_ok hrun
  have hdetached := h.act (.detach id) trivial
  rw [Act.run, leftBy_discard, leftBy_of_ok hdetach] at hdetached
  have hleft := (hdetached.removeAuras hremove).act (.leave id) trivial
  rwa [leftBy_leave_of_bereft hdetach hremove, leftBy_of_ok hleave] at hleft

/-! ### Targets -/

lemma next_index_lt {count : Nat} (h : 0 < count) (player : PlayerId) :
    (player.next count).index < count :=
  lt_of_le_of_lt (Nat.mod_le _ _) (Nat.mod_lt _ h)

lemma contains_of_inPlay {b : Board} {entity : Option EntityId} {target : EntityId}
    (h : Targeting.inPlay b entity = some target) : b.contains target = true := by
  unfold Targeting.inPlay at h
  exact (Option.filter_eq_some_iff.mp h).2

/-- A built-in targeting points at nobody or at somebody in play, whoever the owner is and whatever
the occurrence reports. -/
lemma Seated.target_inPlay {b : Board} (h : Seated b.playerCount (outline b))
    {targeting : Targeting} (hbuiltIn : IsBuiltInTargeting targeting) {owner target : EntityId}
    {focus other : Option EntityId}
    (hresolve : targeting.resolve b owner focus other = some target) :
    b.contains target = true := by
  cases targeting with
  | self => exact contains_of_inPlay hresolve
  | focus => exact contains_of_inPlay hresolve
  | other => exact contains_of_inPlay hresolve
  | focusOrSelf =>
    cases hfocus : Targeting.inPlay b focus with
    | some entity =>
      obtain rfl : entity = target := by simpa [Targeting.resolve, hfocus] using hresolve
      exact contains_of_inPlay hfocus
    | none => exact contains_of_inPlay (by simpa [Targeting.resolve, hfocus] using hresolve)
  | ownerHero =>
    obtain ⟨player, hplayer, rfl⟩ := Option.map_eq_some_iff.mp hresolve
    exact h.hero_inPlay hplayer
  | opponentHero =>
    obtain ⟨player, hplayer, rfl⟩ := Option.map_eq_some_iff.mp hresolve
    exact contains_hero (next_index_lt (Nat.zero_lt_of_lt (h.controller_lt hplayer)) player)
  | fixed entity => simp [IsBuiltInTargeting, bareTargetings] at hbuiltIn

/-! ### Limits and calm -/

/-- Whether a fault says that a limit is met, of an amount or of the occurrences under way. -/
def IsLimit : Fault → Prop
  | .statOverflow _ _ | .reentrantDispatch _ _ | .depthExceeded _ => True
  | _ => False

/-- What is set off leaves all subscriptions to rules, adds none, and lets nobody come or go and no
turn pass. -/
structure Calm (b b' : Board) : Prop where
  ruled : Ruled b'
  fewer : Fewer b b'
  seating_eq : seating b' = seating b
  active_eq : b'.activePlayer = b.activePlayer

lemma Calm.trans {b b' b'' : Board} (h : Calm b b') (h' : Calm b' b'') : Calm b b'' :=
  ⟨h'.ruled, h.fewer.trans h'.fewer, h'.seating_eq.trans h.seating_eq,
    h'.active_eq.trans h.active_eq⟩

lemma Blames.isLimit {b : Board} {target : EntityId} {fault : Fault} (h : Blames b target fault)
    (hin : b.contains target = true) : IsLimit fault := by
  obtain ⟨key, rfl⟩ : ∃ key, fault = .statOverflow target key := by simpa [Blames, hin] using h
  trivial

section Calms

variable {b b' : Board} (h : Ruled b)

include h

lemma Ruled.calm_of_outline (houtline : outline b' = outline b)
    (hlistening : listening b' = listening b) (hupkeep : upkeep b' = upkeep b)
    (hactive : b'.activePlayer = b.activePlayer) : Calm b b' where
  ruled := h.of_idle ⟨h.frame_of_outline houtline, hlistening, hupkeep⟩
  fewer := fewer_of_listening hlistening
  seating_eq := seating_eq_of_outline houtline
  active_eq := hactive

lemma Ruled.calm_self : Calm b b :=
  h.calm_of_outline rfl rfl rfl rfl

lemma Ruled.calm_of_bare (hbare : bare b' = bare b) : Calm b b' :=
  h.calm_of_outline (outline_eq_of_bare hbare) (listening_eq_of_bare hbare)
    (upkeep_eq_of_bare hbare) (congrArg (·.activePlayer) hbare)

lemma Ruled.calm_dispatching (stack : List (EntityId × String)) :
    Calm b { b with dispatching := stack } :=
  h.calm_of_outline rfl rfl rfl rfl

lemma Ruled.calm_spend (spent : List ListenerId) : Calm b { b with spent } :=
  h.calm_of_outline rfl rfl rfl rfl

lemma Ruled.removeAura_ending {surface : EntityId} {event : String} {id : ListenerId}
    {listener : Listener} (hmem : (id, listener) ∈ listenersAt b surface event) {aura : AuraId}
    (hhandler : listener.handler = .endAura aura) {fault : Fault} {b' : Board}
    (hrun : Board.removeAura aura b = .error fault b') : IsLimit fault := by
  obtain ⟨keeper, k, hk, rfl, hon⟩ := h.keptAt_iff.mp hmem
  have howner := owner_inPlay h.wellFormed hk
  cases keeper with
  | effect owner index =>
    obtain ⟨effect, -, rfl⟩ := Option.map_eq_some_iff.mp hk
    cases hhandler
  | aura number =>
    obtain ⟨⟨slot, player⟩, hget, rfl⟩ := Option.map_eq_some_iff.mp hk
    have hregistered := playerAura?_eq_some.mp hget
    -- The ending names the slot of its keeper, and the keeper is registered under that number.
    obtain rfl : slot.id = aura := Handler.endAura.inj hhandler
    obtain rfl : slot.id = number := (h.wellFormed.fits _ _ hregistered).id_eq
    obtain ⟨binding, hactive, ⟨-, fault', b₁, herror, -, hblames⟩ | ⟨-, b₁, hlistening, -, hrest⟩⟩ :=
      removeAura_player_outcome h.wellFormed hregistered
    · rw [herror] at hrun
      cases hrun
      exact hblames.isLimit howner
    · have hbinding := hon.binding_eq
      simp only [auraKeeping, hactive, Option.map_some, Option.some.injEq] at hbinding
      have hbound : b₁.isBound binding.surface binding.event binding.listener = true := by
        rw [isBound_iff, show listenersAt b₁ = listenersAt b from congrArg Prod.fst hlistening,
          hbinding]
        exact ⟨_, hmem⟩
      rw [hrest] at hrun
      rcases unsubscribe_outcome binding.surface binding.event binding.listener b₁ with
        ⟨-, b₂, hok, -⟩ | ⟨hunbound, -⟩
      · rw [hok] at hrun
        cases hrun
      · rw [hbound] at hunbound
        cases hunbound

lemma Ruled.calm_removeAura {aura : AuraId} (hrun : Board.removeAura aura b = .ok () b') :
    Calm b b' := by
  have hruled := h.act (.removeAura aura) ⟨b', hrun⟩
  have hfewer := fewer_removeAura h.wellFormed aura
  have hseating := seating_step (.removeAura aura) trivial b
  have hworks : Works b (leftBy (Board.removeAura aura) b) := within_removeAura aura b
  rw [Act.run, leftBy_of_ok hrun] at hruled
  rw [Move.run, leftBy_of_ok hrun] at hseating
  rw [leftBy_of_ok hrun] at hfewer hworks
  exact ⟨hruled, hfewer, hseating, congrArg (·.2.2.1) hworks.course_eq⟩

end Calms

lemma Calm.contains_eq {b b' : Board} (h : Calm b b') (entity : EntityId) :
    b'.contains entity = b.contains entity := by
  rw [contains_eq_of_seating h.seating_eq]

end CardEffects.Proofs
