import CardEffects.Proofs.Balances
import CardEffects.Proofs.Chronicles

/-!
# Listener accounting

As long as only what was subscribed by hand is released by hand, and no player aura fails to be
removed, all subscriptions in force are accounted for: those made by hand on surfaces in play and
not released since, one for each attached effect and one for each registered player aura.

By hand is everything but attaching, detaching, adding and removing: an effect or an aura that is
switched on without being attached or registered subscribes by hand.
-/

namespace CardEffects.Proofs

/-! ### What is done by hand -/

/-- Whether an act subscribes by hand and gets a number for it. -/
def Listens (surface : EntityId) (event : String) (id : ListenerId) (listener : Listener)
    (b : Board) (act : Act) : Prop :=
  act = .listen surface event listener ∧ ∃ b', Board.subscribe surface event listener b = .ok id b'

def Releases (surface : EntityId) (event : String) (id : ListenerId) (b : Board) (act : Act) : Prop :=
  act = .release surface event id ∧ ∃ b', Board.unsubscribe surface event id b = .ok () b'

/-- Whether a number was given to somebody who subscribed by hand. -/
def Given (start : Board) (acts : List Act) (id : ListenerId) : Prop :=
  ∃ surface event listener, Past (Listens surface event id listener) start acts

/-- Whether a subscription was made by hand and not released by hand. -/
def ByHand (start : Board) (acts : List Act) (surface : EntityId) (event : String)
    (id : ListenerId) (listener : Listener) : Prop :=
  Past (Listens surface event id listener) start acts ∧ ¬Past (Releases surface event id) start acts

/-- Whether an act keeps to the rules after some others: only numbers that were given by hand are
released by hand, and no removal of a player aura fails. -/
def Act.Proper (start : Board) (before : List Act) : Act → Prop
  | .release _ _ id => Given start before id
  | .removeAura id => playerAura? (enact start before) id = none ∨
    ∃ b', Board.removeAura id (enact start before) = .ok () b'
  | _ => True

/-- Whether each of some acts keeps to the rules. -/
def Orderly (start : Board) (acts : List Act) : Prop :=
  ∀ before act after, acts = before ++ act :: after → act.Proper start before

lemma orderly_concat {start : Board} {acts : List Act} {act : Act} :
    Orderly start (acts ++ [act]) ↔ Orderly start acts ∧ act.Proper start acts := by
  have hnot := not_congr
    (exists_split_concat (Q := fun before act => ¬act.Proper start before) acts act)
  push Not at hnot
  exact hnot

lemma orderly_of_proper {start : Board} {acts : List Act}
    (h : ∀ act ∈ acts, ∀ before, act.Proper start before) : Orderly start acts :=
  fun before act after hacts => h act (by simp [hacts]) before

lemma listens_iff {b : Board} {act : Act} {surface : EntityId} {event : String} {id : ListenerId}
    {listener : Listener} : Listens surface event id listener b act ↔
      act = .listen surface event listener ∧ b.contains surface = true ∧ id = ⟨b.nextListener⟩ := by
  unfold Listens
  rw [subscribe_run, ← character?_isSome]
  cases hc : b.character? surface <;> simp [eq_comm]

lemma releases_iff {b : Board} {act : Act} {surface : EntityId} {event : String}
    {id : ListenerId} : Releases surface event id b act ↔
      act = .release surface event id ∧ b.isBound surface event id = true := by
  unfold Releases
  rcases unsubscribe_outcome surface event id b with
    ⟨hbound, b', hrun, -⟩ | ⟨hunbound, fault, -, hrun⟩
  · simp [hbound, hrun]
  · simp [hunbound, hrun]

lemma given_concat {start : Board} {acts : List Act} {act : Act} {id : ListenerId} :
    Given start (acts ++ [act]) id ↔ Given start acts id ∨
      ∃ surface event listener, Listens surface event id listener (enact start acts) act := by
  simp only [Given, past_concat, exists_or]

lemma byHand_concat {start : Board} {acts : List Act} {act : Act} {surface : EntityId}
    {event : String} {id : ListenerId} {listener : Listener} :
    ByHand start (acts ++ [act]) surface event id listener ↔
      (Past (Listens surface event id listener) start acts ∨
        Listens surface event id listener (enact start acts) act) ∧
      ¬Past (Releases surface event id) start acts ∧
      ¬Releases surface event id (enact start acts) act := by
  simp only [ByHand, past_concat, not_or]

/-- Whether the subscriptions of a run are balanced after some acts. -/
def BalancedAfter (start : Board) (acts : List Act) : Prop :=
  Balanced (Given start acts) (ByHand start acts) (enact start acts)

lemma BalancedAfter.of_other {start : Board} {acts : List Act} {act : Act}
    (h : Balanced (Given start acts) (ByHand start acts) (enact start (acts ++ [act])))
    (hlistens : ∀ surface event id listener,
      ¬Listens surface event id listener (enact start acts) act)
    (hreleases : ∀ surface event id, ¬Releases surface event id (enact start acts) act) :
    BalancedAfter start (acts ++ [act]) := by
  have hgiven : Given start (acts ++ [act]) = Given start acts := by
    funext id
    simp [given_concat, hlistens]
  have hbyHand : ByHand start (acts ++ [act]) = ByHand start acts := by
    funext surface event id listener
    simp [ByHand, past_concat, hlistens, hreleases]
  unfold BalancedAfter
  rwa [hgiven, hbyHand]

lemma nextListener_le_enact {b : Board} (h : KeepersFit b) (acts : List Act) :
    b.nextListener ≤ (enact b acts).nextListener := by
  induction acts generalizing b with
  | nil => exact le_rfl
  | cons act acts ih =>
    exact (nextListener_le_of_outcome h (h.outcome act)).trans (ih (h.act (h.outcome act)))

lemma released_lt_next {start : Board} (h : KeepersFit start) {acts : List Act}
    {surface : EntityId} {event : String} {id : ListenerId}
    (hpast : Past (Releases surface event id) start acts) :
    id.raw < (enact start acts).nextListener := by
  obtain ⟨before, act, after, rfl, hreleases⟩ := hpast
  have hbefore := keepersFit_enact h before
  obtain ⟨listener, hmem⟩ := (isBound_iff _ _ _ _).mp (releases_iff.mp hreleases).2
  rw [enact_append]
  exact lt_of_lt_of_le (hbefore.lt_next hmem) (nextListener_le_enact hbefore _)

section ByHand

variable {start : Board} {acts : List Act} {surface : EntityId} {event : String}

lemma given_listen {listener : Listener} (hin : (enact start acts).contains surface = true) :
    Given start (acts ++ [.listen surface event listener]) =
      fun id => Given start acts id ∨ id = ⟨(enact start acts).nextListener⟩ := by
  funext id
  simp [given_concat, listens_iff, hin]

lemma byHand_listen (hstart : KeepersFit start) {listener : Listener}
    (hin : (enact start acts).contains surface = true) :
    ByHand start (acts ++ [.listen surface event listener]) =
      fun surface' event' id other => ByHand start acts surface' event' id other ∨
        surface = surface' ∧ event = event' ∧ id = ⟨(enact start acts).nextListener⟩ ∧
          other = listener := by
  funext surface' event' id other
  have hfresh : id = ⟨(enact start acts).nextListener⟩ →
      ¬Past (Releases surface' event' id) start acts := by
    rintro rfl hpast
    exact lt_irrefl _ (released_lt_next hstart hpast)
  refine propext (byHand_concat.trans ?_)
  simp only [listens_iff, releases_iff, ByHand, Act.listen.injEq, reduceCtorEq, false_and,
    not_false_eq_true, and_true]
  constructor
  · rintro ⟨hold | ⟨⟨rfl, rfl, rfl⟩, -, hid⟩, hnot⟩
    · exact .inl ⟨hold, hnot⟩
    · exact .inr ⟨rfl, rfl, hid, rfl⟩
  · rintro (⟨hold, hnot⟩ | ⟨rfl, rfl, hid, rfl⟩)
    · exact ⟨.inl hold, hnot⟩
    · exact ⟨.inr ⟨⟨rfl, rfl, rfl⟩, hin, hid⟩, hfresh hid⟩

lemma given_release {id : ListenerId} :
    Given start (acts ++ [.release surface event id]) = Given start acts := by
  funext id'
  simp [given_concat, listens_iff]

lemma byHand_release {id : ListenerId}
    (hbound : (enact start acts).isBound surface event id = true) :
    ByHand start (acts ++ [.release surface event id]) =
      fun surface' event' id' listener => ByHand start acts surface' event' id' listener ∧
        ¬(surface' = surface ∧ event' = event ∧ id' = id) := by
  funext surface' event' id' listener
  refine propext (byHand_concat.trans ?_)
  simp only [listens_iff, releases_iff, ByHand, Act.release.injEq, reduceCtorEq, false_and,
    or_false]
  constructor
  · rintro ⟨hold, hnot, hother⟩
    refine ⟨⟨hold, hnot⟩, ?_⟩
    rintro ⟨rfl, rfl, rfl⟩
    exact hother ⟨⟨rfl, rfl, rfl⟩, hbound⟩
  · rintro ⟨⟨hold, hnot⟩, hother⟩
    refine ⟨hold, hnot, ?_⟩
    rintro ⟨⟨rfl, rfl, rfl⟩, -⟩
    exact hother ⟨rfl, rfl, rfl⟩

end ByHand

lemma BalancedAfter.concat {start : Board} (hstart : KeepersFit start) {acts : List Act}
    (h : BalancedAfter start acts) {act : Act} (hproper : act.Proper start acts) :
    BalancedAfter start (acts ++ [act]) := by
  have hfit := keepersFit_enact hstart acts
  have hout := hfit.outcome act
  have hfit' := hfit.act hout
  have hlast := enact_concat start acts act
  generalize leftBy act.run (enact start acts) = b' at hout hfit' hlast
  unfold BalancedAfter at h
  by_cases hhand : act.ByHand
  · cases hout with
    | failed hrun hkeeps =>
      refine .of_other (hlast ▸ h) ?_ ?_
      · rintro surface event id listener ⟨rfl, b', hok⟩
        simp [Act.run, hok] at hrun
      · rintro surface event id ⟨rfl, b', hok⟩
        simp [Act.run, hok] at hrun
    | listened hrun hin hframe hgained hupkeep =>
      unfold BalancedAfter
      rw [hlast, given_listen hin, byHand_listen hstart hin]
      exact h.listened hfit hfit' hframe hgained hin hupkeep
    | released hrun hbound hframe hfreed hupkeep =>
      unfold BalancedAfter
      rw [hlast, given_release, byHand_release hbound]
      exact h.released hfit hfit' hframe hfreed hbound hupkeep hproper
    | idle hplain hidle => cases act <;> first | exact hhand.elim | exact hplain.elim
    | left | attached | detached | added | removed => exact hhand.elim
  · refine .of_other (hlast ▸ h.outcome hfit hfit' hout hhand ?_) ?_ ?_
    · rintro id rfl
      exact hproper
    · rintro surface event id listener ⟨rfl, -⟩
      exact hhand trivial
    · rintro surface event id ⟨rfl, -⟩
      exact hhand trivial

/-! ### Runs -/

section Runs

variable {σ : Type} {settings : Settings} {host : σ} {game : Game σ}
  (hnew : Game.new settings host = .ok game)

include hnew

lemma balancedAfter_start : BalancedAfter game.board [] := by
  have hboard := board_new hnew
  have heffects : effectsOf game.board = fun _ => [] := congrArg Prod.fst (upkeep_new hboard)
  have hauras : playerAura? game.board = fun _ => none := congrArg Prod.snd (upkeep_new hboard)
  have hnobody : ∀ {keeper surface event id listener},
      ¬KeptAt game.board keeper surface event id listener := by
    rintro keeper surface event id listener ⟨k, hk, -⟩
    cases keeper <;> simp [keeping?, heffects, hauras] at hk
  have hgiven : ∀ {id}, ¬Given game.board [] id := by
    rintro id ⟨surface, event, listener, hpast⟩
    exact not_past_nil _ hpast
  have hbyHand : ∀ {surface event id listener},
      ¬ByHand game.board [] surface event id listener := fun hby => not_past_nil _ hby.1
  constructor
  · exact fun h => absurd h hgiven
  · exact fun _ => hnobody
  · exact fun h => absurd h hbyHand
  · exact fun h => absurd h hbyHand
  · simp [listenersAt_new hboard, hnobody, hbyHand]

/-- Acts that all keep to the rules keep subscriptions balanced. -/
lemma balancedAfter_of_orderly {acts : List Act} (h : Orderly game.board acts) :
    BalancedAfter game.board acts := by
  induction acts using List.reverseRecOn with
  | nil => exact balancedAfter_start hnew
  | append_singleton acts act ih =>
    obtain ⟨hbefore, hproper⟩ := orderly_concat.mp h
    exact (ih hbefore).concat (keepersFit_start hnew) hproper

end Runs

/-! ### What is silent afterwards -/

section Silence

variable {b b' : Board} (hfit : KeepersFit b) {id : ListenerId} {surface : EntityId} {event : String}
  {listener : Listener}

include hfit

lemma not_inForce_of_detachEffects {owner : EntityId} {count : Nat}
    (hrun : Board.detachEffects owner b = .ok count b') {index : Nat}
    (hkept : KeptAt b (.effect owner index) surface event id listener) : ¬InForce b' id := by
  have hheard := ((detach_ok_iff hfit owner).mp ⟨count, b', hrun⟩).2
  have hfreed := freed_of_heard hfit owner hheard
  rw [leftBy_of_ok hrun] at hfreed
  exact hfreed.not_inForce (hfit.mem_numbers_iff.mpr ⟨_, _, _, _, ⟨index, rfl⟩, hkept⟩)

lemma not_inForce_of_removeAura {aura : AuraId} (hrun : Board.removeAura aura b = .ok () b')
    (hkept : KeptAt b (.aura aura) surface event id listener) : ¬InForce b' id := by
  obtain ⟨k, hk, -, hon⟩ := hkept
  obtain ⟨⟨slot, player⟩, hget, rfl⟩ := Option.map_eq_some_iff.mp hk
  obtain ⟨binding, hbinding, hfreed⟩ := freed_of_removeAura hfit hget hrun
  have hsame := Option.some.inj (hbinding.symm.trans hon.binding_eq)
  exact hfreed.not_inForce (by simp [hsame])

lemma not_inForce_of_removeAuras {auras : List AuraId}
    (hrun : Board.removeAuras auras b = .ok () b') {aura : AuraId} (hmem : aura ∈ auras)
    (hkept : KeptAt b (.aura aura) surface event id listener) : ¬InForce b' id := by
  induction auras generalizing b with
  | nil => cases hmem
  | cons first auras ih =>
    obtain ⟨b₁, hfirst, hrest⟩ := removeAuras_cons_ok hrun
    have hfit₁ := hfit.act (hfit.outcome (.removeAura first))
    rw [Act.run, leftBy_of_ok hfirst] at hfit₁
    by_cases hsame : aura = first
    · subst hsame
      have hfewer := fewer_removeAuras auras hfit₁.wellFormed
      rw [leftBy_of_ok hrest] at hfewer
      exact fun hforce => not_inForce_of_removeAura hfit hfirst hkept (hforce.of_fewer hfewer)
    · have hremoved := removed hfit first
      rw [leftBy_of_ok hfirst] at hremoved
      refine ih hfit₁ hrest ((List.mem_cons.mp hmem).resolve_left hsame) ?_
      refine hkept.steady hremoved.frame.steady hfit.wellFormed hfit₁.wellFormed fun k hk => ?_
      exact (hremoved.keeping _ _).mpr ⟨hk, fun heq => hsame (Keeper.aura.inj heq)⟩

lemma not_inForce_of_removeMinion {minion : EntityId} {body : Minion}
    (hrun : Board.removeMinion minion b = .ok body b') {keeper : Keeper} {k : Keeping}
    (hk : keeping? b keeper = some k) (howner : k.owner = minion)
    (hkept : KeptAt b keeper surface event id listener) : ¬InForce b' id := by
  obtain ⟨-, count, b₁, b₂, hdetach, hremove, -, hminion, rfl⟩ := removeMinion_ok hrun
  have hfit₁ := hfit.act (hfit.outcome (.detach minion))
  rw [Act.run, leftBy_discard, leftBy_of_ok hdetach] at hfit₁
  have hauras := fewer_removeAuras (b₁.aurasOwnedBy minion) hfit₁.wellFormed
  have htold : leftBy (Board.removeAuras (b₁.aurasOwnedBy minion)) b₁ = enact b₁ _ :=
    (tellsRemoveAuras _).told b₁
  rw [leftBy_of_ok hremove] at hauras htold
  have hleave := fewer_departed (htold ▸ keepersFit_enact hfit₁ _).wellFormed hminion
  cases keeper with
  | effect owner index =>
    obtain ⟨effect, -, rfl⟩ := Option.map_eq_some_iff.mp hk
    obtain rfl : owner = minion := howner
    exact fun hforce => not_inForce_of_detachEffects hfit hdetach hkept
      (hforce.of_fewer (hauras.trans hleave))
  | aura aura =>
    obtain ⟨⟨slot, player⟩, hget, rfl⟩ := Option.map_eq_some_iff.mp hk
    obtain rfl : slot.owner = minion := howner
    have hframe := detach_frame hfit slot.owner
    have hupkeep := upkeep_detachEffects b slot.owner
    have hkeeping := @keeping?_detached b slot.owner (.aura aura)
    rw [leftBy_of_ok hdetach] at hframe hupkeep hkeeping
    have hget₁ : playerAura? b₁ aura = some (slot, player) :=
      (congrFun (congrArg Prod.snd hupkeep) aura).trans hget
    have hkept₁ : KeptAt b₁ (.aura aura) surface event id listener :=
      hkept.steady hframe.steady hfit.wellFormed hfit₁.wellFormed fun k hk =>
        (hkeeping k).mpr ⟨hk, by simp⟩
    exact fun hforce => not_inForce_of_removeAuras hfit₁ hremove
      (mem_aurasOwnedBy (playerAura?_eq_some.mp hget₁)) hkept₁ (hforce.of_fewer hleave)

end Silence

/-- What subscriptions a board has after some acts. Lists are in the order of their numbers, no number
stands twice or is still to be given, and in force are exactly those made by hand on surfaces in play
and not released since, and one for each keeper. Effects that are detached and those who keep
something for a minion that is removed are silent afterwards. -/
structure ListenersAccounted (start : Board) (past : List Act) (b : Board) : Prop where
  increasing : ∀ surface event, (listenersAt b surface event).Pairwise (·.1.raw < ·.1.raw)
  below_next : ∀ {surface event id listener}, (id, listener) ∈ listenersAt b surface event →
    id.raw < b.nextListener
  bound_once : ∀ {surface event surface' event' id listener listener'},
    (id, listener) ∈ listenersAt b surface event → (id, listener') ∈ listenersAt b surface' event' →
      surface = surface' ∧ event = event' ∧ listener = listener'
  bound_iff : ∀ {surface event id listener}, (id, listener) ∈ listenersAt b surface event ↔
    ByHand start past surface event id listener ∧ b.contains surface = true ∨
      ∃ keeper, KeptAt b keeper surface event id listener
  kept_once : ∀ {keeper k}, keeping? b keeper = some k →
    ∃! place : EntityId × ListenerId, KeptAt b keeper place.1 k.event.name place.2 k.listener
  kept_apart : ∀ {keeper keeper' surface event surface' event' id listener listener'},
    KeptAt b keeper surface event id listener → KeptAt b keeper' surface' event' id listener' →
      keeper = keeper'
  byHand_unkept : ∀ {keeper surface event surface' event' id listener listener'},
    ByHand start past surface event id listener → ¬KeptAt b keeper surface' event' id listener'
  detach_ok_iff : ∀ owner, (∃ count b', Board.detachEffects owner b = .ok count b') ↔
    b.contains owner = true
  detached : ∀ {owner count b'}, Board.detachEffects owner b = .ok count b' →
    ∀ {index surface event id listener}, KeptAt b (.effect owner index) surface event id listener →
      ¬InForce b' id
  removed : ∀ {minion body b'}, Board.removeMinion minion b = .ok body b' →
    ∀ {keeper k surface event id listener}, keeping? b keeper = some k → k.owner = minion →
      KeptAt b keeper surface event id listener → ¬InForce b' id

/-- At every moment of a run, all subscriptions are accounted for, as long as so far only what was
subscribed by hand was released by hand and no removal of a player aura has failed. -/
theorem listeners_accounted {σ : Type} {settings : Settings} {host : σ} {game : Game σ}
    (hnew : Game.new settings host = .ok game) (program : Program σ) :
    enact game.board (chronicle program game) = (leftBy (Game.execute program) game).board ∧
      ∀ past, past <+: chronicle program game → Orderly game.board past →
        ListenersAccounted game.board past (enact game.board past) := by
  refine ⟨enact_chronicle program game, fun past _ horderly => ?_⟩
  have hfit := keepersFit_enact (keepersFit_start hnew) past
  have hbalanced : Balanced _ _ _ := balancedAfter_of_orderly hnew horderly
  constructor
  case increasing => exact hfit.ordered
  case below_next => exact hfit.lt_next
  case bound_once =>
    intro surface event surface' event' id listener listener' hmem hmem'
    obtain ⟨rfl, rfl⟩ := hfit.place_eq hmem hmem'
    have hsame := List.inj_on_of_nodup_map (hfit.nodup surface event) hmem hmem' rfl
    exact ⟨rfl, rfl, (Prod.mk.inj hsame).2⟩
  case bound_iff => exact hbalanced.mem_iff
  case kept_once =>
    intro keeper k hk
    obtain ⟨surface, id, hkept, -⟩ := hfit.keptAt hk
    refine ⟨(surface, id), hkept, fun place hplace => ?_⟩
    obtain ⟨hsurface, -, hid, -⟩ := hplace.place_eq hkept
    exact Prod.ext hsurface hid
  case kept_apart => exact hfit.keeper_eq
  case byHand_unkept => exact fun hby => hbalanced.given_unkept (hbalanced.byHand_given hby)
  case detach_ok_iff =>
    intro owner
    rw [detach_ok_iff hfit owner]
    exact and_iff_left fun effect hmem => hbalanced.heard hfit hmem
  case detached => exact fun hrun _ _ _ _ _ hkept => not_inForce_of_detachEffects hfit hrun hkept
  case removed =>
    exact fun hrun _ _ _ _ _ _ hk howner hkept =>
      not_inForce_of_removeMinion hfit hrun hk howner hkept

/-- Whenever a turn of its owner's player ends, the opponent is hurt. -/
def sentry : Effect where
  event := { name := Occurrence.turnEnded, scope := .player }
  action := .damage .one
  targeting := .opponentHero

/-- Until a turn of its owner's player ends, the owner is stronger. -/
def pledge : PlayerAura where
  change := .attack .one
  ending := { name := Occurrence.turnEnded, scope := .player }

/-- A program listens for the end of a turn as do an effect and an aura of a recruit. The program
gives up first, and then the aura is removed. -/
def garrison : Program Unit :=
  .subscribe ⟨0⟩ Occurrence.turnEnded (fun _ => .finish (.ok ())) fun _ =>
    .perform (.summon ⟨0⟩ none "Recruit" .one .one) fun _ =>
      .perform (.attachEffect ⟨2⟩ sentry) fun _ =>
        .perform (.addAura ⟨0⟩ ⟨2⟩ (.player pledge)) fun _ =>
          .perform (.unsubscribe ⟨0⟩ Occurrence.turnEnded ⟨0⟩) fun _ =>
            .perform (.removeAura ⟨0⟩) fun _ => .finish (.ok ())

theorem garrison_accounted :
    ∃ game, Game.new Settings.standard () = .ok game ∧
      Orderly game.board (chronicle garrison game) ∧
      ListenersAccounted game.board (chronicle garrison game)
        (leftBy (Game.execute garrison) game).board ∧
      (listenersAt (leftBy (Game.execute garrison) game).board ⟨0⟩ Occurrence.turnEnded).map
        (·.1) = [⟨1⟩] := by
  obtain ⟨game, hnew⟩ : ∃ game, Game.new Settings.standard () = .ok game := ⟨_, rfl⟩
  obtain ⟨hleads, hpast⟩ := listeners_accounted hnew garrison
  have horderly : Orderly game.board (chronicle garrison game) := by
    have hacts : chronicle garrison game = [
        .listen ⟨0⟩ Occurrence.turnEnded { gate := none, handler := .script },
        .place ⟨0⟩ none "Recruit" .one .one,
        .attach ⟨2⟩ sentry,
        .addAura ⟨0⟩ ⟨2⟩ (.player pledge)] ++
        [.release ⟨0⟩ Occurrence.turnEnded ⟨0⟩] ++ [.removeAura ⟨0⟩] := by
      cases hnew
      rfl
    rw [hacts, orderly_concat, orderly_concat]
    refine ⟨⟨orderly_of_proper fun act hact before => ?_, ?_⟩, ?_⟩
    · simp only [List.mem_cons, List.not_mem_nil, or_false] at hact
      rcases hact with rfl | rfl | rfl | rfl <;> trivial
    · cases hnew
      exact ⟨_, _, _, [], _, _, rfl, rfl, _, rfl⟩
    · cases hnew
      exact .inr ⟨_, rfl⟩
  refine ⟨game, hnew, horderly, hleads ▸ hpast _ (List.prefix_refl _) horderly, ?_⟩
  cases hnew
  decide +kernel

end CardEffects.Proofs
