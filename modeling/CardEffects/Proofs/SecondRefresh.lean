import CardEffects.Proofs.FailedAdditions
import CardEffects.Proofs.Refreshing

/-!
# Refreshing twice

In its turn a minion aura is brought up to date with the auras before it. Those after it can still
change what its selector reads, and then one refresh is not enough. A second refresh changes nothing
exactly if the first one has left every aura up to date.
-/

namespace CardEffects.Proofs

/-- Whether all registered minion auras leave those that they were put on. -/
def AllSnapshot (b : Board) : Prop :=
  ∀ id slot aura, Table.get? b.auras id = some { slot, aura := .minions aura } →
    aura.removal = .snapshot

/-- Whether a minion aura matches the board: it is on those that it picks with its own change taken
back. -/
def UpToDate (b : Board) (id : AuraId) : Prop :=
  ∀ slot aura, Table.get? b.auras id = some { slot, aura := .minions aura } →
    ∀ covered, aura.players.minions b slot.owner = .ok covered →
      pickedAnew b aura slot.owner covered = aura.affected

/-- Whether two boards have the same seating, stats and registered auras. -/
structure Alike (b b' : Board) : Prop where
  seating_eq : seating b' = seating b
  level_eq : level b' = level b
  get?_eq : ∀ id, Table.get? b'.auras id = Table.get? b.auras id

lemma Alike.trans {b b' b'' : Board} (h : Alike b b') (h' : Alike b' b'') : Alike b b'' :=
  ⟨h'.seating_eq.trans h.seating_eq, h'.level_eq.trans h.level_eq,
    fun id => (h'.get?_eq id).trans (h.get?_eq id)⟩

lemma Alike.allSnapshot {b b' : Board} (h : Alike b b') (hsnap : AllSnapshot b) : AllSnapshot b' :=
  fun id slot aura hget => hsnap id slot aura ((h.get?_eq id).symm.trans hget)

lemma Alike.upToDate_iff {b b' : Board} (h : Alike b b') (hsnap : AllSnapshot b) (id : AuraId) :
    UpToDate b' id ↔ UpToDate b id := by
  unfold UpToDate
  rw [h.get?_eq]
  refine forall_congr' fun slot => forall_congr' fun aura => forall_congr' fun hget => ?_
  have htaken : takenFrom b' aura = takenFrom b aura := by
    rw [takenFrom_snapshot (hsnap id slot aura hget), takenFrom_snapshot (hsnap id slot aura hget),
      isMinion_eq_of_seating h.seating_eq]
  unfold pickedAnew levelWithout
  rw [minions_eq_of_seating h.seating_eq, h.level_eq, htaken]

/-! ### Auras that are up to date -/

lemma takenFrom_of_minions {b : Board} {aura : MinionAura} (hsnapshot : aura.removal = .snapshot)
    {slot : Slot} {affected : List EntityId} (hactive : aura.active = some (slot, affected))
    (hminions : ∀ e ∈ affected, b.isMinion e = true) : takenFrom b aura = affected := by
  rw [takenFrom_snapshot hsnapshot, affected_of_active hactive]
  exact List.filter_eq_self.mpr hminions

lemma Turn.alike {b b' : Board} (hfit : ScopesFit b) (hsnap : AllSnapshot b) {id : AuraId}
    {slot : Slot} {aura : MinionAura}
    (hget : Table.get? b.auras id = some { slot, aura := .minions aura })
    {affected covered : List EntityId} (hactive : aura.active = some (slot, affected))
    (hcovered : aura.players.minions b slot.owner = .ok covered)
    (h : Turn b b' id slot aura (pickedAnew b aura slot.owner covered)) (hup : UpToDate b id) :
    Alike b b' := by
  have hsame : pickedAnew b aura slot.owner covered = affected :=
    (hup slot aura hget covered hcovered).trans (affected_of_active hactive)
  have htaken : takenFrom b aura = affected := by
    refine takenFrom_of_minions (hsnap id slot aura hget) hactive fun e he => ?_
    rw [← hsame] at he
    exact (inScope_of_mem_pick hfit.wellFormed hcovered he).1
  refine ⟨h.seating_eq, ?_, fun other => ?_⟩
  · funext entity key
    rw [h.level_eq, htaken, hsame, sub_add_cancel]
  · rw [h.get?_eq, hsame]
    split
    · next hid =>
      rw [← hid, hget, entryOn, ← hactive]
    · rfl

namespace Turns

variable {ids : List AuraId} {b b' : Board}

lemma alike (h : Turns ids b b') (hsnap : AllSnapshot b) (hup : ∀ id ∈ ids, UpToDate b id) :
    Alike b b' := by
  induction h with
  | done b => exact ⟨rfl, rfl, fun _ => rfl⟩
  | idle hother hrest ih => exact ih hsnap fun id hid => hup id (List.mem_cons_of_mem _ hid)
  | next hfit hget hactive hcovered hturn hrest ih =>
    have hfirst := hturn.alike hfit hsnap hget hactive hcovered (hup _ List.mem_cons_self)
    refine hfirst.trans (ih (hfirst.allSnapshot hsnap) fun id hid => ?_)
    exact (hfirst.upToDate_iff hsnap id).mpr (hup id (List.mem_cons_of_mem _ hid))

lemma upToDate (h : Turns ids b b') (hnodup : ids.Nodup) (hsnap : AllSnapshot b)
    (hsame : ∀ id ∈ ids, Table.get? b'.auras id = Table.get? b.auras id) :
    ∀ id ∈ ids, UpToDate b id := by
  induction h with
  | done b => simp
  | @idle first ids b b' hother hrest ih =>
    obtain ⟨-, hnodup'⟩ := List.nodup_cons.mp hnodup
    have hrestUp := ih hnodup' hsnap fun id hid => hsame id (List.mem_cons_of_mem _ hid)
    refine List.forall_mem_cons.mpr ⟨fun slot aura hget => ?_, hrestUp⟩
    exact absurd hget (hother slot aura)
  | @next first ids b b₁ b' slot aura affected covered hfit hget hactive hcovered hturn hrest ih =>
    obtain ⟨hnot, hnodup'⟩ := List.nodup_cons.mp hnodup
    obtain ⟨hsameFirst, hsameRest⟩ := List.forall_mem_cons.mp hsame
    -- The later turns leave the entry of the first aura alone, so its own turn did not change it.
    have hup : UpToDate b first := by
      rw [hrest.get?_eq_of_not_mem hnot, hturn.get?_eq, if_pos rfl, hget] at hsameFirst
      intro slot' aura' hget' covered' hcovered'
      obtain ⟨rfl, rfl⟩ := minionAura_unique hget hget'
      obtain rfl := Except.ok.inj (hcovered.symm.trans hcovered')
      have hsameAura := (minionAura_unique rfl hsameFirst).2
      rw [affected_of_active (congrArg MinionAura.active hsameAura.symm)]
    -- Then that turn changed nothing, and the others start from a board like the first one.
    have hfirst := hturn.alike hfit hsnap hget hactive hcovered hup
    have hrestUp := ih hnodup' (hfirst.allSnapshot hsnap) fun id hid =>
      (hsameRest id hid).trans (hfirst.get?_eq id).symm
    exact List.forall_mem_cons.mpr
      ⟨hup, fun id hid => (hfirst.upToDate_iff hsnap id).mp (hrestUp id hid)⟩

end Turns

/-! ### Changes that are not read -/

/-- Whether the selector of one registered minion aura reads nothing of the change of another. -/
def Unread (b : Board) (id id' : AuraId) : Prop :=
  ∀ slot aura slot' aura', Table.get? b.auras id = some { slot, aura := .minions aura } →
    Table.get? b.auras id' = some { slot := slot', aura := .minions aura' } →
      reading aura.selector (delta aura'.change) = 0

lemma Turn.reading_eq {b b' : Board} {id : AuraId} {slot : Slot} {aura : MinionAura}
    {matched : List EntityId} (h : Turn b b' id slot aura matched) (selector : Selector)
    (e : EntityId) :
    reading selector (level b' e) = reading selector (levelWithout b aura e) +
      if e ∈ matched then reading selector (delta aura.change) else 0 := by
  rw [← reading_changed]
  congr 1
  funext key
  rw [h.level_eq]
  unfold levelWithout changed
  split <;> simp [sub_eq_add_neg]

lemma reading_levelWithout (selector : Selector) (b : Board) (aura : MinionAura) (e : EntityId) :
    reading selector (levelWithout b aura e) = reading selector (level b e) -
      if e ∈ takenFrom b aura then reading selector (delta aura.change) else 0 := by
  unfold levelWithout
  rw [reading_changed, reading_neg]
  split <;> ring

section Turn

variable {b b' : Board} {id : AuraId} {slot : Slot} {aura : MinionAura} {matched : List EntityId}

lemma Turn.allSnapshot (h : Turn b b' id slot aura matched)
    (hget : Table.get? b.auras id = some { slot, aura := .minions aura }) (hsnap : AllSnapshot b) :
    AllSnapshot b' := by
  intro other slot' aura' hget'
  obtain ⟨active, hwas⟩ := h.was hget hget'
  have hsnapshot := hsnap other slot' _ hwas
  exact hsnapshot

lemma Turn.unread (h : Turn b b' id slot aura matched)
    (hget : Table.get? b.auras id = some { slot, aura := .minions aura }) {first second : AuraId}
    (hunread : Unread b first second) : Unread b' first second := by
  intro slot₁ aura₁ slot₂ aura₂ hget₁ hget₂
  obtain ⟨active₁, hwas₁⟩ := h.was hget hget₁
  obtain ⟨active₂, hwas₂⟩ := h.was hget hget₂
  have hzero := hunread slot₁ _ slot₂ _ hwas₁ hwas₂
  exact hzero

end Turn

lemma Turn.upToDate {b b₁ b' : Board} (hfit : ScopesFit b) {id : AuraId} {slot : Slot}
    {aura : MinionAura} (hsnapshot : aura.removal = .snapshot) {covered : List EntityId}
    (hcovered : aura.players.minions b slot.owner = .ok covered)
    (h : Turn b b₁ id slot aura (pickedAnew b aura slot.owner covered))
    (hseating : seating b' = seating b)
    (hget' : Table.get? b'.auras id =
      some (entryOn slot aura (pickedAnew b aura slot.owner covered)))
    (hread : ∀ e, reading aura.selector (level b' e) = reading aura.selector (level b₁ e)) :
    UpToDate b' id := by
  generalize hmatched : pickedAnew b aura slot.owner covered = matched at h hget'
  intro slot' aura' hget'' covered' hcovered'
  obtain ⟨rfl, rfl⟩ := minionAura_unique hget' hget''
  rw [minions_eq_of_seating hseating] at hcovered'
  obtain rfl := Except.ok.inj (hcovered.symm.trans hcovered')
  have htaken : takenFrom b' { aura with active := some (slot, matched) } = matched := by
    refine takenFrom_of_minions (by exact hsnapshot) rfl fun e he => ?_
    rw [← hmatched] at he
    rw [isMinion_eq_of_seating hseating]
    exact (inScope_of_mem_pick hfit.wellFormed hcovered he).1
  rw [affected_of_active rfl]
  refine Eq.trans (pick_congr _ _ _ _ fun e _ => ?_) hmatched
  rw [reading_levelWithout, htaken, hread, h.reading_eq, add_sub_cancel_right]

namespace Turns

variable {ids : List AuraId} {b b' : Board}

lemma allSnapshot (h : Turns ids b b') (hsnap : AllSnapshot b) : AllSnapshot b' := by
  induction h with
  | done b => exact hsnap
  | idle hother hrest ih => exact ih hsnap
  | next hfit hget hactive hcovered hturn hrest ih => exact ih (hturn.allSnapshot hget hsnap)

lemma reading_eq (h : Turns ids b b') {selector : Selector}
    (hunread : ∀ id ∈ ids, ∀ slot aura,
      Table.get? b.auras id = some { slot, aura := .minions aura } →
        reading selector (delta aura.change) = 0) (e : EntityId) :
    reading selector (level b' e) = reading selector (level b e) := by
  induction h with
  | done b => rfl
  | idle hother hrest ih => exact ih fun id hid => hunread id (List.mem_cons_of_mem _ hid)
  | @next first ids b b₁ b' slot aura affected covered hfit hget hactive hcovered hturn hrest ih =>
    have hzero := hunread first List.mem_cons_self slot aura hget
    have hstep : reading selector (level b₁ e) = reading selector (level b e) := by
      rw [hturn.reading_eq, reading_levelWithout, hzero]
      simp
    rw [← hstep]
    refine ih fun id hid slot' aura' hget' => ?_
    obtain ⟨active, hwas⟩ := hturn.was hget hget'
    have hzero' := hunread id (List.mem_cons_of_mem _ hid) slot' _ hwas
    exact hzero'

/-- An aura is up to date after its turn, and stays so while the changes of those after it are not
read by it. -/
lemma upToDate_after (h : Turns ids b b') (hnodup : ids.Nodup) (hsnap : AllSnapshot b)
    (hunread : ids.Pairwise (Unread b)) : ∀ id ∈ ids, UpToDate b' id := by
  induction h with
  | done b => simp
  | @idle first ids b b' hother hrest ih =>
    obtain ⟨hnot, hnodup'⟩ := List.nodup_cons.mp hnodup
    refine List.forall_mem_cons.mpr
      ⟨fun slot aura hget => ?_, ih hnodup' hsnap (List.pairwise_cons.mp hunread).2⟩
    rw [hrest.get?_eq_of_not_mem hnot] at hget
    exact absurd hget (hother slot aura)
  | @next first ids b b₁ b' slot aura affected covered hfit hget hactive hcovered hturn hrest ih =>
    obtain ⟨hnot, hnodup'⟩ := List.nodup_cons.mp hnodup
    obtain ⟨hfirst, hpairs⟩ := List.pairwise_cons.mp hunread
    have hread : ∀ e, reading aura.selector (level b' e) = reading aura.selector (level b₁ e) := by
      refine hrest.reading_eq fun id hid slot' aura' hget' => ?_
      obtain ⟨active, hwas⟩ := hturn.was hget hget'
      have hzero := hfirst id hid slot aura slot' _ hget hwas
      exact hzero
    have hget' : Table.get? b'.auras first =
        some (entryOn slot aura (pickedAnew b aura slot.owner covered)) := by
      rw [hrest.get?_eq_of_not_mem hnot, hturn.get?_eq, if_pos rfl]
    refine List.forall_mem_cons.mpr ⟨?_, ?_⟩
    · exact hturn.upToDate hfit (hsnap first slot aura hget) hcovered
        (hrest.seating_eq.trans hturn.seating_eq) hget' hread
    · exact ih hnodup' (hturn.allSnapshot hget hsnap) (hpairs.imp (hturn.unread hget))

end Turns

/-! ### Refreshing twice -/

/-- Whether a refresh has changed no stat, no aura, and not whom an aura is on. -/
structure Still (b b' : Board) : Prop where
  stats_eq : ∀ entity key, b'.stat? entity key = b.stat? entity key
  auras_eq : ∀ id, Table.get? b'.auras id = Table.get? b.auras id

lemma Alike.still {b b' : Board} (h : Alike b b') : Still b b' where
  stats_eq entity key := stat?_eq_of_level (contains_eq_of_seating h.seating_eq)
    (congrFun (congrFun h.level_eq entity) key)
  auras_eq := h.get?_eq

lemma forall_upToDate {b : Board} (hfit : HoldingsFit b)
    (h : ∀ id ∈ refreshOrder b, UpToDate b id) : ∀ id, UpToDate b id := fun id slot aura hget =>
  h id ((mem_refreshOrder hfit id).mpr ⟨_, hget⟩) slot aura hget

/-- A refresh changes nothing exactly if all auras are up to date before it. -/
lemma Turns.still_iff {b b' : Board} (h : Turns (refreshOrder b) b b') (hfit : HoldingsFit b)
    (hsnap : AllSnapshot b) : Still b b' ↔ ∀ id, UpToDate b id := by
  constructor
  · intro hstill
    exact forall_upToDate hfit (h.upToDate (nodup_refreshOrder hfit) hsnap fun id _ =>
      hstill.auras_eq id)
  · intro hup
    exact (h.alike hsnap fun id _ => hup id).still

lemma refreshOrder_refreshAuras {b b' : Board} (hrun : Board.refreshAuras b = .ok () b') :
    refreshOrder b' = refreshOrder b := by
  have hsame := within_every holdings_refreshAura b
  rw [leftBy_of_ok hrun] at hsame
  unfold refreshOrder
  rw [hsame]

/-- When minion auras leave those that they were put on, a second refresh changes nothing exactly if
the first has left every aura on those that it picks with its own change taken back. This is so if
no selector reads the change of an aura that is refreshed later. -/
theorem second_refresh_still_iff {σ : Type} {settings : Settings} {host : σ} {game : Game σ}
    (hnew : Game.new settings host = .ok game) (program : Program σ) {b : Board}
    (hb : b ∈ boards program game) (hsnap : AllSnapshot b) {b₁ b₂ : Board}
    (hfirst : Board.refreshAuras b = .ok () b₁) (hsecond : Board.refreshAuras b₁ = .ok () b₂) :
    (Still b₁ b₂ ↔ ∀ id, UpToDate b₁ id) ∧
    ((refreshOrder b).Pairwise (Unread b) → Still b₁ b₂) := by
  have hdev := ((boards_develop (dispatching_new hnew) program).2 b hb).1
  have hquiet := quiet_refreshAuras b
  have horder := refreshOrder_refreshAuras hfirst
  rw [leftBy_of_ok hfirst] at hquiet
  have hdev₁ := Trans.trans hdev hquiet.develops
  have hholdings := (holdingsFit_new hnew).develops hdev
  have hholdings₁ := (holdingsFit_new hnew).develops hdev₁
  rw [refreshAuras_run] at hfirst hsecond
  have hturns := turns_of_refreshEach ((scopesFit_new (board_new hnew)).develops hdev) hfirst
  have hturns₁ := turns_of_refreshEach ((scopesFit_new (board_new hnew)).develops hdev₁) hsecond
  have hiff := hturns₁.still_iff hholdings₁ (hturns.allSnapshot hsnap)
  refine ⟨hiff, fun hunread => hiff.mpr (forall_upToDate hholdings₁ ?_)⟩
  rw [horder]
  exact hturns.upToDate_after (nodup_refreshOrder hholdings) hsnap hunread

/-- One aura rewards taunt and a later one gives it, and then a minion is summoned. -/
def vanguard : Program Unit :=
  .perform (.addAura ⟨0⟩ ⟨0⟩ (.minions { change := .attack .one, selector := .hasTaunt })) fun _ =>
    .perform (.addAura ⟨0⟩ ⟨0⟩ (.minions { change := .taunt, selector := .minion })) fun _ =>
      .perform (.summon ⟨0⟩ none "Page" .one .one) fun _ => .finish (.ok ())

/-- The first refresh gives the minion taunt after it has looked for taunt, so its reward comes with
the second. -/
theorem vanguard_not_still :
    ∃ game, Game.new Settings.standard () = .ok game ∧ ∃ b ∈ boards vanguard game,
      AllSnapshot b ∧ ∃ b₁ b₂, Board.refreshAuras b = .ok () b₁ ∧
        Board.refreshAuras b₁ = .ok () b₂ ∧ b₁.stat? ⟨2⟩ Stat.attack = some .one ∧
        b₂.stat? ⟨2⟩ Stat.attack = some (.clamp 2) ∧ ¬∀ id, UpToDate b₁ id := by
  obtain ⟨game, hnew⟩ : ∃ game, Game.new Settings.standard () = .ok game := ⟨_, rfl⟩
  have hlast : (leftBy (Game.execute vanguard) game).board ∈ boards vanguard game := by
    simp [boards]
  have hsnap : AllSnapshot (leftBy (Game.execute vanguard) game).board := by
    cases hnew
    intro id slot aura hget
    have hmem : (id, ActiveAura.mk slot (.minions aura)) ∈
        [(⟨0⟩, entryOn ⟨⟨0⟩, ⟨0⟩, ⟨0⟩⟩ { change := .attack .one, selector := .hasTaunt } []),
          (⟨1⟩, entryOn ⟨⟨1⟩, ⟨0⟩, ⟨0⟩⟩ { change := .taunt, selector := .minion } [])] :=
      mem_of_get? hget
    rcases List.mem_pair.mp hmem with hreward | hgift
    · cases hreward
      rfl
    · cases hgift
      rfl
  obtain ⟨b₁, b₂, hfirst, hsecond, hbefore, hafter⟩ : ∃ b₁ b₂, Board.refreshAuras
      (leftBy (Game.execute vanguard) game).board = .ok () b₁ ∧
        Board.refreshAuras b₁ = .ok () b₂ ∧ b₁.stat? ⟨2⟩ Stat.attack = some .one ∧
        b₂.stat? ⟨2⟩ Stat.attack = some (.clamp 2) := by
    cases hnew
    exact ⟨_, _, rfl, rfl, rfl, rfl⟩
  refine ⟨game, hnew, _, hlast, hsnap, b₁, b₂, hfirst, hsecond, hbefore, hafter, fun hup => ?_⟩
  have hstill :=
    (second_refresh_still_iff hnew vanguard hlast hsnap hfirst hsecond).1.mpr hup
  have hsame := hstill.stats_eq ⟨2⟩ Stat.attack
  rw [hbefore, hafter] at hsame
  revert hsame
  decide

end CardEffects.Proofs
