import CardEffects.Proofs.WellFormed

/-!
# Removal of minion auras

Removing a minion aura strikes it from the register and then takes its change back from minion
after minion. Where one of them cannot bear that, the removal stops halfway: those before it have
lost the change, the others keep it, and no registered aura accounts for it any more.
-/

namespace CardEffects.Proofs

/-- The minions that an aura is to be taken back from when it goes off. -/
def takenFrom (board : Board) (aura : MinionAura) : List EntityId :=
  match aura.active with
  | none => []
  | some (slot, affected) =>
    match aura.leaving board slot.owner affected with
    | .ok targets => targets.filter board.isMinion
    | .error _ => []

lemma takenFrom_of_leaving {board : Board} {aura : MinionAura} {slot : Slot}
    {affected targets : List EntityId} (hactive : aura.active = some (slot, affected))
    (hleaving : aura.leaving board slot.owner affected = .ok targets) :
    takenFrom board aura = targets.filter board.isMinion := by
  simp only [takenFrom, hactive, hleaving]

/-- Whether every minion that an aura is taken back from stays with amounts for stats. -/
def AllBear (board : Board) (aura : MinionAura) : Prop :=
  ∀ target ∈ takenFrom board aura, Bears board target fun key => -delta aura.change key

/-- Whether a removal that fails leaves every stat and the aura as they were. -/
def AllOrNothing (board : Board) (id : AuraId) : Prop :=
  ∀ fault b', Board.removeAura id board = .error fault b' →
    level b' = level board ∧ Table.get? b'.auras id = Table.get? board.auras id

/-! ### What an aura picks is no matter of the register -/

section Deregistered

variable (b : Board) (id : AuraId) (holder : PlayerId)

lemma playerCount_deregistered : (deregistered b id holder).playerCount = b.playerCount :=
  PerPlayer.count_modify _ _ _

lemma seat?_deregistered (entity : EntityId) :
    (deregistered b id holder).seat? entity = b.seat? entity := by
  unfold Board.seat?
  rw [playerCount_deregistered]

lemma minionsOf_deregistered (player : PlayerId) :
    (deregistered b id holder).minionsOf player = b.minionsOf player := by
  unfold Board.minionsOf
  by_cases h : holder = player
  · simp [deregistered, Board.modifyPlayer, PerPlayer.get?_modify, h, Function.comp_def]
  · simp [deregistered, Board.modifyPlayer, PerPlayer.get?_modify, h]

lemma matched_deregistered (aura : MinionAura) (owner : EntityId) :
    aura.matched (deregistered b id holder) owner = aura.matched b owner := by
  have hcontroller : (deregistered b id holder).controller? owner = b.controller? owner := by
    unfold Board.controller?
    rw [seat?_deregistered]
    rfl
  have hsides : (deregistered b id holder).minionsOf = b.minionsOf :=
    funext (minionsOf_deregistered b id holder)
  have hselect : aura.selector.select (deregistered b id holder) owner =
      aura.selector.select b owner := by
    cases aura.selector <;> rfl
  unfold MinionAura.matched Coverage.minions
  rw [hcontroller, playerCount_deregistered, hsides, hselect]

lemma leaving_deregistered (aura : MinionAura) (owner : EntityId) (affected : List EntityId) :
    aura.leaving (deregistered b id holder) owner affected = aura.leaving b owner affected := by
  unfold MinionAura.leaving
  rw [matched_deregistered, contains_eq_of_character? (character?_deregistered b id holder)]

end Deregistered

lemma matched_isOk (aura : MinionAura) {b : Board} {owner : EntityId}
    (h : b.contains owner = true) : ∃ matched, aura.matched b owner = .ok matched := by
  unfold MinionAura.matched Coverage.minions
  cases hcontroller : b.controller? owner with
  | some controller => exact ⟨_, rfl⟩
  | none =>
    unfold Board.controller? at hcontroller
    unfold Board.contains Board.isMinion at h
    cases hseat : b.seat? owner <;> cases hminion : b.minion? owner <;>
      simp_all

lemma leaving_facts {b : Board} (h : WellFormed (outline b)) (aura : MinionAura) (owner : EntityId)
    {affected : List EntityId} (hnodup : affected.Nodup) :
    ∃ targets, aura.leaving b owner affected = .ok targets ∧ targets.Nodup := by
  unfold MinionAura.leaving
  cases aura.removal with
  | snapshot => exact ⟨affected, rfl, hnodup⟩
  | recompute =>
    by_cases hplay : b.contains owner = true
    · obtain ⟨matched, hmatched⟩ := matched_isOk aura hplay
      exact ⟨matched, by simp [hplay, hmatched], (matched_facts h hmatched).1⟩
    · exact ⟨affected, by simp [hplay], hnodup⟩

/-! ### Taking a change back -/

lemma bears_of_shifted {b b' : Board} {targets : List EntityId} {d : String → Int}
    (hshift : Shifted b b' (onTargets targets d)) (hnodup : targets.Nodup) {target : EntityId}
    (hmem : target ∈ targets) (hminion : b.isMinion target = true) : Bears b target d := by
  refine ⟨by simp [Board.contains, hminion], fun key => ?_⟩
  have hlevel := hshift.level_eq target key
  rw [onTargets_of_nodup hnodup, if_pos hmem] at hlevel
  rw [← hlevel]
  exact level_inRange b' target key

lemma level_of_taken {b b' : Board} {targets : List EntityId} {change : StatChange}
    (hshift : Shifted b b' (onTargets targets fun key => -delta change key))
    (hnodup : targets.Nodup) (entity : EntityId) (key : String) :
    level b' entity key =
      level b entity key - if entity ∈ targets then delta change key else 0 := by
  rw [hshift.level_eq, onTargets_of_nodup hnodup]
  by_cases hmem : entity ∈ targets
  · rw [if_pos hmem, if_pos hmem]
    ring
  · rw [if_neg hmem, if_neg hmem]
    ring

/-- Taking a change back from different minions succeeds if all can bear it. Otherwise it stops at
the first that cannot, and only those before it have lost the change. -/
lemma undoOnMinions_prefix (change : StatChange) {targets : List EntityId}
    (hnodup : targets.Nodup) (b : Board) :
    ((∀ target ∈ targets.filter b.isMinion, Bears b target fun key => -delta change key) ∧
      ∃ b', change.undoOnMinions targets b = .ok () b' ∧
        Shifted b b' (onTargets (targets.filter b.isMinion) fun key => -delta change key)) ∨
    ∃ done target rest key b', targets.filter b.isMinion = done ++ target :: rest ∧
      (∀ t ∈ done, Bears b t fun key => -delta change key) ∧
      ¬Bears b target (fun key => -delta change key) ∧
      change.undoOnMinions targets b = .error (.statOverflow target key) b' ∧
      Shifted b b' (onTargets done fun key => -delta change key) := by
  have hnodup' : (targets.filter b.isMinion).Nodup := hnodup.filter _
  have hminion : ∀ t ∈ targets.filter b.isMinion, b.isMinion t = true :=
    fun t ht => (List.mem_filter.mp ht).2
  rcases undoOnMinions_outcome change targets b with
    ⟨b', hrun, hshift⟩ | ⟨done, target, rest, key, b', hsplit, hrun, hshift, hno⟩
  · exact .inl ⟨fun t ht => bears_of_shifted hshift hnodup' ht (hminion t ht), b', hrun, hshift⟩
  · rw [hsplit] at hnodup' hminion
    have hdone : done.Nodup := (List.nodup_append.mp hnodup').1
    have hnew : target ∉ done := fun ht =>
      (List.nodup_append.mp hnodup').2.2 target ht target (by simp) rfl
    refine .inr ⟨done, target, rest, key, b', hsplit, ?_, ?_, hrun, hshift⟩
    · exact fun t ht => bears_of_shifted hshift hdone ht (hminion t (by simp [ht]))
    · -- What the others have lost makes no difference to the target.
      intro hbears
      refine hno (hbears.congr hshift.bare_eq fun key => ?_)
      rw [hshift.level_eq, onTargets_of_nodup hdone, if_neg hnew, add_zero]

/-! ### Removal -/

/-- A removal ends in one of three ways. In each of them the aura has left the register. -/
inductive RemovalOutcome (board : Board) (id : AuraId) (aura : MinionAura) : Prop where
  /-- The aura was off: no stat changes. -/
  | off (b' : Board) (hoff : aura.active = none)
    (hrun : Board.removeAura id board = .error (.notActive .minionAura) b')
    (hgone : b'.isAuraActive id = false) (hlevel : level b' = level board)
  /-- All could bear it: each loses the change. -/
  | taken (b' : Board) (hon : aura.active.isSome) (hbear : AllBear board aura)
    (hrun : Board.removeAura id board = .ok () b') (hgone : b'.isAuraActive id = false)
    (hlevel : ∀ entity key, level b' entity key = level board entity key -
      if entity ∈ takenFrom board aura then delta aura.change key else 0)
  /-- One could not bear it: those before it lose the change, the others keep it. -/
  | halfway (done : List EntityId) (target : EntityId) (rest : List EntityId) (key : String)
    (b' : Board) (hsplit : takenFrom board aura = done ++ target :: rest)
    (hdone : ∀ t ∈ done, Bears board t fun key => -delta aura.change key)
    (hno : ¬Bears board target fun key => -delta aura.change key)
    (hrun : Board.removeAura id board = .error (.statOverflow target key) b')
    (hgone : b'.isAuraActive id = false)
    (hlevel : ∀ entity key, level b' entity key = level board entity key -
      if entity ∈ done then delta aura.change key else 0)

lemma isAuraActive_removeAura (id : AuraId) (b : Board) :
    (leftBy (Board.removeAura id) b).isAuraActive id = false := by
  unfold Board.isAuraActive Table.contains
  rw [get?_removeAura]
  rfl

lemma removal_outcome {board : Board} (h : WellFormed (outline board)) {id : AuraId} {slot : Slot}
    {aura : MinionAura} (hget : Table.get? board.auras id = some { slot, aura := .minions aura }) :
    RemovalOutcome board id aura := by
  have hgone := isAuraActive_removeAura id board
  have hlevel₀ : level (deregistered board id slot.holder) = level board :=
    level_eq_of_character? (character?_deregistered board id slot.holder)
  have hbears := bears_deregistered board id slot.holder
  have hrun : Board.removeAura id board = aura.switchOff (deregistered board id slot.holder) := by
    rw [removeAura_run]
    simp only [hget]
    rfl
  rw [minions_switchOff_run] at hrun
  cases hactive : aura.active with
  | none =>
    simp only [hactive] at hrun
    rw [leftBy_of_error hrun] at hgone
    exact .off _ hactive hrun hgone hlevel₀
  | some active =>
    obtain ⟨slot', affected⟩ := active
    obtain ⟨-, hnodup, -⟩ := (h.fits id _ hget).minions aura slot' affected rfl hactive
    obtain ⟨targets, hleaving, hdistinct⟩ := leaving_facts h aura slot'.owner hnodup
    have hfrom := takenFrom_of_leaving hactive hleaving
    simp only [hactive, leaving_deregistered, hleaving] at hrun
    rcases undoOnMinions_prefix aura.change hdistinct (deregistered board id slot.holder) with
      ⟨hall, b', hundo, hshift⟩ | ⟨done, target, rest, key, b', hsplit, hdone, hno, hundo, hshift⟩
    · rw [hundo] at hrun
      rw [leftBy_of_ok hrun] at hgone
      refine .taken b' (by simp [hactive]) ?_ hrun hgone fun entity key => ?_
      · intro t ht
        rw [hfrom] at ht
        exact (hbears t _).mp (hall t ht)
      · have hlevel := level_of_taken hshift (hdistinct.filter _) entity key
        rw [hlevel₀] at hlevel
        rw [hfrom]
        exact hlevel
    · rw [hundo] at hrun
      rw [leftBy_of_error hrun] at hgone
      have hfilter : (takenFrom board aura).Nodup := by
        rw [hfrom]
        exact hdistinct.filter _
      have hsplit' : takenFrom board aura = done ++ target :: rest := by
        rw [hfrom]
        exact hsplit
      rw [hsplit'] at hfilter
      refine .halfway done target rest key b' hsplit' ?_ ?_ hrun hgone fun entity key => ?_
      · exact fun t ht => (hbears t _).mp (hdone t ht)
      · exact fun hb => hno ((hbears target _).mpr hb)
      · have hlevel := level_of_taken hshift (List.nodup_append.mp hfilter).1 entity key
        rwa [hlevel₀] at hlevel

/-- Removing a minion aura is all or nothing exactly if the aura is on and every minion that it is
taken back from can bear that, which is when the removal succeeds. Otherwise the aura leaves the
register all the same, and of the minions those up to the first that cannot bear it have lost the
change while the others keep it. -/
theorem removal_all_or_nothing_iff {settings : Settings} {start : Board}
    (hnew : Board.new settings = .ok start) (moves : List Move) {id : AuraId} {slot : Slot}
    {aura : MinionAura}
    (hget : Table.get? (play start moves).auras id = some { slot, aura := .minions aura }) :
    (AllOrNothing (play start moves) id ↔
      aura.active.isSome ∧ AllBear (play start moves) aura) ∧
    ((∃ b', Board.removeAura id (play start moves) = .ok () b') ↔
      aura.active.isSome ∧ AllBear (play start moves) aura) ∧
    RemovalOutcome (play start moves) id aura := by
  have houtcome := removal_outcome (wellFormed_play hnew moves) hget
  have hregistered : (play start moves).isAuraActive id = true := by
    simp [Board.isAuraActive, Table.contains, hget]
  have hlost : ∀ {fault b'}, Board.removeAura id (play start moves) = .error fault b' →
      b'.isAuraActive id = false → ¬AllOrNothing (play start moves) id := by
    intro fault b' hrun hgone hall
    have hkept := (hall fault b' hrun).2
    unfold Board.isAuraActive Table.contains at hgone hregistered
    rw [hkept, hregistered] at hgone
    cases hgone
  refine ⟨?_, ?_, houtcome⟩
  · cases houtcome with
    | off b' hoff hrun hgone hlevel =>
      exact iff_of_false (hlost hrun hgone) (by simp [hoff])
    | taken b' hon hbear hrun hgone hlevel =>
      refine iff_of_true (fun fault b'' herror => ?_) ⟨hon, hbear⟩
      rw [hrun] at herror
      cases herror
    | halfway done target rest key b' hsplit hdone hno hrun hgone hlevel =>
      refine iff_of_false (hlost hrun hgone) fun hboth => hno (hboth.2 target ?_)
      rw [hsplit]
      simp
  · cases houtcome with
    | off b' hoff hrun hgone hlevel =>
      rw [hrun]
      exact iff_of_false (by simp) (by simp [hoff])
    | taken b' hon hbear hrun hgone hlevel => exact iff_of_true ⟨b', hrun⟩ ⟨hon, hbear⟩
    | halfway done target rest key b' hsplit hdone hno hrun hgone hlevel =>
      rw [hrun]
      refine iff_of_false (by simp) fun hboth => hno (hboth.2 target ?_)
      rw [hsplit]
      simp

/-- Two recruits have an aura, and the attack of the second falls to the least amount there is. -/
def lopsidedMoves : List Move :=
  [.place ⟨0⟩ none "Recruit" .one .one,
    .place ⟨0⟩ none "Recruit" .one .one,
    .addAura ⟨0⟩ ⟨0⟩ (.minions { change := .attack .one, selector := .minion }),
    .write ⟨3⟩ Stat.attack fun _ => Amount.ofInt? (-9223372036854775808)]

theorem lopsided_removal_not_all_or_nothing :
    ∃ start, Board.new Settings.standard = .ok start ∧
      level (play start lopsidedMoves) ⟨2⟩ Stat.attack = 2 ∧
      ¬AllOrNothing (play start lopsidedMoves) ⟨0⟩ := by
  have hnew : Board.new Settings.standard = .ok _ := rfl
  refine ⟨_, hnew, by decide, fun hall => ?_⟩
  have hboth := (removal_all_or_nothing_iff hnew lopsidedMoves rfl).1.mp hall
  have hbears := hboth.2 ⟨3⟩ (by decide)
  have hrange := hbears.2 Stat.attack
  revert hrange
  unfold InRange
  decide

end CardEffects.Proofs
