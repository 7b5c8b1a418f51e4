import CardEffects.Proofs.AuraActivity
import CardEffects.Proofs.Listening

/-!
# Endings of auras

A player aura listens for its ending. When it is removed, the subscription goes with it, unless the
owner cannot bear the loss of the change: then the removal stops before the subscription is
released, and the ending stays bound to an aura that is registered no longer.
-/

namespace CardEffects.Proofs

/-- Whether a subscription is in force that is to end an aura. -/
def EndingBound (b : Board) (aura : AuraId) : Prop :=
  ∃ surface event id listener, (id, listener) ∈ listenersAt b surface event ∧
    listener.handler = .endAura aura

def On (b : Board) (id : AuraId) : Prop :=
  ∃ active, Table.get? b.auras id = some active ∧ active.aura.isActive = true

/-- Whether the removal of a player aura fails on its owner while its ending is in force. -/
def Strands (b : Board) (id : AuraId) : Prop :=
  EndingBound b id ∧ ∃ slot aura,
    Table.get? b.auras id = some { slot, aura := .player aura } ∧
      ¬Bears b slot.owner fun key => -delta aura.change key

/-- Whether a removal in a history left the ending of an aura behind. -/
def Stranded (start : Board) (moves : List Move) (id : AuraId) : Prop :=
  Occurs (fun b move => move = .removeAura id ∧ Strands b id) start moves

/-- What every history keeps of the endings of auras: they are numbered as all subscriptions are, and
the ending of a registered aura is the one that the aura holds. -/
structure EndingsFit (b : Board) : Prop extends ListenersFit b where
  aura_lt : ∀ surface event id listener aura, (id, listener) ∈ listenersAt b surface event →
    listener.handler = .endAura aura → aura.raw < b.nextAura
  held : ∀ surface event id listener aura active, (id, listener) ∈ listenersAt b surface event →
    listener.handler = .endAura aura → Table.get? b.auras aura = some active →
      HoldsEnding active surface event id

lemma EndingBound.mono {b b' : Board} {aura : AuraId} (h : EndingBound b' aura)
    (hfewer : Fewer b b') : EndingBound b aura := by
  obtain ⟨surface, event, id, listener, hmem, hhandler⟩ := h
  exact ⟨surface, event, id, listener, (hfewer.sublist surface event).mem hmem, hhandler⟩

/-! ### What histories keep -/

lemma EndingsFit.held_step {b : Board} (h : EndingsFit b) {move : Move} {surface : EntityId}
    {event : String} {id : ListenerId} {listener : Listener} {aura : AuraId} {active : ActiveAura}
    (hmem : (id, listener) ∈ listenersAt b surface event)
    (hhandler : listener.handler = .endAura aura)
    (hget : Table.get? (leftBy move.run b).auras aura = some active) :
    HoldsEnding active surface event id := by
  -- A new aura has a number that no ending bears, and a refresh is one of a minion aura.
  rcases registered_step hget with hold | ⟨_, _, _, _, _, -, rfl, -, -⟩ | ⟨slot, m, on, -, hold, -⟩
  · exact h.held surface event id listener aura active hmem hhandler hold
  · exact absurd (h.aura_lt surface event id listener _ hmem hhandler) (lt_irrefl _)
  · obtain ⟨player, binding, hplayer, -⟩ :=
      h.held surface event id listener aura _ hmem hhandler hold
    cases hplayer

lemma EndingsFit.of_fewer {b : Board} (h : EndingsFit b) {move : Move}
    (hfewer : Fewer b (leftBy move.run b)) : EndingsFit (leftBy move.run b) where
  toListenersFit := h.toListenersFit.of_fewer (wellFormed_step move b h.wellFormed) hfewer
  aura_lt surface event id listener aura hmem hhandler :=
    lt_of_lt_of_le
      (h.aura_lt surface event id listener aura ((hfewer.sublist surface event).mem hmem) hhandler)
      (nextAura_step move b)
  held surface event _ _ _ _ hmem hhandler hget :=
    h.held_step ((hfewer.sublist surface event).mem hmem) hhandler hget

lemma EndingsFit.of_gained {b : Board} (h : EndingsFit b) {move : Move} {surface : EntityId}
    {event : String} {listener : Listener}
    (hgained : Gained b (leftBy move.run b) surface event listener)
    (hending : ∀ aura, listener.handler = .endAura aura →
      ∃ active, Table.get? (leftBy move.run b).auras aura = some active ∧
        HoldsEnding active surface event ⟨b.nextListener⟩) :
    EndingsFit (leftBy move.run b) := by
  have hwell := wellFormed_step move b h.wellFormed
  refine ⟨h.toListenersFit.of_gained hwell hgained, ?_, ?_⟩
  · intro surface' event' id other aura hmem hhandler
    rcases hgained.mem_cases hmem with hold | ⟨-, -, -, rfl⟩
    · exact lt_of_lt_of_le (h.aura_lt surface' event' id other aura hold hhandler)
        (nextAura_step move b)
    · obtain ⟨active, hget, -⟩ := hending aura hhandler
      exact (hwell.fits aura active hget).id_lt
  · intro surface' event' id other aura active hmem hhandler hget
    rcases hgained.mem_cases hmem with hold | ⟨rfl, rfl, rfl, rfl⟩
    · exact h.held_step hold hhandler hget
    · obtain ⟨active', hget', hholds⟩ := hending aura hhandler
      rw [hget] at hget'
      cases hget'
      exact hholds

lemma endingsFit_step {allowed : Aura → Prop} (move : Move) (hfits : move.Fits allowed) (b : Board)
    (h : EndingsFit b) : EndingsFit (leftBy move.run b) := by
  rcases listening_step hfits h.wellFormed with hfewer | ⟨surface, event, listener, hgained, hnew⟩
  · exact h.of_fewer hfewer
  · exact h.of_gained hgained fun aura hhandler => (hnew aura hhandler).2

lemma endingsFit_play {allowed : Aura → Prop} {settings : Settings} {start : Board}
    (hnew : Board.new settings = .ok start) {moves : List Move}
    (hfits : ∀ move ∈ moves, Move.Fits allowed move) : EndingsFit (play start moves) := by
  have hnone := listenersAt_new hnew
  refine play_preserves endingsFit_step ?_ hfits
  exact ⟨listenersFit_new hnew, by simp [hnone], by simp [hnone]⟩

/-! ### Removal -/

lemma endingBound_removeAura {b : Board} (h : EndingsFit b) {id : AuraId} {slot : Slot}
    {aura : PlayerAura} (hget : Table.get? b.auras id = some { slot, aura := .player aura }) :
    EndingBound (leftBy (Board.removeAura id) b) id ↔
      EndingBound b id ∧ ¬Bears b slot.owner fun key => -delta aura.change key := by
  have hfewer := fewer_removeAura h.wellFormed id
  obtain ⟨binding, hactive, ⟨hno, fault, b', hrun, hsame, -⟩ | ⟨hbears, b₁, hfirst, -, hrest⟩⟩ :=
    removeAura_player_outcome h.wellFormed hget
  · refine ⟨fun hbound => ⟨hbound.mono hfewer, hno⟩, fun hboth => ?_⟩
    rw [leftBy_of_error hrun]
    exact hboth.1.mono (fewer_of_listening hsame.symm)
  · refine iff_of_false ?_ fun hboth => hboth.2 hbears
    -- The aura knows where its ending is bound, and that is where the release takes it away.
    have hlists : listenersAt b₁ = listenersAt b := congrArg Prod.fst hfirst
    rintro ⟨surface, event, lid, listener, hmem, hhandler⟩
    have hold := (hfewer.sublist surface event).mem hmem
    obtain ⟨_, binding', haura, hactive', rfl, rfl, rfl⟩ :=
      h.held surface event lid listener id _ hold hhandler hget
    cases haura
    rw [hactive] at hactive'
    cases hactive'
    rcases unsubscribe_outcome binding.surface binding.event binding.listener b₁ with
      ⟨-, b', hok, hreleased⟩ | ⟨hunbound, -⟩
    · rw [leftBy_of_ok (hrest.trans hok)] at hmem
      refine hreleased.not_mem ?_ listener hmem
      rw [hlists]
      exact h.nodup binding.surface binding.event
    · have hbound : b₁.isBound binding.surface binding.event binding.listener = true := by
        rw [isBound_iff, hlists]
        exact ⟨listener, hold⟩
      rw [hbound] at hunbound
      cases hunbound

/-! ### Endings that are left behind -/

lemma endingBound_step {allowed : Aura → Prop} {move : Move} (hfits : move.Fits allowed) {b : Board}
    (h : EndingsFit b) {id : AuraId} (hbound : EndingBound (leftBy move.run b) id) :
    EndingBound b id ∨
      id = ⟨b.nextAura⟩ ∧ ∃ active, Table.get? (leftBy move.run b).auras id = some active := by
  rcases listening_step hfits h.wellFormed with hfewer | ⟨_, _, _, hgained, hnew⟩
  · exact .inl (hbound.mono hfewer)
  · obtain ⟨surface, event, lid, listener, hmem, hhandler⟩ := hbound
    rcases hgained.mem_cases hmem with hold | ⟨-, -, -, rfl⟩
    · exact .inl ⟨surface, event, lid, listener, hold, hhandler⟩
    · obtain ⟨hid, active, hget, -⟩ := hnew id hhandler
      exact .inr ⟨hid, active, hget⟩

lemma EndingBound.id_lt {b : Board} {id : AuraId} (hbound : EndingBound b id) (h : EndingsFit b) :
    id.raw < b.nextAura := by
  obtain ⟨surface, event, lid, listener, hmem, hhandler⟩ := hbound
  exact h.aura_lt surface event lid listener id hmem hhandler

lemma EndingBound.player {b : Board} {id : AuraId} (hbound : EndingBound b id) (h : EndingsFit b)
    {active : ActiveAura} (hget : Table.get? b.auras id = some active) :
    (∃ slot aura, active = { slot, aura := .player aura }) ∧ active.aura.isActive = true := by
  obtain ⟨surface, event, lid, listener, hmem, hhandler⟩ := hbound
  have hholds := h.held surface event lid listener id active hmem hhandler hget
  refine ⟨?_, hholds.isActive⟩
  obtain ⟨slot, _⟩ := active
  obtain ⟨player, binding, rfl, -⟩ := hholds
  exact ⟨slot, player, rfl⟩

lemma EndingBound.not_on_iff {b : Board} {id : AuraId} (hbound : EndingBound b id)
    (h : EndingsFit b) : ¬On b id ↔ Table.get? b.auras id = none := by
  unfold On
  cases hget : Table.get? b.auras id with
  | none => simp
  | some active => simp [(hbound.player h hget).2]

lemma Strands.registered {b : Board} {id : AuraId} (h : Strands b id) :
    ∃ active, Table.get? b.auras id = some active := by
  obtain ⟨-, slot, aura, hget, -⟩ := h
  exact ⟨_, hget⟩

/-- Of the endings in force after a move, those that have no registered aura had none before, or the
move removed the aura in vain. -/
lemma stale_step {allowed : Aura → Prop} {move : Move} (hfits : move.Fits allowed) {b : Board}
    (h : EndingsFit b) {id : AuraId} (hbound : EndingBound b id)
    (hbound' : EndingBound (leftBy move.run b) id) :
    Table.get? (leftBy move.run b).auras id = none ↔
      Table.get? b.auras id = none ∨ move = .removeAura id ∧ Strands b id := by
  cases hget : Table.get? b.auras id with
  | none =>
    refine iff_of_true ?_ (.inl rfl)
    cases hafter : Table.get? (leftBy move.run b).auras id with
    | none => rfl
    | some active =>
      rcases registered_step hafter with hold | ⟨_, _, _, _, _, -, rfl, -⟩ | ⟨_, _, _, -, hold, -⟩
      · rw [hget] at hold
        cases hold
      · exact absurd (hbound.id_lt h) (lt_irrefl _)
      · rw [hget] at hold
        cases hold
  | some active =>
    by_cases hmove : move = .removeAura id
    · subst hmove
      obtain ⟨⟨slot, aura, rfl⟩, -⟩ := hbound.player h hget
      obtain ⟨-, hno⟩ := (endingBound_removeAura h hget).mp hbound'
      exact iff_of_true (get?_removeAura id b) (.inr ⟨rfl, hbound, slot, aura, hget, hno⟩)
    · obtain ⟨active', hafter⟩ := stays_registered_step hget hmove
      simp [hafter, hmove]

/-- An ending finds that the aura is gone when it is called for the first time and the aura is not
registered. -/
lemma endAura_gone_iff {b : Board} (h : WellFormed (outline b)) (listener : ListenerId)
    (id : AuraId) :
    (∃ gone b', Game.endAura listener id b = .error (.auraNotActive gone) b') ↔
      listener ∉ b.spent ∧ Table.get? b.auras id = none := by
  rw [endAura_run]
  by_cases hspent : listener ∈ b.spent
  · simp [hspent]
  · rw [if_neg hspent, removeAura_run]
    cases hget : Table.get? b.auras id with
    | none => simp [hspent]
    | some active =>
      refine iff_of_false ?_ (by simp)
      rintro ⟨gone, b', hrun⟩
      have hfault := (switchOff_fault (h.fits id active hget) hrun trivial).2
      cases hfault

section History

variable {allowed : Aura → Prop} {settings : Settings} {start : Board}
  (hnew : Board.new settings = .ok start)

include hnew

lemma stale_iff (moves : List Move) (hfits : ∀ move ∈ moves, Move.Fits allowed move) (id : AuraId)
    (hbound : EndingBound (play start moves) id) :
    Table.get? (play start moves).auras id = none ↔ Stranded start moves id := by
  induction moves using List.reverseRecOn with
  | nil =>
    obtain ⟨surface, event, lid, listener, hmem, -⟩ := hbound
    simp [listenersAt_new hnew] at hmem
  | append_singleton moves move ih =>
    have hfits₀ : ∀ m ∈ moves, Move.Fits allowed m := fun m hm => hfits m (by simp [hm])
    have hmove : move.Fits allowed := hfits move (by simp)
    have hendings := endingsFit_play hnew hfits₀
    rw [play_concat] at hbound ⊢
    unfold Stranded
    rw [occurs_concat]
    rcases endingBound_step hmove hendings hbound with hold | ⟨rfl, active, hget⟩
    · rw [stale_step hmove hendings hold hbound, ih hfits₀ hold]
      rfl
    · -- The ending of an aura just added cannot have been left behind before.
      rw [hget]
      refine iff_of_false (by simp) ?_
      rintro (hpast | ⟨-, hlast⟩)
      · have hlt := lt_nextAura_of_occurs hnew (fun _ _ hstrands => hstrands.2.registered) hpast
        exact lt_irrefl _ hlt
      · exact absurd (hlast.1.id_lt hendings) (lt_irrefl _)

/-- An ending in force belongs to an aura that is registered and on, unless a removal of the aura
has failed on its owner. Only such a removal leaves the ending in force, and only then does the
ending, when it is called for the first time, find that the aura is gone. -/
theorem ending_stale_iff_stranded {moves : List Move}
    (hfits : ∀ move ∈ moves, Move.Fits allowed move) {board : Board}
    (hboard : board = play start moves) :
    (∀ id, EndingBound board id → (¬On board id ↔ Stranded start moves id)) ∧
    (∀ id slot aura, Table.get? board.auras id = some { slot, aura := .player aura } →
      (EndingBound (leftBy (Board.removeAura id) board) id ↔
        EndingBound board id ∧ ¬Bears board slot.owner fun key => -delta aura.change key)) ∧
    ∀ surface event listener entry id, (listener, entry) ∈ listenersAt board surface event →
      entry.handler = .endAura id →
        ((∃ gone b', Game.endAura listener id board = .error (.auraNotActive gone) b') ↔
          listener ∉ board.spent ∧ Stranded start moves id) := by
  subst hboard
  have hendings := endingsFit_play hnew hfits
  refine ⟨?_, ?_, ?_⟩
  · intro id hbound
    rw [hbound.not_on_iff hendings]
    exact stale_iff hnew moves hfits id hbound
  · intro id slot aura hget
    exact endingBound_removeAura hendings hget
  · intro surface event listener entry id hmem hhandler
    have hbound : EndingBound (play start moves) id :=
      ⟨surface, event, listener, entry, hmem, hhandler⟩
    rw [endAura_gone_iff hendings.wellFormed, stale_iff hnew moves hfits id hbound]

end History

/-- A hero has an aura until the end of a turn, and its attack falls to the least amount there is.
Then the aura is removed. -/
def strandedMoves : List Move :=
  [.addAura ⟨0⟩ ⟨0⟩ (.player {
      change := .attack .one
      ending := { name := "turn_ended", scope := .player } }),
    .write ⟨0⟩ Stat.attack fun _ => Amount.ofInt? (-9223372036854775808),
    .removeAura ⟨0⟩]

theorem stranded_ending_stale :
    ∃ start, Board.new Settings.standard = .ok start ∧
      EndingBound (play start strandedMoves) ⟨0⟩ ∧ ¬On (play start strandedMoves) ⟨0⟩ := by
  have hnew : Board.new Settings.standard = .ok _ := rfl
  have hfits : ∀ move ∈ strandedMoves, Move.Fits (fun _ => True) move := by
    simp [strandedMoves, Move.Fits]
  have hiff := (ending_stale_iff_stranded hnew hfits rfl).1 ⟨0⟩
  refine ⟨_, hnew, (and_congr_right hiff).mpr ⟨?_, ?_⟩⟩
  · exact ⟨⟨0⟩, "turn_ended", ⟨0⟩, { gate := none, handler := .endAura ⟨0⟩ }, .head _, rfl⟩
  · refine ⟨strandedMoves.take 2, .removeAura ⟨0⟩, [], rfl, rfl, ?_, _, _, rfl, fun hbears => ?_⟩
    · exact ⟨⟨0⟩, "turn_ended", ⟨0⟩, { gate := none, handler := .endAura ⟨0⟩ }, .head _, rfl⟩
    · have hrange := hbears.2 Stat.attack
      revert hrange
      unfold InRange
      decide

end CardEffects.Proofs
