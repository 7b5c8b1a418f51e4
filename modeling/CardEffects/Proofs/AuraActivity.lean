import CardEffects.Proofs.WellFormed
import Mathlib.Data.List.Induction

/-!
# Activity of registered auras

A registered aura can be off: a refresh that fails keeps the aura in the register and leaves it
off. The module shows that this is the only way, and that it lasts until the aura is removed.
-/

namespace CardEffects.Proofs

/-! ### Faults of switching -/

/-- Whether a fault says that something is off. -/
def SaysOff : Fault → Prop
  | .notActive _ | .auraNotActive _ => True
  | _ => False

lemma Blames.not_saysOff {b : Board} {target : EntityId} {fault : Fault}
    (h : Blames b target fault) : ¬SaysOff fault := by
  unfold Blames at h
  split at h
  · obtain ⟨key, rfl⟩ := h
    exact not_false
  · subst h
    exact not_false

lemma matched_fault {aura : MinionAura} {b : Board} {owner : EntityId} {fault : Fault}
    (h : aura.matched b owner = .error fault) : fault = .unknownEntity owner := by
  unfold MinionAura.matched Coverage.minions at h
  cases hcontroller : b.controller? owner with
  | none => simpa [hcontroller, Except.map, eq_comm] using h
  | some controller => simp [hcontroller, Except.map] at h

lemma leaving_fault {aura : MinionAura} {b : Board} {owner : EntityId} {affected : List EntityId}
    {fault : Fault} (h : aura.leaving b owner affected = .error fault) :
    fault = .unknownEntity owner := by
  unfold MinionAura.leaving at h
  split at h
  · cases h
  · split at h
    · exact matched_fault h
    · cases h

lemma minions_switchOn_fault {aura : MinionAura} {slot : Slot} {b b' : Board} {fault : Fault}
    (h : aura.switchOn slot b = .error fault b') : ¬SaysOff fault := by
  rw [minions_switchOn_run] at h
  split at h
  · cases h
    exact not_false
  · cases hmatched : aura.matched b slot.owner with
    | error fault' =>
      simp only [hmatched, EStateM.Result.error.injEq] at h
      rw [← h.1, matched_fault hmatched]
      exact not_false
    | ok matched =>
      cases hmake : aura.change.makeAll [] matched b with
      | ok _ b₁ => simp [hmatched, hmake] at h
      | error fault' b₁ =>
        have hnone : Shifted b b (onTargets [] (delta aura.change)) :=
          (shifted_refl b).congr fun entity key => by simp [onTargets]
        obtain ⟨-, target, hfails⟩ := makeAll_error _ _ (by simp) hnone hmake
        simp only [hmatched, hmake, EStateM.Result.error.injEq] at h
        rw [← h.1]
        exact hfails.blames.2.not_saysOff

lemma minions_switchOff_fault {aura : MinionAura} {b b' : Board} {fault : Fault}
    (h : aura.switchOff b = .error fault b') (hfault : SaysOff fault) :
    aura.active = none ∧ fault = .notActive .minionAura := by
  rw [minions_switchOff_run] at h
  cases hactive : aura.active with
  | none =>
    simp only [hactive, EStateM.Result.error.injEq] at h
    exact ⟨rfl, h.1.symm⟩
  | some active =>
    cases hleaving : aura.leaving b active.1.owner active.2 with
    | error fault =>
      simp only [hactive, hleaving, EStateM.Result.error.injEq] at h
      rw [← h.1, leaving_fault hleaving] at hfault
      exact hfault.elim
    | ok targets =>
      simp only [hactive, hleaving] at h
      rcases undoOnMinions_outcome aura.change targets b with
        ⟨b₁, hok, -⟩ | ⟨_, target, _, key, b₁, -, herror, -, -⟩
      · rw [hok] at h
        cases h
      · rw [herror] at h
        cases h
        exact hfault.elim

lemma player_switchOff_fault {aura : PlayerAura} {slot : Slot} {binding : Binding}
    (hactive : aura.active = some (slot, binding)) (hevent : binding.event = aura.ending.name)
    {b b' : Board} {fault : Fault} (h : aura.switchOff b = .error fault b') : ¬SaysOff fault := by
  rcases player_switchOff_outcome hactive hevent b with
    ⟨-, fault', b₁, herror, -, hblames⟩ | ⟨-, b₁, -, hrest⟩
  · rw [herror] at h
    cases h
    exact hblames.not_saysOff
  · rw [hrest] at h
    rcases unsubscribe_outcome binding.surface binding.event binding.listener b₁ with
      ⟨-, b₂, hok, -⟩ | ⟨-, fault', hfault, herror⟩
    · rw [hok] at h
      cases h
    · rw [herror] at h
      cases h
      rcases hfault with rfl | rfl <;> exact not_false

lemma switchOff_fault {o : Outline} {id : AuraId} {active : ActiveAura}
    (hfits : AuraFits o id active) {b b' : Board} {fault : Fault}
    (h : active.aura.switchOff b = .error fault b') (hfault : SaysOff fault) :
    active.aura.isActive = false ∧ fault = .notActive .minionAura := by
  obtain ⟨slot, aura⟩ := active
  cases aura with
  | minions aura =>
    obtain ⟨hnone, hsays⟩ := minions_switchOff_fault h hfault
    exact ⟨by simp [Aura.isActive, hnone], hsays⟩
  | player aura =>
    obtain ⟨binding, hactive, hevent⟩ := hfits.player aura rfl
    exact absurd hfault (player_switchOff_fault hactive hevent h)

lemma minions_switchOff_of_off {aura : MinionAura} (hoff : aura.active = none) (b : Board) :
    aura.switchOff b = .error (.notActive .minionAura) b := by
  rw [minions_switchOff_run, hoff]

/-! ### Auras that are off -/

/-- Whether an aura is registered but off. -/
def Off (b : Board) (id : AuraId) : Prop :=
  ∃ active, Table.get? b.auras id = some active ∧ active.aura.isActive = false

lemma off_eq {b : Board} (h : WellFormed (outline b)) {id : AuraId} (hoff : Off b id) :
    ∃ slot aura, Table.get? b.auras id = some { slot, aura := .minions aura } ∧
      aura.active = none := by
  obtain ⟨⟨slot, aura⟩, hget, hinactive⟩ := hoff
  cases aura with
  | minions aura => exact ⟨slot, aura, hget, by simpa [Aura.isActive] using hinactive⟩
  | player aura =>
    obtain ⟨binding, hactive, -⟩ := (h.fits id _ hget).player aura rfl
    simp [Aura.isActive, hactive] at hinactive

lemma removeAura_notActive_iff {b : Board} (h : WellFormed (outline b)) (id : AuraId) :
    (∃ kind b', Board.removeAura id b = .error (.notActive kind) b') ↔ Off b id := by
  constructor
  · rintro ⟨kind, b', hrun⟩
    rw [removeAura_run] at hrun
    cases hget : Table.get? b.auras id with
    | none => simp [hget] at hrun
    | some active =>
      simp only [hget] at hrun
      exact ⟨active, hget, (switchOff_fault (h.fits id active hget) hrun trivial).1⟩
  · intro hoff
    obtain ⟨slot, aura, hget, hnone⟩ := off_eq h hoff
    refine ⟨.minionAura, deregistered b id slot.holder, ?_⟩
    rw [removeAura_run]
    simp only [hget]
    exact minions_switchOff_of_off hnone _

lemma refreshAura_of_off {b : Board} (h : WellFormed (outline b)) {id : AuraId} (hoff : Off b id) :
    ∃ b', Board.refreshAura id b = .error (.notActive .minionAura) b' := by
  obtain ⟨slot, aura, hget, hnone⟩ := off_eq h hoff
  rw [refreshAura_run]
  simp only [hget, minions_switchOff_of_off hnone]
  exact ⟨_, rfl⟩

lemma refreshAura_notActive_iff {b : Board} (h : WellFormed (outline b)) (id : AuraId) :
    (∃ kind b', Board.refreshAura id b = .error (.notActive kind) b') ↔ Off b id := by
  constructor
  · rintro ⟨kind, b', hrun⟩
    rw [refreshAura_run] at hrun
    split at hrun
    · next slot aura hget =>
      refine ⟨_, hget, ?_⟩
      cases hoff : aura.switchOff b with
      | error fault b₁ =>
        simp only [hoff, EStateM.Result.error.injEq] at hrun
        rw [hrun.1] at hoff
        obtain ⟨hnone, -⟩ := minions_switchOff_fault hoff trivial
        simp [Aura.isActive, hnone]
      | ok _ b₁ =>
        cases hon : aura.off.switchOn slot b₁ with
        | ok aura' b₂ => simp [hoff, hon] at hrun
        | error fault b₂ =>
          simp only [hoff, hon, EStateM.Result.error.injEq] at hrun
          rw [hrun.1] at hon
          exact (minions_switchOn_fault hon trivial).elim
    · cases hrun
  · intro hoff
    obtain ⟨b', hrun⟩ := refreshAura_of_off h hoff
    exact ⟨_, b', hrun⟩

def FailsRefresh (b : Board) (move : Move) (id : AuraId) : Prop :=
  move = .refreshAura id ∧ ∃ fault b', Board.refreshAura id b = .error fault b'

/-- After a move a registered aura is off exactly if it was off or the move failed to refresh it. -/
lemma off_step {b : Board} (h : WellFormed (outline b)) (move : Move) {id : AuraId}
    {active : ActiveAura} (hget : Table.get? (leftBy move.run b).auras id = some active) :
    active.aura.isActive = false ↔ Off b id ∨ FailsRefresh b move id := by
  by_cases hfails : FailsRefresh b move id
  · obtain ⟨rfl, fault, b', hrun⟩ := hfails
    obtain ⟨slot, aura, b₁, hold, hbare, rfl⟩ := refreshAura_error hrun
    have hauras : b₁.auras = b.auras := auras_eq_of_outline (outline_eq_of_bare hbare)
    simp only [Move.run, leftBy_of_error hrun] at hget
    change Table.get? (Table.modify b₁.auras id _) id = some active at hget
    rw [hauras, Table.get?_modify_self, hold] at hget
    cases hget
    exact iff_of_true rfl (.inr ⟨rfl, fault, _, hrun⟩)
  · rcases registered_step hget with hold | ⟨holder, owner, aura, aura', b₁, rfl, rfl, hon, rfl⟩ |
      ⟨slot, aura, on, rfl, hold, rfl⟩
    · simp [Off, hold, hfails]
    · have hnew : aura'.isActive = true := by
        rcases aura_switchOn_ok hon with ⟨m, m', -, rfl, hm⟩ | ⟨p, p', -, rfl, hp⟩
        · obtain ⟨matched, -, rfl, -⟩ := minions_switchOn_ok hm
          rfl
        · obtain ⟨_, _, _, -, -, -, rfl, -⟩ := player_switchOn_ok hp
          rfl
      have hfresh : Table.get? b.auras ⟨b.nextAura⟩ = none := h.aura_fresh le_rfl
      simp [Off, hfresh, hfails, hnew]
    · cases hrun : Board.refreshAura id b with
      | error fault b' => exact absurd ⟨rfl, fault, b', hrun⟩ hfails
      | ok _ b' =>
        have hwas : ¬Off b id := by
          intro hoff
          obtain ⟨b'', herror⟩ := refreshAura_of_off h hoff
          rw [hrun] at herror
          cases herror
        simp only [Move.run, leftBy_of_ok hrun] at hget
        rcases refreshAura_ok hrun with
          rfl | ⟨slot', aura', b₁, matched, b₂, hold', -, hbare, -, hshift, rfl⟩
        · simp only [Off, hget, Option.some.injEq, exists_eq_left'] at hwas ⊢
          simp [hwas, hfails]
        · have hauras : b₂.auras = b.auras :=
            auras_eq_of_outline (outline_eq_of_bare (hshift.bare_eq.trans hbare))
          change Table.get? (Table.modify b₂.auras id _) id = _ at hget
          rw [hauras, Table.get?_modify_self, hold'] at hget
          have hon := congrArg (fun active : ActiveAura => active.aura.isActive)
            (Option.some.inj hget)
          rw [← hon]
          simp [Aura.isActive, hwas, hfails]

/-! ### Refreshing many auras -/

lemma off_refreshAura {b b' : Board} (h : WellFormed (outline b)) {id : AuraId}
    (hrun : Board.refreshAura id b = .ok () b') (other : AuraId) : Off b' other ↔ Off b other := by
  have hleft : leftBy (Move.refreshAura id).run b = b' := leftBy_of_ok hrun
  constructor
  · rintro ⟨active, hget, hinactive⟩
    rw [← hleft] at hget
    rcases (off_step h (.refreshAura id) hget).mp hinactive with hoff | ⟨-, fault, b'', herror⟩
    · exact hoff
    · rcases registered_step hget with hold | ⟨_, _, _, _, _, heq, -⟩ | ⟨_, _, _, heq, -⟩
      · exact ⟨active, hold, hinactive⟩
      · cases heq
      · cases heq
        rw [hrun] at herror
        cases herror
  · intro hoff
    have hne : id ≠ other := by
      rintro rfl
      obtain ⟨b'', herror⟩ := refreshAura_of_off h hoff
      rw [hrun] at herror
      cases herror
    obtain ⟨active, hget, hinactive⟩ := hoff
    refine ⟨active, ?_, hinactive⟩
    rcases refreshAura_ok hrun with
      rfl | ⟨slot, aura, b₁, matched, b₂, -, -, hbare, -, hshift, rfl⟩
    · exact hget
    · have hauras : b₂.auras = b.auras :=
        auras_eq_of_outline (outline_eq_of_bare (hshift.bare_eq.trans hbare))
      change Table.get? (Table.modify b₂.auras id _) other = _
      rw [Table.get?_modify_of_ne _ _ hne, hauras]
      exact hget

lemma refreshEach_notActive_iff {b : Board} (h : WellFormed (outline b)) (ids : List AuraId) :
    (∃ kind b', Board.refreshEach ids b = .error (.notActive kind) b') ↔
      ∃ before id after b₁, ids = before ++ id :: after ∧
        Board.refreshEach before b = .ok () b₁ ∧ Off b id := by
  induction ids generalizing b with
  | nil => simp [Board.refreshEach]
  | cons id ids ih =>
    cases hrun : Board.refreshAura id b with
    | error fault b₁ =>
      have hfirst : Board.refreshEach (id :: ids) b = .error fault b₁ := by
        simp [Board.refreshEach, hrun]
      rw [hfirst]
      constructor
      · rintro ⟨kind, b', herror⟩
        cases herror
        exact ⟨[], id, ids, b, rfl, rfl, (refreshAura_notActive_iff h id).mp ⟨kind, _, hrun⟩⟩
      · rintro ⟨before, id', after, b₂, hids, hbefore, hoff⟩
        cases before with
        | nil =>
          obtain ⟨rfl, rfl⟩ := List.cons.inj hids
          obtain ⟨kind, b', herror⟩ := (refreshAura_notActive_iff h id).mpr hoff
          rw [hrun] at herror
          cases herror
          exact ⟨kind, b₁, rfl⟩
        | cons x before =>
          obtain ⟨rfl, -⟩ := List.cons.inj hids
          simp [Board.refreshEach, hrun] at hbefore
    | ok _ b₁ =>
      have hstep : ∀ rest, Board.refreshEach (id :: rest) b = Board.refreshEach rest b₁ := by
        intro rest
        simp [Board.refreshEach, hrun]
      have hwell : WellFormed (outline b₁) := by
        rw [← leftBy_of_ok hrun]
        exact wellFormed_refreshAura id h
      have hon : ¬Off b id := by
        intro hoff
        obtain ⟨b', herror⟩ := refreshAura_of_off h hoff
        rw [hrun] at herror
        cases herror
      rw [hstep, ih hwell]
      constructor
      · rintro ⟨before, id', after, b₂, rfl, hbefore, hoff⟩
        refine ⟨id :: before, id', after, b₂, rfl, ?_, (off_refreshAura h hrun id').mp hoff⟩
        rwa [hstep]
      · rintro ⟨before, id', after, b₂, hids, hbefore, hoff⟩
        cases before with
        | nil =>
          obtain ⟨rfl, rfl⟩ := List.cons.inj hids
          exact absurd hoff hon
        | cons x before =>
          obtain ⟨rfl, rfl⟩ := List.cons.inj hids
          rw [hstep] at hbefore
          exact ⟨before, id', after, b₂, rfl, hbefore, (off_refreshAura h hrun id').mpr hoff⟩

/-! ### Histories -/

/-- Whether a refresh of an aura failed in a history. -/
def RefreshFailed (start : Board) (moves : List Move) (id : AuraId) : Prop :=
  Occurs (FailsRefresh · · id) start moves

lemma refreshFailed_concat (start : Board) (moves : List Move) (move : Move) (id : AuraId) :
    RefreshFailed start (moves ++ [move]) id ↔
      RefreshFailed start moves id ∨ FailsRefresh (play start moves) move id :=
  occurs_concat start moves move

lemma FailsRefresh.registered {b : Board} {move : Move} {id : AuraId}
    (h : FailsRefresh b move id) : ∃ active, Table.get? b.auras id = some active := by
  obtain ⟨-, fault, b', hrun⟩ := h
  obtain ⟨slot, aura, -, hget, -⟩ := refreshAura_error hrun
  exact ⟨_, hget⟩

section History

variable {settings : Settings} {start : Board} (hnew : Board.new settings = .ok start)

include hnew

lemma inactive_iff (moves : List Move) : ∀ id active,
    Table.get? (play start moves).auras id = some active →
      (active.aura.isActive = false ↔ RefreshFailed start moves id) := by
  induction moves using List.reverseRecOn with
  | nil =>
    intro id active hget
    obtain ⟨players, rfl, -⟩ := new_eq hnew
    cases hget
  | append_singleton moves move ih =>
    intro id active hget
    have hwell := wellFormed_play hnew moves
    rw [play_concat] at hget
    rw [off_step hwell move hget, refreshFailed_concat]
    refine or_congr_left ?_
    cases hold : Table.get? (play start moves).auras id with
    | some old => simpa [Off, hold] using ih id old hold
    | none =>
      -- An aura that is registered only now was not there to fail a refresh before.
      refine iff_of_false (by simp [Off, hold]) fun hpast => ?_
      have hlt := lt_nextAura_of_occurs hnew (fun _ _ => FailsRefresh.registered) hpast
      rcases registered_step hget with h | ⟨_, _, _, _, _, -, rfl, -⟩ | ⟨_, _, _, -, h, -⟩
      · rw [hold] at h
        cases h
      · exact lt_irrefl _ hlt
      · rw [hold] at h
        cases h

lemma off_iff (moves : List Move) (id : AuraId) :
    Off (play start moves) id ↔
      (play start moves).isAuraActive id = true ∧ RefreshFailed start moves id := by
  unfold Off Board.isAuraActive Table.contains
  cases hget : Table.get? (play start moves).auras id with
  | none => simp
  | some active => simpa using inactive_iff hnew moves id active hget

/-- A registered aura is off exactly if a refresh of it has failed. Exactly then its removal finds
it not active, and so does a pass of refreshes that comes to it. -/
theorem aura_off_iff_refresh_failed (moves : List Move) :
    (∀ id active, Table.get? (play start moves).auras id = some active →
      (active.aura.isActive = false ↔ RefreshFailed start moves id)) ∧
    (∀ id, (∃ kind b', Board.removeAura id (play start moves) = .error (.notActive kind) b') ↔
      (play start moves).isAuraActive id = true ∧ RefreshFailed start moves id) ∧
    ((∃ kind b', Board.refreshAuras (play start moves) = .error (.notActive kind) b') ↔
      ∃ before id after b₁,
        (play start moves).players.values.flatMap (·.auras) = before ++ id :: after ∧
        Board.refreshEach before (play start moves) = .ok () b₁ ∧
        (play start moves).isAuraActive id = true ∧ RefreshFailed start moves id) := by
  have hwell := wellFormed_play hnew moves
  refine ⟨inactive_iff hnew moves, fun id => ?_, ?_⟩
  · rw [removeAura_notActive_iff hwell, off_iff hnew]
  · simp only [← off_iff hnew]
    exact refreshEach_notActive_iff hwell _

end History

/-- An aura comes to a minion whose attack then falls to the least amount there is. The refresh
cannot take the aura back, and leaves it registered but off. -/
def exhaustedMoves : List Move :=
  [.place ⟨0⟩ none "Recruit" .one .one,
    .addAura ⟨0⟩ ⟨0⟩ (.minions { change := .attack .one, selector := .minion }),
    .write ⟨2⟩ Stat.attack fun _ => Amount.ofInt? (-9223372036854775808),
    .refreshAura ⟨0⟩]

theorem exhausted_aura_not_active :
    ∃ start, Board.new Settings.standard = .ok start ∧
      (play start exhaustedMoves).isAuraActive ⟨0⟩ = true ∧
      ∃ kind b',
        Board.removeAura ⟨0⟩ (play start exhaustedMoves) = .error (.notActive kind) b' := by
  have hnew : Board.new Settings.standard = .ok _ := rfl
  refine ⟨_, hnew, rfl, ?_⟩
  refine ((aura_off_iff_refresh_failed hnew exhaustedMoves).2.1 ⟨0⟩).mpr ⟨rfl, ?_⟩
  exact ⟨exhaustedMoves.take 3, .refreshAura ⟨0⟩, [], rfl, rfl, _, _, rfl⟩

end CardEffects.Proofs
