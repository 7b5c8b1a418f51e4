import CardEffects.Proofs.Selections

/-!
# Scopes

Whom a minion aura can be on: the minions of the players that it covers, seen from who controls its
owner. Nobody changes sides, so at every moment of a run each registered aura is on minions within
its scope only.
-/

namespace CardEffects.Proofs

/-! ### Whom a coverage reaches -/

/-- Whether a coverage reaches an entity on behalf of an owner: by who controls the two. -/
def CoveredFor (coverage : Coverage) (b : Board) (owner e : EntityId) : Prop :=
  ∃ controller player, b.controller? owner = some controller ∧ b.controller? e = some player ∧
    coverage.covers controller player = true

lemma controller?_of_minion? {b : Board} (h : WellFormed (outline b)) {e : EntityId}
    {minion : Minion} (hminion : b.minion? e = some minion) :
    b.controller? e = some minion.controller := by
  have hnumber := playerCount_le_of_minion? h hminion
  simp [Board.controller?, Board.seat?, not_lt.mpr hnumber, hminion]

lemma CoveredFor.steady {coverage : Coverage} {b b' : Board} {owner e : EntityId}
    (h : CoveredFor coverage b owner e) (hsteady : Steady b b') (howner : b'.contains owner = true)
    (he : b'.contains e = true) : CoveredFor coverage b' owner e := by
  obtain ⟨controller, player, hcontroller, hplayer, hcovers⟩ := h
  refine ⟨controller, player, ?_, ?_, hcovers⟩
  · rw [hsteady owner (by rw [contains_eq_controller?, hcontroller]; rfl) howner, hcontroller]
  · rw [hsteady e (by rw [contains_eq_controller?, hplayer]; rfl) he, hplayer]

lemma minions_eq_ok {coverage : Coverage} {b : Board} {owner : EntityId} {covered : List EntityId} :
    coverage.minions b owner = .ok covered ↔
      ∃ controller, b.controller? owner = some controller ∧
        covered = ((PlayerId.all b.playerCount).filter (coverage.covers controller)).flatMap
          b.minionsOf := by
  unfold Coverage.minions
  cases b.controller? owner with
  | none => simp
  | some controller => simp [eq_comm]

lemma mem_minions_iff {b : Board} (hwell : WellFormed (outline b))
    (hseated : Seated b.playerCount (outline b)) (hcount : b.playerCount < 256)
    {coverage : Coverage} {owner : EntityId} {covered : List EntityId}
    (h : coverage.minions b owner = .ok covered) (e : EntityId) :
    e ∈ covered ↔ b.isMinion e = true ∧ CoveredFor coverage b owner e := by
  obtain ⟨controller, hcontroller, rfl⟩ := minions_eq_ok.mp h
  simp only [List.mem_flatMap, List.mem_filter, mem_minionsOf_iff hwell hseated]
  constructor
  · rintro ⟨player, ⟨-, hcovers⟩, minion, hminion, rfl⟩
    exact ⟨by simp [Board.isMinion, hminion], controller, minion.controller, hcontroller,
      controller?_of_minion? hwell hminion, hcovers⟩
  · rintro ⟨hminion, controller', player, hcontroller', hplayer, hcovers⟩
    obtain rfl := Option.some.inj (hcontroller.symm.trans hcontroller')
    obtain ⟨minion, hminion⟩ := Option.isSome_iff_exists.mp hminion
    obtain rfl := Option.some.inj ((controller?_of_minion? hwell hminion).symm.trans hplayer)
    have hlt := hseated.controller_lt hplayer
    refine ⟨minion.controller, ⟨?_, hcovers⟩, minion, hminion, rfl⟩
    exact List.mem_map.mpr ⟨minion.controller.index, List.mem_range.mpr (by omega), rfl⟩

lemma isMinion_of_mem_minions {b : Board} (hwell : WellFormed (outline b)) {coverage : Coverage}
    {owner : EntityId} {covered : List EntityId} (h : coverage.minions b owner = .ok covered)
    {e : EntityId} (he : e ∈ covered) : b.isMinion e = true := by
  obtain ⟨controller, -, rfl⟩ := minions_eq_ok.mp h
  obtain ⟨player, -, hplayer⟩ := List.mem_flatMap.mp he
  obtain ⟨minion, hminion, -⟩ :=
    Option.map_eq_some_iff.mp (controller_of_mem_minionsOf hwell hplayer)
  simp [Board.isMinion, hminion]

lemma matched_eq {b : Board} (hwell : WellFormed (outline b)) (aura : MinionAura)
    (owner : EntityId) :
    aura.matched b owner =
      (aura.players.minions b owner).map (pick aura.selector (level b) owner) := by
  unfold MinionAura.matched
  cases hcovered : aura.players.minions b owner with
  | error fault => rfl
  | ok covered =>
    simp only [Except.map]
    rw [select_eq_pick hwell _ _ fun e => isMinion_of_mem_minions hwell hcovered]

/-! ### The same seating -/

section Seating

variable {b b' : Board} (h : seating b' = seating b)

include h

lemma minionsOf_eq_of_seating (player : PlayerId) : b'.minionsOf player = b.minionsOf player := by
  have hsides : (outline b').sides = (outline b).sides := congrArg (·.1) h
  have hside := congrArg (·[player.index]?) hsides
  simp only [outline, List.getElem?_map] at hside
  unfold Board.minionsOf PerPlayer.get?
  rw [hside]

lemma controller?_eq_of_seating (e : EntityId) : b'.controller? e = b.controller? e := by
  have hsides : (outline b').sides = (outline b).sides := congrArg (·.1) h
  have hcontrollers : (outline b').controllers = (outline b).controllers := congrArg (·.2.1) h
  rw [controller?_eq, controller?_eq, hsides, hcontrollers]

lemma playerCount_eq_of_seating : b'.playerCount = b.playerCount := by
  have hsides : (outline b').sides = (outline b).sides := congrArg (·.1) h
  rw [← count_outline, hsides, count_outline]

lemma isMinion_eq_of_seating : b'.isMinion = b.isMinion := by
  have hcontrollers : (outline b').controllers = (outline b).controllers := congrArg (·.2.1) h
  funext e
  have hsame := controllers_outline b' e
  rw [hcontrollers, controllers_outline] at hsame
  simpa [Board.isMinion] using congrArg Option.isSome hsame.symm

lemma minions_eq_of_seating (coverage : Coverage) (owner : EntityId) :
    coverage.minions b' owner = coverage.minions b owner := by
  unfold Coverage.minions
  rw [controller?_eq_of_seating h, playerCount_eq_of_seating h,
    funext (minionsOf_eq_of_seating h)]

end Seating

/-! ### Auras stay within their scopes -/

/-- Whether an entity is within the scope of a minion aura of an owner. -/
def InScope (b : Board) (aura : MinionAura) (owner e : EntityId) : Prop :=
  CoveredFor aura.players b owner e ∧ (aura.selector = .notSelf → e ≠ owner)

lemma InScope.of_seating {b b' : Board} {aura : MinionAura} {owner e : EntityId}
    (h : InScope b aura owner e) (hseating : seating b' = seating b) : InScope b' aura owner e := by
  unfold InScope CoveredFor at h ⊢
  simpa only [controller?_eq_of_seating hseating] using h

/-- What an aura picks, whatever it reads, are minions within its scope. -/
lemma inScope_of_mem_pick {b : Board} (hwell : WellFormed (outline b)) {aura : MinionAura}
    {owner : EntityId} {covered : List EntityId}
    (hcovered : aura.players.minions b owner = .ok covered)
    {stats : EntityId → String → Int} {e : EntityId}
    (he : e ∈ pick aura.selector stats owner covered) :
    b.isMinion e = true ∧ InScope b aura owner e := by
  rw [mem_pick] at he
  obtain ⟨controller, hcontroller, rfl⟩ := minions_eq_ok.mp hcovered
  obtain ⟨player, hplayer, hmem⟩ := List.mem_flatMap.mp he.1
  obtain ⟨minion, hminion, rfl⟩ :=
    Option.map_eq_some_iff.mp (controller_of_mem_minionsOf hwell hmem)
  refine ⟨by simp [Board.isMinion, hminion], ⟨controller, minion.controller, hcontroller,
    controller?_of_minion? hwell hminion, (List.mem_filter.mp hplayer).2⟩, fun hselector => ?_⟩
  have haccepts := he.2
  rw [hselector] at haccepts
  simpa [accepts] using haccepts

lemma matched_eq_ok {b : Board} (hwell : WellFormed (outline b)) {aura : MinionAura}
    {owner : EntityId} {matched : List EntityId} :
    aura.matched b owner = .ok matched ↔ ∃ covered, aura.players.minions b owner = .ok covered ∧
      matched = pick aura.selector (level b) owner covered := by
  rw [matched_eq hwell]
  cases aura.players.minions b owner with
  | error fault => simp [Except.map]
  | ok covered => simp [Except.map, eq_comm]

lemma inScope_of_mem_matched {b : Board} (hwell : WellFormed (outline b)) {aura : MinionAura}
    {owner : EntityId} {matched : List EntityId} (h : aura.matched b owner = .ok matched)
    {e : EntityId} (he : e ∈ matched) : InScope b aura owner e := by
  obtain ⟨covered, hcovered, rfl⟩ := (matched_eq_ok hwell).mp h
  exact (inScope_of_mem_pick hwell hcovered he).2

lemma mem_affected {aura : MinionAura} {e : EntityId} :
    e ∈ aura.affected ↔ ∃ slot affected, aura.active = some (slot, affected) ∧ e ∈ affected := by
  unfold MinionAura.affected
  cases aura.active with
  | none => simp
  | some active =>
    obtain ⟨slot, affected⟩ := active
    simp

/-- Whether all registered minion auras are on minions within their scopes, but for those that have
left play. -/
structure ScopesFit (b : Board) : Prop where
  wellFormed : WellFormed (outline b)
  inScope : ∀ id slot aura, Table.get? b.auras id = some { slot, aura := .minions aura } →
    ∀ e ∈ aura.affected, b.isMinion e = true → InScope b aura slot.owner e

lemma steady_of_step {kind : Move → Prop} {b b' : Board} (h : WellFormed (outline b))
    (hstep : Step kind b b') : Steady b b' := by
  rcases outline_step hstep with hsame | ⟨move, rfl⟩
  · exact steady_of_seating (seating_eq_of_outline hsame)
  · rcases seating_cases move b with
      hseating | ⟨player, index, minion, rfl, -, hplaced⟩ | ⟨id, minion, hminion, hdeparted⟩
    · exact steady_of_seating hseating
    · rw [hplaced]
      exact steady_placed h _ _ _
    · rw [hdeparted]
      exact steady_departed h hminion

lemma ScopesFit.inScope_after {b b' : Board} (h : ScopesFit b) (hstep : Step (fun _ => True) b b')
    (hwell : WellFormed (outline b')) {id : AuraId} {slot : Slot} {aura : MinionAura}
    (hget : Table.get? b.auras id = some { slot, aura := .minions aura })
    (hget' : Table.get? b'.auras id = some { slot, aura := .minions aura }) {e : EntityId}
    (he : e ∈ aura.affected) (hminion : b'.isMinion e = true) : InScope b' aura slot.owner e := by
  obtain ⟨slot', affected, hactive, hmem⟩ := mem_affected.mp he
  -- Its number was in use already, so it has not come into play with this step.
  have hfits := (h.wellFormed.fits id _ hget).minions aura slot' affected rfl hactive
  have hnumbered := hfits.2.2 e hmem
  have hin' : b'.contains e = true := by simp [Board.contains, hminion]
  have hdev : Develops b b' := .single hstep
  have hin := (hdev.presence hnumbered.2).2 hin'
  have howner : b'.contains slot.owner = true :=
    (inPlay_outline_iff b' _).mp (hwell.fits id _ hget').owner_inPlay
  obtain ⟨hcovered, hself⟩ := h.inScope id slot aura hget e he (isMinion_of_numbered hnumbered hin)
  exact ⟨hcovered.steady (steady_of_step h.wellFormed hstep) howner hin', hself⟩

lemma minionAura_unique {entry : Option ActiveAura} {slot slot' : Slot} {aura aura' : MinionAura}
    (h : entry = some { slot, aura := .minions aura })
    (h' : entry = some { slot := slot', aura := .minions aura' }) :
    slot = slot' ∧ aura = aura' := by
  subst h
  simpa using h'

/-- A minion aura that has been refreshed is as before, or off, or on those that it picked. -/
lemma refreshed_cases {b : Board} {id : AuraId} {slot : Slot} {aura aura' : MinionAura}
    (hold : Table.get? b.auras id = some { slot, aura := .minions aura })
    (hget : Table.get? (leftBy (Board.refreshAura id) b).auras id =
      some { slot, aura := .minions aura' }) :
    aura' = aura ∨ aura' = aura.off ∨ ∃ b₁ matched, outline b₁ = outline b ∧
      aura.matched b₁ slot.owner = .ok matched ∧
      aura' = { aura with active := some (slot, matched) } := by
  have hreplaced : ∀ {b₁ : Board} {now : MinionAura}, bare b₁ = bare b →
      Table.get? (replaced b₁ id (.minions now)).auras id =
        some { slot, aura := .minions now } := by
    intro b₁ now hbare
    unfold replaced
    rw [Table.get?_modify_self, auras_eq_of_outline (outline_eq_of_bare hbare), hold]
    rfl
  cases hrun : Board.refreshAura id b with
  | error fault b₁ =>
    rw [leftBy_of_error hrun] at hget
    obtain ⟨slot', off, b₂, hold', hbare, rfl⟩ := refreshAura_error hrun
    obtain ⟨rfl, rfl⟩ := minionAura_unique hold hold'
    exact .inr (.inl (minionAura_unique (hreplaced hbare) hget).2.symm)
  | ok _ b₁ =>
    rw [leftBy_of_ok hrun] at hget
    rcases refreshAura_ok hrun with
      rfl | ⟨slot', on, b₂, matched, b₃, hold', -, hbare, hmatched, hshift, rfl⟩
    · exact .inl (minionAura_unique hold hget).2.symm
    · obtain ⟨rfl, rfl⟩ := minionAura_unique hold hold'
      have hnow := minionAura_unique (hreplaced (hshift.bare_eq.trans hbare)) hget
      exact .inr (.inr ⟨b₂, matched, outline_eq_of_bare hbare, hmatched, hnow.2.symm⟩)

lemma ScopesFit.step {b b' : Board} (h : ScopesFit b) (hstep : Step (fun _ => True) b b') :
    ScopesFit b' := by
  have hwell : WellFormed (outline b') := h.wellFormed.develops (.single hstep)
  refine ⟨hwell, fun id slot aura hget e he hminion => ?_⟩
  rcases outline_step hstep with hsame | ⟨move, rfl⟩
  · have hold := hget
    rw [auras_eq_of_outline hsame] at hold
    exact h.inScope_after hstep hwell hold hget he hminion
  rcases registered_step hget with
    hold | ⟨holder, owner, added, added', b₁, rfl, -, hon, hactive⟩ |
    ⟨slot', aura', on, rfl, hold, hactive⟩
  · exact h.inScope_after hstep hwell hold hget he hminion
  · obtain ⟨rfl, rfl⟩ := ActiveAura.mk.inj hactive
    have hseating := seating_step (.addAura holder owner added) trivial b
    rcases aura_switchOn_ok hon with ⟨m, m', rfl, hm', hm⟩ | ⟨p, p', -, hp', -⟩
    · obtain rfl := Aura.minions.inj hm'
      obtain ⟨matched, hmatched, rfl, -⟩ := minions_switchOn_ok hm
      have hnumbered : WellFormed (outline (numbered b)) := h.wellFormed.number_aura
      have hscope : InScope (numbered b) m owner e :=
        inScope_of_mem_matched hnumbered hmatched (by simpa [MinionAura.affected] using he)
      exact hscope.of_seating (b := numbered b) hseating
    · cases hp'
  · obtain ⟨rfl, haura⟩ := ActiveAura.mk.inj hactive
    obtain rfl := Aura.minions.inj haura
    have hseating := seating_step (.refreshAura id) trivial b
    rcases refreshed_cases hold hget with hsame | hoff | ⟨b₁, matched, houtline, hmatched, hon⟩
    · rw [hsame] at hget he ⊢
      exact h.inScope_after hstep hwell hold hget he hminion
    · rw [hoff] at he
      simp [MinionAura.affected, MinionAura.off] at he
    · rw [hon] at he ⊢
      have hscope : InScope b₁ aura' slot.owner e :=
        inScope_of_mem_matched (by rw [houtline]; exact h.wellFormed) hmatched
          (by simpa [MinionAura.affected] using he)
      exact (hscope.of_seating (seating_eq_of_outline houtline).symm).of_seating hseating

lemma ScopesFit.develops {b b' : Board} (h : ScopesFit b) (hdev : Develops b b') : ScopesFit b' :=
  hdev.preserves (fun _ _ hstep hb => hb.step hstep) h

lemma scopesFit_new {settings : Settings} {b : Board} (h : Board.new settings = .ok b) :
    ScopesFit b := by
  refine ⟨wellFormed_new h, fun id slot aura hget => ?_⟩
  obtain ⟨players, rfl, -, -⟩ := new_eq h
  cases hget

end CardEffects.Proofs
