import CardEffects.Proofs.Refreshing

/-!
# Newcomers

Minions that are summoned after an aura was put on get it with the next refresh. Where the aura
leaves those that it was put on, they gain its change then. Where it picks anew whom to leave, the
refresh first takes from them what they never had, so they gain nothing, and when the aura goes they
lose its change all the same.
-/

namespace CardEffects.Proofs

/-- Whether a selector takes every minion, or every minion but the owner. -/
def TakesAll (selector : Selector) : Prop :=
  selector = .minion ∨ selector = .notSelf

lemma mem_pick_takesAll {selector : Selector} (htakes : TakesAll selector)
    (stats : EntityId → String → Int) (source : EntityId) (candidates : List EntityId)
    (e : EntityId) :
    e ∈ pick selector stats source candidates ↔
      e ∈ candidates ∧ (selector = .notSelf → e ≠ source) := by
  rcases htakes with rfl | rfl
  · simp [pick_minion]
  · simp [pick_notSelf]

/-- What it takes to find all minions within the scope of an aura on a board. -/
structure Surveyed (b : Board) : Prop where
  scopes : ScopesFit b
  seated : Seated b.playerCount (outline b)
  count_lt : b.playerCount < 256

lemma surveyed_of_develops {σ : Type} {settings : Settings} {host : σ} {game : Game σ}
    (hnew : Game.new settings host = .ok game) {b : Board} (hdev : Develops game.board b) :
    Surveyed b := by
  have hseated := (seated_new hnew).develops hdev
  obtain ⟨players, -, -, hcount⟩ := new_eq (board_new hnew)
  have hplayers := hseated.playerCount_eq
  exact ⟨(scopesFit_new (board_new hnew)).develops hdev, hplayers ▸ hseated, by omega⟩

section TakesAll

variable {b : Board} {aura : MinionAura} {owner : EntityId} {covered : List EntityId}

lemma Surveyed.mem_pick_iff (h : Surveyed b) (htakes : TakesAll aura.selector)
    (hcovered : aura.players.minions b owner = .ok covered) (stats : EntityId → String → Int)
    (e : EntityId) :
    e ∈ pick aura.selector stats owner covered ↔
      b.isMinion e = true ∧ InScope b aura owner e := by
  rw [mem_pick_takesAll htakes,
    mem_minions_iff h.scopes.wellFormed h.seated h.count_lt hcovered, and_assoc]
  rfl

lemma Surveyed.mem_takenFrom_iff (h : Surveyed b) (htakes : TakesAll aura.selector) {id : AuraId}
    {slot : Slot} (hget : Table.get? b.auras id = some { slot, aura := .minions aura })
    {affected : List EntityId} (hactive : aura.active = some (slot, affected)) (e : EntityId) :
    e ∈ takenFrom b aura ↔ (b.isMinion e = true ∧ InScope b aura slot.owner e) ∧
      (aura.removal = .snapshot → e ∈ affected) := by
  have howner : b.contains slot.owner = true :=
    (inPlay_outline_iff b _).mp (h.scopes.wellFormed.fits id _ hget).owner_inPlay
  cases hremoval : aura.removal with
  | snapshot =>
    have hscope : e ∈ affected → b.isMinion e = true → InScope b aura slot.owner e := fun he =>
      h.scopes.inScope id slot aura hget e (mem_affected.mpr ⟨slot, affected, hactive, he⟩)
    rw [takenFrom_snapshot hremoval, affected_of_active hactive, List.mem_filter]
    tauto
  | recompute =>
    obtain ⟨matched, hmatched⟩ := matched_isOk aura howner
    obtain ⟨covered, hcovered, hpicked⟩ := (matched_eq_ok h.scopes.wellFormed).mp hmatched
    have hleaving : aura.leaving b slot.owner affected = .ok matched := by
      simp only [MinionAura.leaving, hremoval, howner, hmatched, if_true]
    rw [takenFrom_of_leaving hactive hleaving, List.mem_filter, hpicked,
      h.mem_pick_iff htakes hcovered]
    exact ⟨fun he => ⟨he.1, nofun⟩, fun he => ⟨he.1, he.1.1⟩⟩

end TakesAll

/-! ### The only aura -/

lemma refreshOrder_of_only {b : Board} (hfit : HoldingsFit b) {id : AuraId} {active : ActiveAura}
    (honly : b.auras = [(id, active)]) : refreshOrder b = [id] := by
  have hmem : ∀ other, other ∈ refreshOrder b ↔ other ∈ [id] := by
    intro other
    rw [mem_refreshOrder hfit, honly, List.mem_singleton]
    by_cases hid : id = other
    · simp [Table.get?, hid]
    · simp [Table.get?, hid, Ne.symm hid]
  have hperm : (refreshOrder b).Perm [id] :=
    (List.perm_ext_iff_of_nodup (nodup_refreshOrder hfit) (List.nodup_singleton id)).mpr hmem
  exact List.perm_singleton.mp hperm

/-- Whether a refresh keeps what the minions have that an aura was on, and gives its change once to
those in its scope that it was not on. -/
structure EvenHanded (b b' : Board) (owner : EntityId) (aura : MinionAura) : Prop where
  kept : ∀ e ∈ aura.affected, b.isMinion e = true → ∀ key, level b' e key = level b e key
  given : ∀ e, b.isMinion e = true → InScope b aura owner e → e ∉ aura.affected →
    ∀ key, level b' e key = level b e key + delta aura.change key

/-- What a refresh does to the stats of all when a single aura is registered, and what the removal
of the aura does after it. In between the aura is on `affected`, where nobody in play is missing
that it was on. -/
structure SoleRefresh (b b' : Board) (id : AuraId) (slot : Slot) (aura : MinionAura)
    (affected : List EntityId) : Prop where
  mem_iff : ∀ e, e ∈ affected ↔ b.isMinion e = true ∧ InScope b aura slot.owner e
  stays : ∀ e ∈ aura.affected, b.isMinion e = true → e ∈ affected
  get?_eq : Table.get? b'.auras id = some (entryOn slot aura affected)
  refreshed : ∀ e key, level b' e key = level b e key +
    if aura.removal = .snapshot ∧ e ∈ affected ∧ e ∉ aura.affected then delta aura.change key else 0
  removed : ∀ b'', Board.removeAura id b' = .ok () b'' → ∀ e key, level b'' e key =
    level b' e key - if e ∈ affected then delta aura.change key else 0

lemma level_removeAura {b b' : Board} (hwell : WellFormed (outline b)) {id : AuraId} {slot : Slot}
    {aura : MinionAura} (hget : Table.get? b.auras id = some { slot, aura := .minions aura })
    (hrun : Board.removeAura id b = .ok () b') (e : EntityId) (key : String) :
    level b' e key = level b e key - if e ∈ takenFrom b aura then delta aura.change key else 0 := by
  cases removal_outcome hwell hget with
  | off b₁ hoff herror hgone hlevel => simp [hrun] at herror
  | taken b₁ hon hbear hok hgone hlevel =>
    rw [hrun] at hok
    cases hok
    exact hlevel e key
  | halfway done target rest key' b₁ hsplit hdone hno herror hgone hlevel => simp [hrun] at herror

lemma turn_of_only {b b' : Board} (hscopes : ScopesFit b) (hfit : HoldingsFit b) {id : AuraId}
    {slot : Slot} {aura : MinionAura}
    (honly : b.auras = [(id, { slot, aura := .minions aura })])
    (hrun : Board.refreshAuras b = .ok () b') :
    (∃ affected, aura.active = some (slot, affected)) ∧
    ∃ covered, aura.players.minions b slot.owner = .ok covered ∧
      Turn b b' id slot aura (pickedAnew b aura slot.owner covered) := by
  have hget : Table.get? b.auras id = some { slot, aura := .minions aura } := by
    simp [honly, Table.get?]
  rw [refreshAuras_run, refreshOrder_of_only hfit honly] at hrun
  obtain ⟨⟨⟩, b₁, hfirst, hrest⟩ := bind_ok hrun
  cases hrest
  exact refreshAura_turn hscopes.wellFormed hget hfirst

section Turn

variable {b b' : Board} {id : AuraId} {slot : Slot} {aura : MinionAura}
  {affected matched : List EntityId} (hsurvey : Surveyed b) (htakes : TakesAll aura.selector)
  (hget : Table.get? b.auras id = some { slot, aura := .minions aura })
  (h : Turn b b' id slot aura matched)
  (hmem : ∀ e, e ∈ matched ↔ b.isMinion e = true ∧ InScope b aura slot.owner e)

include hsurvey htakes hget h hmem

/-- In its turn an aura is taken from all whom it is given to, but for those that it was not on if
it leaves those that it was put on. -/
lemma Turn.refreshed (hactive : aura.active = some (slot, affected)) (e : EntityId) (key : String) :
    level b' e key = level b e key +
      if aura.removal = .snapshot ∧ e ∈ matched ∧ e ∉ affected then delta aura.change key
      else 0 := by
  have htaken := hsurvey.mem_takenFrom_iff htakes hget hactive e
  rw [← hmem e] at htaken
  rw [h.level_eq]
  -- Whoever the aura is taken from is given it again, so only those it was not taken from gain.
  by_cases hmatched : e ∈ matched
  · by_cases hfresh : aura.removal = .snapshot ∧ e ∉ affected
    · have hnot : e ∉ takenFrom b aura := fun he => hfresh.2 ((htaken.mp he).2 hfresh.1)
      rw [if_neg hnot, if_pos hmatched, if_pos ⟨hfresh.1, hmatched, hfresh.2⟩, sub_zero]
    · have hin : e ∈ takenFrom b aura :=
        htaken.mpr ⟨hmatched, fun hsnapshot => not_not.mp fun he => hfresh ⟨hsnapshot, he⟩⟩
      rw [if_pos hin, if_pos hmatched, if_neg fun hnew => hfresh ⟨hnew.1, hnew.2.2⟩]
      ring
  · have hnot : e ∉ takenFrom b aura := fun he => hmatched (htaken.mp he).1
    rw [if_neg hnot, if_neg hmatched, if_neg fun hnew => hmatched hnew.2.1, sub_zero]

omit hsurvey hget in
lemma Turn.removed (hsurvey' : Surveyed b') {b'' : Board}
    (hremove : Board.removeAura id b' = .ok () b'') (e : EntityId) (key : String) :
    level b'' e key =
      level b' e key - if e ∈ matched then delta aura.change key else 0 := by
  have hnow : Table.get? b'.auras id = some (entryOn slot aura matched) := by
    rw [h.get?_eq, if_pos rfl]
  have hscope : InScope b' aura slot.owner e ↔ InScope b aura slot.owner e :=
    ⟨fun he => he.of_seating h.seating_eq.symm, fun he => he.of_seating h.seating_eq⟩
  -- Both policies leave the same minions now, as the aura is on all that it would pick.
  have htakes' : TakesAll { aura with active := some (slot, matched) }.selector := htakes
  have htaken : e ∈ takenFrom b' { aura with active := some (slot, matched) } ↔
      (b'.isMinion e = true ∧ InScope b' aura slot.owner e) ∧
        (aura.removal = .snapshot → e ∈ matched) :=
    hsurvey'.mem_takenFrom_iff htakes' hnow rfl e
  rw [isMinion_eq_of_seating h.seating_eq, hscope, ← hmem] at htaken
  have hall : e ∈ takenFrom b' { aura with active := some (slot, matched) } ↔ e ∈ matched :=
    htaken.trans ⟨And.left, fun he => ⟨he, fun _ => he⟩⟩
  rw [level_removeAura hsurvey'.scopes.wellFormed hnow hremove]
  simp only [hall]

end Turn

lemma soleRefresh {b b' : Board} (hsurvey : Surveyed b) (hsurvey' : Surveyed b')
    (hfit : HoldingsFit b) {id : AuraId} {slot : Slot} {aura : MinionAura}
    (honly : b.auras = [(id, { slot, aura := .minions aura })]) (htakes : TakesAll aura.selector)
    (hrun : Board.refreshAuras b = .ok () b') :
    ∃ affected, SoleRefresh b b' id slot aura affected := by
  have hget : Table.get? b.auras id = some { slot, aura := .minions aura } := by
    simp [honly, Table.get?]
  obtain ⟨⟨affected, hactive⟩, covered, hcovered, hturn⟩ :=
    turn_of_only hsurvey.scopes hfit honly hrun
  have hmem : ∀ e, e ∈ pickedAnew b aura slot.owner covered ↔
      b.isMinion e = true ∧ InScope b aura slot.owner e := hsurvey.mem_pick_iff htakes hcovered _
  refine ⟨_, hmem, ?_, ?_, ?_, fun b'' hremove => hturn.removed htakes hmem hsurvey' hremove⟩
  · intro e he hminion
    have hscope := hsurvey.scopes.inScope id slot aura hget e he hminion
    exact (hmem e).mpr ⟨hminion, hscope⟩
  · rw [hturn.get?_eq, if_pos rfl]
  · rw [affected_of_active hactive]
    exact hturn.refreshed hsurvey htakes hget hmem hactive

lemma SoleRefresh.even_iff {b b' : Board} {id : AuraId} {slot : Slot} {aura : MinionAura}
    {affected : List EntityId} (h : SoleRefresh b b' id slot aura affected) :
    EvenHanded b b' slot.owner aura ↔ aura.removal = .snapshot ∨
      (∀ e ∈ affected, e ∈ aura.affected) ∨ ∀ key, delta aura.change key = 0 := by
  constructor
  · intro heven
    by_cases hsnapshot : aura.removal = .snapshot
    · exact .inl hsnapshot
    by_cases hall : ∀ e ∈ affected, e ∈ aura.affected
    · exact .inr (.inl hall)
    -- One newcomer has gained nothing, so there was nothing to gain.
    push Not at hall
    obtain ⟨e, he, hfresh⟩ := hall
    obtain ⟨hminion, hscope⟩ := (h.mem_iff e).mp he
    refine .inr (.inr fun key => ?_)
    have hgiven := heven.given e hminion hscope hfresh key
    rw [h.refreshed, if_neg fun hnew => hsnapshot hnew.1] at hgiven
    omega
  · intro hcases
    refine ⟨fun e he hminion key => ?_, fun e hminion hscope hfresh key => ?_⟩
    · rw [h.refreshed, if_neg fun hnew => hnew.2.2 he, add_zero]
    · have he := (h.mem_iff e).mpr ⟨hminion, hscope⟩
      rw [h.refreshed]
      rcases hcases with hsnapshot | hall | hzero
      · rw [if_pos ⟨hsnapshot, he, hfresh⟩]
      · exact absurd (hall e he) hfresh
      · rw [hzero, ite_self]

/-- In a refresh with a single aura, which takes all minions in its scope or all but its owner, the
aura stays on the minions that it was on and their stats stay the same. The others in its scope gain
its change if it leaves those that it was put on, and nothing if it picks anew whom to leave, though
from then on it is on all of them and a removal takes its change from each. So the refresh treats
old and new alike exactly in the first case, or if there are none that are new, or if there is
nothing to give. -/
theorem evenHanded_iff {σ : Type} {settings : Settings} {host : σ} {game : Game σ}
    (hnew : Game.new settings host = .ok game) (program : Program σ) {b : Board}
    (hb : b ∈ boards program game) {id : AuraId} {slot : Slot} {aura : MinionAura}
    (honly : b.auras = [(id, { slot, aura := .minions aura })]) (htakes : TakesAll aura.selector)
    {b' : Board} (hrun : Board.refreshAuras b = .ok () b') :
    ∃ affected, SoleRefresh b b' id slot aura affected ∧
      (EvenHanded b b' slot.owner aura ↔ aura.removal = .snapshot ∨
        (∀ e ∈ affected, e ∈ aura.affected) ∨ ∀ key, delta aura.change key = 0) := by
  have hdev := ((boards_develop (dispatching_new hnew) program).2 b hb).1
  have hquiet := quiet_refreshAuras b
  rw [leftBy_of_ok hrun] at hquiet
  have hdev' := Trans.trans hdev hquiet.develops
  obtain ⟨affected, hsole⟩ := soleRefresh (surveyed_of_develops hnew hdev)
    (surveyed_of_develops hnew hdev') ((holdingsFit_new hnew).develops hdev) honly htakes hrun
  exact ⟨affected, hsole, hsole.even_iff⟩

/-- More attack for every minion, from an aura that picks anew whom to leave. -/
def fickleAura : MinionAura :=
  { change := .attack .one, selector := .minion, removal := .recompute }

/-- A player has that aura, and a recruit joins. -/
def latecomer : Program Unit :=
  .perform (.addAura ⟨0⟩ ⟨0⟩ (.minions fickleAura)) fun _ =>
    .perform (.summon ⟨0⟩ none "Recruit" .one .one) fun _ => .finish (.ok ())

/-- The refresh gives the recruit nothing, and the removal takes from it what it never had. -/
theorem latecomer_not_evenHanded :
    ∃ game, Game.new Settings.standard () = .ok game ∧ ∃ b ∈ boards latecomer game, ∃ slot aura,
      b.auras = [(⟨0⟩, { slot, aura := .minions aura })] ∧ TakesAll aura.selector ∧
        ∃ b' b'', Board.refreshAuras b = .ok () b' ∧ Board.removeAura ⟨0⟩ b' = .ok () b'' ∧
          ¬EvenHanded b b' slot.owner aura ∧ level b ⟨2⟩ Stat.attack = 1 ∧
          level b' ⟨2⟩ Stat.attack = 1 ∧ level b'' ⟨2⟩ Stat.attack = 0 := by
  obtain ⟨game, hnew⟩ : ∃ game, Game.new Settings.standard () = .ok game := ⟨_, rfl⟩
  have hlast : (leftBy (Game.execute latecomer) game).board ∈ boards latecomer game := by
    simp [boards]
  obtain ⟨slot, honly, b', b'', hrun, hremove, hbefore, hnow⟩ : ∃ slot,
      (leftBy (Game.execute latecomer) game).board.auras = [(⟨0⟩, entryOn slot fickleAura [])] ∧
      ∃ b' b'', Board.refreshAuras (leftBy (Game.execute latecomer) game).board = .ok () b' ∧
        Board.removeAura ⟨0⟩ b' = .ok () b'' ∧
        level (leftBy (Game.execute latecomer) game).board ⟨2⟩ Stat.attack = 1 ∧
        Table.get? b'.auras ⟨0⟩ = some (entryOn slot fickleAura [⟨2⟩]) := by
    cases hnew
    exact ⟨⟨⟨0⟩, ⟨0⟩, ⟨0⟩⟩, rfl, _, _, rfl, rfl, rfl, rfl⟩
  have htakes : TakesAll { fickleAura with active := some (slot, []) }.selector := .inl rfl
  obtain ⟨affected, hsole, heven⟩ := evenHanded_iff hnew latecomer hlast honly htakes hrun
  obtain rfl : affected = [⟨2⟩] := by
    simpa [entryOn] using hsole.get?_eq.symm.trans hnow
  have hafter : level b' ⟨2⟩ Stat.attack = 1 := by
    simp [hsole.refreshed, fickleAura, hbefore]
  refine ⟨game, hnew, _, hlast, slot, _, honly, htakes, b', b'', hrun, hremove, ?_, hbefore,
    hafter, ?_⟩
  · rw [heven]
    rintro (hsnapshot | hall | hzero)
    · cases hsnapshot
    · cases hall ⟨2⟩ (List.mem_singleton_self _)
    · have hgain : delta fickleAura.change Stat.attack = 0 := hzero Stat.attack
      revert hgain
      decide
  · rw [hsole.removed b'' hremove, hafter, if_pos (List.mem_singleton_self _)]
    rfl

end CardEffects.Proofs
