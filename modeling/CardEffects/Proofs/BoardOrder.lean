import CardEffects.Proofs.ActSteps
import CardEffects.Proofs.Scopes
import CardEffects.Proofs.TurnOrder

/-!
# The order of a side

Minions stand on a side from left to right. To summon puts one minion between the others, to remove
takes one out from between the others, and nothing else moves any. So minions that stand on a side
at two moments of a run stand there in the same order at both.
-/

namespace CardEffects.Proofs

variable {σ : Type}

/-! ### Steps that leave everybody where they are -/

/-- Whether an act neither puts a minion into play nor takes one out. -/
def Act.Stays : Act → Prop
  | .place _ _ _ _ _ | .leave _ => False
  | _ => True

lemma ordinary_stays : Ordinary Act.Stays :=
  ⟨fun _ _ => trivial, fun _ _ _ => trivial, fun _ _ => trivial, fun _ => trivial,
    fun _ _ _ => trivial, fun _ => trivial⟩

lemma outline_attachEffect (owner : EntityId) (effect : Effect) :
    Within (Same outline) (Board.attachEffect owner effect) := by
  have hsubscribe : Within (Same outline)
      (effect.event.subscribe owner (.trigger owner effect.action effect.targeting)) := by
    intro b
    rcases event_subscribe_outcome effect.event owner
      (.trigger owner effect.action effect.targeting) b with
      ⟨surface, c, -, -, hrun⟩ | ⟨fault, hrun⟩
    · rw [leftBy_of_ok hrun]
      exact aloof_outline.subscribed b surface _ _
    · rw [leftBy_of_error hrun]
      exact refl b
  have hon : Within (Same outline) (effect.switchOn owner) := by
    unfold Effect.switchOn
    split
    · exact (within_throw _).bind fun _ => hsubscribe.bind fun _ => within_pure _
    · exact hsubscribe.bind fun _ => within_pure _
  exact (within_character owner).bind fun _ => hon.bind fun effect b =>
    outline_modifyCharacter b owner fun c => { c with effects := c.effects ++ [effect] }

lemma seating_act {act : Act} (h : act.Stays) (b : Board) :
    seating (leftBy act.run b) = seating b := by
  cases act with
  | quiet change hquiet => exact (hquiet b).seating_eq
  | place player spot name attack health => exact h.elim
  | leave minion => exact h.elim
  | listen surface event listener =>
    have hbind : ∀ b, outline (leftBy (Move.bind surface event listener).run b) = outline b :=
      aloof_outline.move trivial
    exact seating_eq_of_outline (hbind b)
  | release surface event id =>
    exact seating_eq_of_outline (aloof_outline.unsubscribe surface event id b)
  | attach owner effect => exact seating_eq_of_outline (outline_attachEffect owner effect b)
  | detach owner =>
    simp only [Act.run, leftBy_discard]
    exact seating_eq_of_outline (outline_eq_of_standing (within_standing_detachEffects owner b))
  | addAura holder owner aura => exact seating_step (.addAura holder owner aura) trivial b
  | removeAura aura => exact seating_step (.removeAura aura) trivial b

lemma seating_via {b b' : Board} (h : Via Act.Stays b b') : seating b' = seating b :=
  h.preserves (P := fun c => seating c = seating b)
    (fun _ hact c hc => (seating_act hact c).trans hc) rfl

/-- Whether a task is to summon or to remove a minion. -/
def Task.Reseats : Task σ → Prop
  | .run (.perform (.summon _ _ _ _ _) _) | .run (.perform (.removeMinion _) _) => True
  | _ => False

lemma stays_of_not_reseats {task : Task σ} (h : ¬task.Reseats) :
    task.OfKind Act.Stays ∧ task.Places Act.Stays := by
  cases task with
  | run program =>
    cases program with
    | perform operation next =>
      cases operation with
      | summon player spot name attack health => exact absurd trivial h
      | removeMinion id => exact absurd trivial h
      | switchOffEffect effect => exact ⟨fun _ _ _ => trivial, trivial⟩
      | switchOffAura aura => exact ⟨fun _ _ _ _ _ => trivial, trivial⟩
      | _ => exact ⟨trivial, trivial⟩
    | _ => exact ⟨trivial, trivial⟩
  | call id listener args => exact ⟨fun _ _ _ _ => trivial, trivial⟩
  | _ => exact ⟨trivial, trivial⟩

lemma seating_of_step {c c' : Config σ} (h : step c = some c') (htask : ¬c.task.Reseats) :
    seating c'.game.board = seating c.game.board :=
  have hstays := stays_of_not_reseats htask
  seating_via (via_of_step_placing ordinary_stays h hstays.1 hstays.2)

/-! ### One minion more or less -/

section Sides

variable {b : Board} {player other : PlayerId}

lemma minionsOf_modifyPlayer_of_ne (hne : other ≠ player) (f : Player → Player) :
    (b.modifyPlayer player f).minionsOf other = b.minionsOf other := by
  unfold Board.minionsOf Board.modifyPlayer
  rw [PerPlayer.get?_modify, if_neg fun h => hne h.symm]

lemma minionsOf_placed_of_ne (hne : other ≠ player) (index : Nat) (minion : Minion) :
    (placed b player index minion).minionsOf other = b.minionsOf other :=
  minionsOf_modifyPlayer_of_ne hne _

lemma minionsOf_departed_of_ne (hne : other ≠ player) (id : EntityId) :
    (departed b player id).minionsOf other = b.minionsOf other :=
  minionsOf_modifyPlayer_of_ne hne _

lemma minionsOf_placed {seat : Player} (hseat : b.players.get? player = some seat) (index : Nat)
    (minion : Minion) : (placed b player index minion).minionsOf player =
      (b.minionsOf player).insertIdx index ⟨b.nextEntity⟩ := by
  simp [placed, Board.minionsOf, Board.modifyPlayer, PerPlayer.get?_modify, hseat]

lemma minionsOf_departed (b : Board) (player : PlayerId) (id : EntityId) :
    (departed b player id).minionsOf player = (b.minionsOf player).erase id := by
  cases hseat : b.players.get? player <;>
    simp [departed, Board.minionsOf, Board.modifyPlayer, PerPlayer.get?_modify, hseat]

end Sides

lemma controllers_of_seating {b b' : Board} (h : seating b' = seating b) {id : EntityId}
    {minion : Minion} (hminion : b'.minion? id = some minion) :
    ∃ minion', b.minion? id = some minion' ∧ minion'.controller = minion.controller := by
  have hcontrollers : (outline b').controllers = (outline b).controllers := congrArg (·.2.1) h
  have hsame := controllers_outline b' id
  rw [hcontrollers, controllers_outline, hminion] at hsame
  exact Option.map_eq_some_iff.mp hsame

lemma removeMinion_sides (id : EntityId) (b : Board) :
    (∃ fault b', Board.removeMinion id b = .error fault b' ∧ seating b' = seating b) ∨
    ∃ minion minion' b₁, Board.removeMinion id b = .ok minion (departed b₁ minion.controller id) ∧
      seating b₁ = seating b ∧ b.minion? id = some minion' ∧
      minion'.controller = minion.controller := by
  have hdetached : seating (leftBy (Board.detachEffects id) b) = seating b :=
    seating_eq_of_outline (outline_eq_of_standing (within_standing_detachEffects id b))
  have hremoved : ∀ ids b, seating (leftBy (Board.removeAuras ids) b) = seating b :=
    fun ids b => seating_via (via_removeAuras ordinary_stays ids b)
  cases hrun : Board.removeMinion id b with
  | ok minion b' =>
    obtain ⟨-, count, b₁, b₂, hfirst, hsecond, -, hminion, rfl⟩ := removeMinion_ok hrun
    rw [leftBy_of_ok hfirst] at hdetached
    have hseating := hremoved (b₁.aurasOwnedBy id) b₁
    rw [leftBy_of_ok hsecond, hdetached] at hseating
    obtain ⟨minion', hminion', hcontroller⟩ := controllers_of_seating hseating hminion
    exact .inr ⟨minion, minion', b₂, rfl, hseating, hminion', hcontroller⟩
  | error fault b' =>
    refine .inl ⟨fault, b', rfl, ?_⟩
    rw [removeMinion_run] at hrun
    split at hrun
    · cases hrun
      rfl
    cases hfirst : Board.detachEffects id b with
    | error fault' b₁ =>
      rw [leftBy_of_error hfirst] at hdetached
      simp only [hfirst, EStateM.Result.error.injEq] at hrun
      rwa [← hrun.2]
    | ok count b₁ =>
      rw [leftBy_of_ok hfirst] at hdetached
      have hseating := hremoved (b₁.aurasOwnedBy id) b₁
      rw [hdetached] at hseating
      cases hsecond : Board.removeAuras (b₁.aurasOwnedBy id) b₁ with
      | error fault' b₂ =>
        rw [leftBy_of_error hsecond] at hseating
        simp only [hfirst, hsecond, EStateM.Result.error.injEq] at hrun
        rwa [← hrun.2]
      | ok _ b₂ =>
        rw [leftBy_of_ok hsecond] at hseating
        simp only [hfirst, hsecond, leavePlay_run] at hrun
        cases hminion : b₂.minion? id with
        | none =>
          simp only [hminion, EStateM.Result.error.injEq] at hrun
          rwa [← hrun.2]
        | some minion => simp [hminion] at hrun

/-! ### What a step does to the sides -/

/-- Whether a task puts a minion on the side of a player or takes one off it. -/
def Task.Moves (b : Board) (player : PlayerId) : Task σ → Prop
  | .run (.perform (.summon player' _ _ _ _) _) => player' = player
  | .run (.perform (.removeMinion id) _) => id ∈ b.minionsOf player
  | _ => False

/-- What a step does to the sides. -/
structure SideStep (c c' : Config σ) : Prop where
  /-- A minion that is summoned stands on its side when that is fired, unless there is no such
  player. -/
  summon : ∀ player spot name attack health next,
    c.task = .run (.perform (.summon player spot name attack health) next) →
    (c.game.board.players.get? player = none ∧
      c'.task = .run (next (.error (.notAPlayer player.hero))) ∧
      c'.game.board.minionsOf player = c.game.board.minionsOf player) ∨
    c'.task = .fire player.hero Occurrence.minionSummoned
      { focus := some ⟨c.game.board.nextEntity⟩ } ∧
    c'.game.board.minionsOf player = (c.game.board.minionsOf player).insertIdx
      (indexOn spot (c.game.board.minionsOf player)) ⟨c.game.board.nextEntity⟩
  /-- A minion that is removed leaves a gap that is closed, unless the removal fails. -/
  remove : ∀ id next player, c.task = .run (.perform (.removeMinion id) next) →
    id ∈ c.game.board.minionsOf player →
    (∃ fault, c'.task = .run (next (.error fault)) ∧
      c'.game.board.minionsOf player = c.game.board.minionsOf player) ∨
    ∃ minion left right, c'.task = .run (next (.ok minion)) ∧
      c.game.board.minionsOf player = left ++ id :: right ∧
      c'.game.board.minionsOf player = left ++ right
  stay : ∀ player, ¬c.task.Moves c.game.board player →
    c'.game.board.minionsOf player = c.game.board.minionsOf player

lemma sideStep_summon {player : PlayerId} {spot : Option Nat} {name : String}
    {attack health : Amount} {next : Except Fault EntityId → Program σ}
    {frames : List (TaskFrame σ)} {game : Game σ} {c' : Config σ}
    (h : step ⟨.run (.perform (.summon player spot name attack health) next), frames, game⟩ =
      some c') :
    SideStep ⟨.run (.perform (.summon player spot name attack health) next), frames, game⟩ c' := by
  simp only [step, startProgram, startOperation, onBoard, placeMinion_run, Option.some.injEq] at h
  cases hseat : game.board.players.get? player with
  | none =>
    simp only [hseat] at h
    subst h
    refine ⟨fun player' _ _ _ _ _ htask => ?_, fun _ _ _ htask => (by cases htask), fun _ _ => rfl⟩
    cases htask
    exact .inl ⟨hseat, rfl, rfl⟩
  | some seat =>
    have hside : game.board.minionsOf player = seat.minions := by simp [Board.minionsOf, hseat]
    simp only [hseat] at h
    subst h
    refine ⟨fun player' _ _ _ _ _ htask => ?_, fun _ _ _ htask => (by cases htask),
      fun other hother => minionsOf_placed_of_ne (Ne.symm hother) _ _⟩
    cases htask
    refine .inr ⟨rfl, ?_⟩
    rw [hside, ← hside]
    exact minionsOf_placed hseat _ _

lemma sideStep_remove {id : EntityId} {next : Except Fault Minion → Program σ}
    {frames : List (TaskFrame σ)} {game : Game σ} {c' : Config σ}
    (hwell : WellFormed (outline game.board))
    (hseated : Seated game.board.playerCount (outline game.board))
    (h : step ⟨.run (.perform (.removeMinion id) next), frames, game⟩ = some c') :
    SideStep ⟨.run (.perform (.removeMinion id) next), frames, game⟩ c' := by
  simp only [step, startProgram, startOperation, Game.perform, onBoard, Option.some.injEq] at h
  rcases removeMinion_sides id game.board with
    ⟨fault, b', hrun, hseating⟩ | ⟨minion, minion', b₁, hrun, hseating, hminion, hcontroller⟩
  · rw [hrun] at h
    subst h
    refine ⟨fun _ _ _ _ _ _ htask => (by cases htask), fun _ _ player htask _ => ?_,
      fun player _ => minionsOf_eq_of_seating hseating player⟩
    cases htask
    exact .inl ⟨fault, rfl, minionsOf_eq_of_seating hseating player⟩
  · have hon : ∀ player, id ∈ game.board.minionsOf player ↔ minion.controller = player := by
      intro player
      rw [mem_minionsOf_iff hwell hseated, ← hcontroller, hminion]
      simp
    rw [hrun] at h
    subst h
    refine ⟨fun _ _ _ _ _ _ htask => (by cases htask), fun _ _ player htask hmem => ?_,
      fun player hmoves => ?_⟩
    · cases htask
      obtain rfl := (hon player).mp hmem
      obtain ⟨left, right, -, hbefore, hafter⟩ := List.exists_erase_eq hmem
      refine .inr ⟨minion, left, right, rfl, hbefore, ?_⟩
      refine (minionsOf_departed b₁ _ id).trans ?_
      rw [minionsOf_eq_of_seating hseating, hafter]
    · have hne : player ≠ minion.controller := fun heq => hmoves ((hon player).mpr heq.symm)
      exact (minionsOf_departed_of_ne hne id).trans (minionsOf_eq_of_seating hseating player)

lemma sideStep_of_step {c c' : Config σ} (hwell : WellFormed (outline c.game.board))
    (hseated : Seated c.game.board.playerCount (outline c.game.board)) (h : step c = some c') :
    SideStep c c' := by
  by_cases hreseats : c.task.Reseats
  · obtain ⟨task, frames, game⟩ := c
    cases task with
    | run program =>
      cases program with
      | perform operation next =>
        cases operation with
        | summon player spot name attack health => exact sideStep_summon h
        | removeMinion id => exact sideStep_remove hwell hseated h
        | _ => exact hreseats.elim
      | _ => exact hreseats.elim
    | _ => exact hreseats.elim
  · have hsides := minionsOf_eq_of_seating (seating_of_step h hreseats)
    refine ⟨fun _ _ _ _ _ _ htask => ?_, fun _ _ _ htask => ?_, fun player _ => hsides player⟩
    · exact absurd (by rw [htask]; trivial) hreseats
    · exact absurd (by rw [htask]; trivial) hreseats

lemma sideStep_of_stirs {c c' : Config σ} (hwell : WellFormed (outline c.game.board))
    (hseated : Seated c.game.board.playerCount (outline c.game.board)) (h : Stirs c c') :
    SideStep c c' := by
  obtain ⟨game, hstep, hboard⟩ := h
  obtain ⟨hsummon, hremove, hstay⟩ := sideStep_of_step hwell hseated hstep
  constructor
  · rw [hboard]
    exact hsummon
  · rw [hboard]
    exact hremove
  · rw [hboard]
    exact hstay

/-! ### The order of those who stay -/

/-- Whether those who stand on the sides of a board and were numbered on an earlier one stood on the
same sides then, in the same order. -/
structure KeepsOrder (b b' : Board) : Prop where
  next_le : b.nextEntity ≤ b'.nextEntity
  sublist : ∀ player,
    ((b'.minionsOf player).filter (·.raw < b.nextEntity)).Sublist (b.minionsOf player)

instance : IsPreorder Board KeepsOrder where
  refl _ := ⟨le_rfl, fun _ => List.filter_sublist⟩
  trans b b' b'' h h' := by
    refine ⟨h.next_le.trans h'.next_le, fun player => ?_⟩
    -- Who was numbered on the first board was so on the second one.
    have hnumbered : (b''.minionsOf player).filter (·.raw < b.nextEntity) =
        ((b''.minionsOf player).filter (·.raw < b'.nextEntity)).filter (·.raw < b.nextEntity) := by
      rw [List.filter_filter]
      refine List.filter_congr fun id _ => ?_
      have hle := h.next_le
      simp only [← Bool.decide_and, decide_eq_decide]
      omega
    rw [hnumbered]
    exact ((h'.sublist player).filter _).trans (h.sublist player)

lemma filter_insertIdx_of_neg {α : Type} {p : α → Bool} {x : α} (h : p x = false) (index : Nat)
    (list : List α) : (list.insertIdx index x).filter p = list.filter p := by
  induction list generalizing index with
  | nil => cases index <;> simp [h]
  | cons a list ih =>
    cases index with
    | zero => simp [h]
    | succ index => simp [List.filter_cons, ih]

lemma keepsOrder_placed {b : Board} {player : PlayerId} {seat : Player}
    (hseat : b.players.get? player = some seat) (index : Nat) (minion : Minion) :
    KeepsOrder b (placed b player index minion) := by
  refine ⟨Nat.le_succ _, fun other => ?_⟩
  by_cases hother : other = player
  · subst hother
    rw [minionsOf_placed hseat, filter_insertIdx_of_neg (by simp)]
    exact List.filter_sublist
  · rw [minionsOf_placed_of_ne hother]
    exact List.filter_sublist

lemma keepsOrder_departed (b : Board) (player : PlayerId) (id : EntityId) :
    KeepsOrder b (departed b player id) := by
  refine ⟨le_rfl, fun other => List.filter_sublist.trans ?_⟩
  by_cases hother : other = player
  · subst hother
    rw [minionsOf_departed]
    exact List.erase_sublist
  · rw [minionsOf_departed_of_ne hother]

lemma keepsOrder_of_seating {b b' : Board} (h : seating b' = seating b) : KeepsOrder b b' := by
  have hnext : b'.nextEntity = b.nextEntity := congrArg (·.2.2) h
  refine ⟨hnext.ge, fun player => ?_⟩
  rw [minionsOf_eq_of_seating h]
  exact List.filter_sublist

lemma Develops.keepsOrder {b b' : Board} (h : Develops b b') : KeepsOrder b b' := by
  refine h.preserves (P := KeepsOrder b) (fun c c' hstep hc => ?_) (refl b)
  suffices hlast : KeepsOrder c c' from Trans.trans hc hlast
  rcases outline_step hstep with hsame | ⟨move, rfl⟩
  · exact keepsOrder_of_seating (seating_eq_of_outline hsame)
  · rcases seating_cases move c with
      hseating | ⟨player, index, minion, -, ⟨seat, hseat, -⟩, hplaced⟩ |
      ⟨leaver, minion, -, hdeparted⟩
    · exact keepsOrder_of_seating hseating
    · rw [hplaced]
      exact keepsOrder_placed hseat index minion
    · rw [hdeparted]
      exact keepsOrder_departed c _ leaver

lemma pair_sublist_of_sublist {α : Type} {part whole : List α} (h : part.Sublist whole)
    (hnodup : whole.Nodup) {x y : α} (hpair : [x, y].Sublist whole) (hx : x ∈ part)
    (hy : y ∈ part) : [x, y].Sublist part := by
  induction h with
  | slnil => cases hx
  | cons a hrest ih =>
    obtain ⟨hfresh, hnodup⟩ := List.nodup_cons.mp hnodup
    cases hpair with
    | cons _ hpair => exact ih hnodup hpair hx hy
    | cons_cons _ _ => exact absurd (hrest.subset hx) hfresh
  | @cons_cons part whole a hrest ih =>
    obtain ⟨hfresh, hnodup⟩ := List.nodup_cons.mp hnodup
    have hinner : ∀ {z}, z ∈ whole → z ∈ a :: part → z ∈ part := fun hwhole hpart =>
      List.mem_of_ne_of_mem (ne_of_mem_of_not_mem hwhole hfresh) hpart
    cases hpair with
    | cons _ hpair =>
      have hmem := hpair.subset
      exact (ih hnodup hpair (hinner (hmem (by simp)) hx) (hinner (hmem (by simp)) hy)).cons a
    | cons_cons _ hlast =>
      have hmem := List.singleton_sublist.mp hlast
      exact (List.singleton_sublist.mpr (hinner hmem hy)).cons_cons _

def OnSide (b : Board) (id : EntityId) : Prop :=
  ∃ player, id ∈ b.minionsOf player

/-- Two minions that stand on sides later on stand there as they stood, if they stood on one. -/
lemma order_of_develops {b b' : Board} (hwell : WellFormed (outline b)) (h : Develops b b')
    {player : PlayerId} {x y : EntityId} (hpair : [x, y].Sublist (b.minionsOf player))
    (hx : OnSide b' x) (hy : OnSide b' y) : [x, y].Sublist (b'.minionsOf player) := by
  have hkeeps := h.keepsOrder
  have hstays : ∀ {z}, z ∈ b.minionsOf player → OnSide b' z →
      z ∈ (b'.minionsOf player).filter (·.raw < b.nextEntity) := by
    rintro z hbefore ⟨other, hafter⟩
    obtain ⟨minion, hminion, -⟩ :=
      Option.map_eq_some_iff.mp (controller_of_mem_minionsOf hwell hbefore)
    have hlt : z.raw < b.nextEntity :=
      (numbered_of_isMinion hwell (by simp [Board.isMinion, hminion])).2
    have hkept : z ∈ (b'.minionsOf other).filter (·.raw < b.nextEntity) :=
      List.mem_filter.mpr ⟨hafter, by simpa using hlt⟩
    have hsame : other = player := by
      by_contra hne
      exact disjoint_minionsOf hwell hne ((hkeeps.sublist other).subset hkept) hbefore
    rwa [hsame] at hkept
  have hx' := hstays (hpair.subset (by simp)) hx
  have hy' := hstays (hpair.subset (by simp)) hy
  exact (pair_sublist_of_sublist (hkeeps.sublist player) (minionsOf_nodup hwell player) hpair hx'
    hy').trans List.filter_sublist

/-! ### Runs -/

/-- One configuration comes from another by steps of which none puts a minion on the side of a
player or takes one off it. -/
def Undisturbed (player : PlayerId) : Config σ → Config σ → Prop :=
  Relation.ReflTransGen fun c c' => Stirs c c' ∧ ¬c.task.Moves c.game.board player

lemma Undisturbed.stirred {player : PlayerId} {c c' : Config σ} (h : Undisturbed player c c') :
    Stirred c c' :=
  Relation.ReflTransGen.mono (fun _ _ hstep => hstep.1) _ _ h

section Runs

variable {settings : Settings} {host : σ} {game : Game σ}
  (hnew : Game.new settings host = .ok game)

include hnew

lemma sides_of_stirred {program : Program σ} {c : Config σ}
    (h : Stirred ⟨.run program, [], game⟩ c) :
    WellFormed (outline c.game.board) ∧
      Seated c.game.board.playerCount (outline c.game.board) := by
  have hseated := (seated_new hnew).develops h.develops
  rw [hseated.playerCount_eq]
  exact ⟨(wellFormed_new (board_new hnew)).develops h.develops, hseated⟩

/-- At every moment of a run, within whatever is under way, a minion that is summoned is put at its
place before that is fired, one that is removed is the only one to go, and nothing else moves a
minion. So two minions that stand on sides at two moments stand in the same order at both, and a
side stays as it is until some program summons for its player or removes one of its minions. -/
theorem board_order_stable (program : Program σ) :
    (∃ result game', attempt (Game.execute program) game = .ok result game' ∧
      Reaches ⟨.run program, [], game⟩ ⟨.done result, [], game'⟩) ∧
    ∀ c, Stirred ⟨.run program, [], game⟩ c →
      (∀ c', Stirs c c' → SideStep c c') ∧
      (∀ c', Stirred c c' → ∀ player x y, [x, y].Sublist (c.game.board.minionsOf player) →
        OnSide c'.game.board x → OnSide c'.game.board y →
          [x, y].Sublist (c'.game.board.minionsOf player)) ∧
      ∀ c' player, Undisturbed player c c' →
        c'.game.board.minionsOf player = c.game.board.minionsOf player := by
  refine ⟨task_ends (.run program) [] game, fun c hc => ⟨fun c' hstirs => ?_, ?_, ?_⟩⟩
  · obtain ⟨hwell, hseated⟩ := sides_of_stirred hnew hc
    exact sideStep_of_stirs hwell hseated hstirs
  · intro c' hstirred player x y hpair hx hy
    exact order_of_develops (sides_of_stirred hnew hc).1 hstirred.develops hpair hx hy
  · intro c' player hundisturbed
    induction hundisturbed with
    | refl => rfl
    | tail hfirst hlast ih =>
      obtain ⟨hwell, hseated⟩ :=
        sides_of_stirred hnew (hc.trans (Undisturbed.stirred hfirst))
      exact ((sideStep_of_stirs hwell hseated hlast.1).stay player hlast.2).trans ih

end Runs

/-- Two minions are on a side when a third one is summoned between them, at which the other player
summons one, too, and the third one is removed. -/
def muster : Program Unit :=
  .perform (.summon ⟨0⟩ none "Scout" .one .one) fun _ =>
    .perform (.summon ⟨0⟩ (some 7) "Guard" .one .one) fun _ =>
      .subscribe ⟨0⟩ Occurrence.minionSummoned
        (fun _ => .perform (.summon ⟨1⟩ none "Spy" .one .one) fun _ =>
          .perform (.removeMinion ⟨4⟩) fun _ => .finish (.ok ()))
        fun _ => .perform (.summon ⟨0⟩ (some 1) "Rogue" .one .one) fun _ => .finish (.ok ())

/-- The third minion stands between the two others when it is fired that it was summoned, and when
it is gone the two stand as they stood. -/
theorem muster_board_order :
    ∃ game, Game.new Settings.standard () = .ok game ∧ ∃ c c' c'' : Config Unit,
      Reaches ⟨.run muster, [], game⟩ c ∧ step c = some c' ∧ Reaches c' c'' ∧
      c.game.board.minionsOf ⟨0⟩ = [⟨2⟩, ⟨3⟩] ∧
      c'.task = .fire ⟨0⟩ Occurrence.minionSummoned { focus := some ⟨4⟩ } ∧
      c'.game.board.minionsOf ⟨0⟩ = [⟨2⟩, ⟨4⟩, ⟨3⟩] ∧
      c''.game.board.minion? ⟨4⟩ = none ∧
      [⟨2⟩, ⟨3⟩].Sublist (c''.game.board.minionsOf ⟨0⟩) := by
  obtain ⟨game, hnew⟩ : ∃ game, Game.new Settings.standard () = .ok game := ⟨_, rfl⟩
  obtain ⟨-, hall⟩ := board_order_stable hnew muster
  have hreaches := reaches_advance 7 (⟨.run muster, [], game⟩ : Config Unit)
  obtain ⟨hsteps, horder, -⟩ := hall _ hreaches.stirred
  have hstep : step (advance 7 ⟨.run muster, [], game⟩) =
      some (advance 8 ⟨.run muster, [], game⟩) := by
    cases hnew
    rfl
  have hlater := reaches_advance 7 (advance 8 (⟨.run muster, [], game⟩ : Config Unit))
  have hbefore : (advance 7 ⟨.run muster, [], game⟩).game.board.minionsOf ⟨0⟩ = [⟨2⟩, ⟨3⟩] := by
    cases hnew
    decide +kernel
  have hnext : (advance 7 ⟨.run muster, [], game⟩).game.board.nextEntity = 4 := by
    cases hnew
    decide +kernel
  have hseat : ((advance 7 ⟨.run muster, [], game⟩).game.board.players.get? ⟨0⟩).isSome := by
    cases hnew
    decide +kernel
  have htask : (advance 7 ⟨.run muster, [], game⟩).task =
      .run (.perform (.summon ⟨0⟩ (some 1) "Rogue" .one .one) fun _ => .finish (.ok ())) := by
    cases hnew
    rfl
  rcases (hsteps _ (stirs_of_step hstep)).summon _ _ _ _ _ _ htask with
    ⟨hnone, -⟩ | ⟨hfire, hside⟩
  · rw [hnone] at hseat
    cases hseat
  · rw [hnext] at hfire hside
    rw [hbefore] at hside
    refine ⟨game, hnew, _, _, _, hreaches, hstep, hlater, hbefore, hfire, hside, ?_, ?_⟩
    · cases hnew
      decide +kernel
    · refine horder _ (.head (stirs_of_step hstep) hlater.stirred) ⟨0⟩ _ _ ?_ ⟨⟨0⟩, ?_⟩ ⟨⟨0⟩, ?_⟩
      · rw [hbefore]
      · cases hnew
        decide +kernel
      · cases hnew
        decide +kernel

end CardEffects.Proofs
