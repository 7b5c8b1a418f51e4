import CardEffects.Proofs.Sides
import CardEffects.Proofs.Termination

/-!
# The order of turns

Turns go around the table. A turn is passed only when the end of it has been dealt with, and while
that is under way no turn can be passed: the turn that waits to be passed waits for it, and to end
the turn once more is refused.
-/

namespace CardEffects.Proofs

variable {σ : Type}

/-! ### Whose turn it is -/

/-- Whether it is the turn of the player whose turn it should be, around a table of `count`. -/
structure InTurn (count : Nat) (b : Board) : Prop where
  turn_pos : 1 ≤ b.turn
  index_eq : b.activePlayer.index = (b.turn - 1) % count

lemma InTurn.of_course {count : Nat} {b b' : Board} (h : InTurn count b)
    (hcourse : course b' = course b) : InTurn count b' := by
  have hactive : b'.activePlayer = b.activePlayer := congrArg (·.2.2.1) hcourse
  have hturn : b'.turn = b.turn := congrArg (·.2.2.2) hcourse
  constructor
  · rw [hturn]
    exact h.turn_pos
  · rw [hactive, hturn]
    exact h.index_eq

lemma InTurn.passTurn {count : Nat} (hpos : 0 < count) (hcount : count ≤ 255) {b : Board}
    (h : InTurn count b) (hplayers : b.playerCount = count) :
    InTurn count (leftBy Move.passTurn.run b) := by
  have hsum : b.turn - 1 + 1 = b.turn := Nat.sub_add_cancel h.turn_pos
  have hlt : b.turn % count < 256 := lt_of_lt_of_le (Nat.mod_lt _ hpos) (by omega)
  refine ⟨Nat.le_add_left 1 b.turn, ?_⟩
  change (b.activePlayer.index + 1) % b.playerCount % 256 = (b.turn + 1 - 1) % count
  rw [hplayers, h.index_eq, Nat.mod_add_mod, hsum, Nat.add_sub_cancel, Nat.mod_eq_of_lt hlt]

lemma InTurn.develops {count : Nat} (hpos : 0 < count) (hcount : count ≤ 255) {b b' : Board}
    (h : InTurn count b) (hseated : Seated count (outline b)) (hdev : Develops b b') :
    InTurn count b' := by
  induction hdev with
  | refl => exact h
  | tail hfirst hlast ih =>
    have hplayers := (hseated.develops hfirst).playerCount_eq
    cases hlast with
    | switchOn aura slot => exact ih.of_course (aloof_course.switchOn aura slot _)
    | switchOff aura => exact ih.of_course (aloof_course.switchOff aura _)
    | move move _ _ =>
      by_cases hlocal : move.Local
      · exact ih.of_course (course_move hlocal _)
      · cases move with
        | enter surface event => exact ⟨ih.turn_pos, ih.index_eq⟩
        | conclude => exact ⟨ih.turn_pos, ih.index_eq⟩
        | passTurn => exact ih.passTurn hpos hcount hplayers
        | _ => exact absurd trivial hlocal

/-! ### While a turn ends -/

def turnEnd (b : Board) : EntityId × String :=
  (b.activePlayer.hero, Occurrence.turnEnded)

def SameTurn (b b' : Board) : Prop :=
  b'.activePlayer = b.activePlayer ∧ b'.turn = b.turn

lemma SameTurn.trans {b b' b'' : Board} (h : SameTurn b b') (h' : SameTurn b' b'') :
    SameTurn b b'' :=
  ⟨h'.1.trans h.1, h'.2.trans h.2⟩

lemma SameTurn.turnEnd_eq {b b' : Board} (h : SameTurn b b') : turnEnd b' = turnEnd b := by
  unfold turnEnd
  rw [h.1]

lemma sameTurn_of_works {b b' : Board} (h : Works b b') : SameTurn b b' :=
  ⟨congrArg (·.2.2.1) h.course_eq, congrArg (·.2.2.2) h.course_eq⟩

/-- Whether what is put off is a pass for the end of a turn. -/
def EndsTurn (o : EntityId × String) (frame : TaskFrame σ) : Prop :=
  ∃ args rest, frame = .pass o.1 o.2 args rest

/-- How turns that wait to be passed wait: for the pass for the end of the active player's turn, or,
if nothing else has been put off since, for that firing itself or its fault; and once it has
succeeded it is no longer under way. -/
structure TurnsWait (c : Config σ) : Prop where
  above : ∀ frame below, frame :: .passTurn :: below <:+ c.frames →
    EndsTurn (turnEnd c.game.board) frame
  next : ∀ below, c.frames = .passTurn :: below →
    (∃ args, c.task = .fire (turnEnd c.game.board).1 (turnEnd c.game.board).2 args) ∨
    (∃ fault, c.task = .done (.error fault)) ∨
    c.task = .done (.ok ()) ∧ turnEnd c.game.board ∉ c.game.board.dispatching

lemma turnsWait_nil (task : Task σ) (game : Game σ) : TurnsWait ⟨task, [], game⟩ where
  above _ _ hsuffix := by simp at hsuffix
  next _ h := by cases h

lemma TurnsWait.busy {task : Task σ} {frames : List (TaskFrame σ)} {game : Game σ}
    (h : TurnsWait ⟨task, frames, game⟩) (hbusy : Busy task) (below : List (TaskFrame σ)) :
    frames ≠ .passTurn :: below := by
  intro hframes
  rcases h.next below hframes with ⟨args, htask⟩ | ⟨fault, htask⟩ | ⟨htask, -⟩
  · rw [show task = _ from htask] at hbusy
    exact hbusy
  · rw [show task = _ from htask] at hbusy
    exact hbusy
  · rw [show task = _ from htask] at hbusy
    exact hbusy

lemma TurnsWait.firing {surface : EntityId} {event : String} {args : Payload}
    {frames below : List (TaskFrame σ)} {game : Game σ}
    (h : TurnsWait ⟨.fire surface event args, frames, game⟩)
    (hframes : frames = .passTurn :: below) :
    turnEnd game.board = (surface, event) := by
  rcases h.next below hframes with ⟨args, htask⟩ | ⟨fault, htask⟩ | ⟨htask, -⟩
  · obtain ⟨hsurface, hevent, -⟩ := Task.fire.inj htask
    exact Prod.ext hsurface.symm hevent.symm
  · cases htask
  · cases htask

lemma TurnsWait.head {task : Task σ} {frame : TaskFrame σ} {frames below : List (TaskFrame σ)}
    {game : Game σ} (h : TurnsWait ⟨task, frame :: frames, game⟩)
    (hframes : frames = .passTurn :: below) : EndsTurn (turnEnd game.board) frame :=
  h.above frame below (hframes ▸ List.suffix_refl _)

lemma TurnsWait.tail_above {task : Task σ} {frame : TaskFrame σ} {frames : List (TaskFrame σ)}
    {game : Game σ} (h : TurnsWait ⟨task, frame :: frames, game⟩) :
    ∀ frame' below, frame' :: .passTurn :: below <:+ frames →
      EndsTurn (turnEnd game.board) frame' :=
  fun frame' below hsuffix => h.above frame' below (hsuffix.trans (List.suffix_cons _ _))

lemma above_append {o : EntityId × String} {frames added : List (TaskFrame σ)}
    (habove : ∀ frame below, frame :: .passTurn :: below <:+ frames → EndsTurn o frame)
    (hnext : ∀ below, frames ≠ .passTurn :: below) (hadded : ∀ frame ∈ added, Plain frame) :
    ∀ frame below, frame :: .passTurn :: below <:+ added ++ frames → EndsTurn o frame := by
  intro frame below hsuffix
  induction added with
  | nil => exact habove frame below hsuffix
  | cons first added ih =>
    rcases List.suffix_cons_iff.mp hsuffix with heq | hrest
    · obtain ⟨-, htail⟩ := List.cons.inj heq
      cases added with
      | nil => exact absurd htail.symm (hnext below)
      | cons second added =>
        obtain ⟨hsecond, -⟩ := List.cons.inj htail
        have hplain := hadded second (by simp)
        rw [← hsecond] at hplain
        exact hplain.elim
    · exact ih (fun f hf => hadded f (List.mem_cons_of_mem _ hf)) hrest

lemma above_cons {o : EntityId × String} {frame : TaskFrame σ} {frames : List (TaskFrame σ)}
    (hhead : ∀ below, frames = .passTurn :: below → EndsTurn o frame)
    (htail : ∀ frame below, frame :: .passTurn :: below <:+ frames → EndsTurn o frame) :
    ∀ frame' below, frame' :: .passTurn :: below <:+ frame :: frames → EndsTurn o frame' := by
  intro frame' below hsuffix
  rcases List.suffix_cons_iff.mp hsuffix with heq | hrest
  · obtain ⟨rfl, hframes⟩ := List.cons.inj heq
    exact hhead below hframes.symm
  · exact htail frame' below hrest

lemma mem_passes_of_suffix {o : EntityId × String} {frame : TaskFrame σ}
    {frames below : List (TaskFrame σ)} (hends : EndsTurn o frame)
    (hsuffix : frame :: below <:+ frames) : o ∈ passes frames := by
  obtain ⟨args, rest, rfl⟩ := hends
  exact List.mem_filterMap.mpr ⟨.pass o.1 o.2 args rest, hsuffix.subset List.mem_cons_self, rfl⟩

lemma TurnsWait.stride {base : Board} {c c' : Config σ}
    (hnested : Nested base c.frames c.game.board) (h : TurnsWait c) (hstride : Stride c c') :
    TurnsWait c' := by
  cases hstride with
  | work task' added hbusy hadded hworks =>
    have hsame := (sameTurn_of_works hworks).turnEnd_eq
    refine ⟨?_, fun below hframes => ?_⟩
    · rw [hsame]
      exact above_append h.above (h.busy hbusy) hadded
    · cases added with
      | nil => exact absurd hframes (h.busy hbusy below)
      | cons frame added =>
        obtain ⟨rfl, -⟩ := List.cons.inj hframes
        exact (hadded _ List.mem_cons_self).elim
  | endTurn next frames game =>
    have hbelow := h.busy trivial
    refine ⟨above_cons (fun below hframes => ?_) (above_cons (fun below hframes => ?_) h.above),
      fun below _ => .inl ⟨_, rfl⟩⟩
    · cases hframes
    · exact absurd hframes (hbelow below)
  | refuse hrefusal => exact ⟨h.above, fun below _ => .inr (.inl ⟨_, rfl⟩)⟩
  | unheard hrefusal =>
    refine ⟨h.above, fun below hframes => .inr (.inr ⟨rfl, ?_⟩)⟩
    rw [h.firing hframes]
    exact (refusal?_eq_none_iff.mp hrefusal).1
  | @enter surface event args frames game hrefusal =>
    refine ⟨above_cons (fun below hframes => ?_) h.above, fun below hframes => by cases hframes⟩
    have hsame : turnEnd (entered game.board surface event) = (surface, event) := h.firing hframes
    change EndsTurn (turnEnd (entered game.board surface event)) _
    rw [hsame]
    exact ⟨args, _, rfl⟩
  | goOn task' hplain =>
    refine ⟨h.tail_above, fun below hframes => ?_⟩
    obtain ⟨args, rest, rfl⟩ := h.head hframes
    exact hplain.elim
  | keepTurn =>
    refine ⟨h.tail_above, fun below hframes => ?_⟩
    obtain ⟨args, rest, hframe⟩ := h.head hframes
    cases hframe
  | @passTurn frames game =>
    -- The pass for the end of the turn is over, so no other turn waits for it.
    have hover : turnEnd game.board ∉ game.board.dispatching := by
      rcases h.next frames rfl with ⟨args, htask⟩ | ⟨fault, htask⟩ | ⟨-, hover⟩
      · cases htask
      · cases htask
      · exact hover
    have hnone : ∀ frame below, ¬frame :: .passTurn :: below <:+ frames := by
      intro frame below hsuffix
      have hmem := mem_passes_of_suffix (h.tail_above frame below hsuffix) hsuffix
      refine hover ?_
      rw [hnested.dispatching_eq]
      exact List.mem_append_left _ hmem
    refine ⟨fun frame below hsuffix => absurd hsuffix (hnone frame below), fun below hframes => ?_⟩
    obtain ⟨args, rest, hframe⟩ := h.head hframes
    cases hframe
  | next task' =>
    refine ⟨above_cons (fun below hframes => ?_) h.tail_above,
      fun below hframes => by cases hframes⟩
    obtain ⟨args, rest, hframe⟩ := h.head hframes
    cases hframe
    exact ⟨_, _, rfl⟩
  | @leave result surface event args rest frames game hrest =>
    refine ⟨h.tail_above, fun below hframes => ?_⟩
    obtain ⟨args, rest, hframe⟩ := h.head hframes
    cases hframe
    cases result with
    | error fault => exact .inr (.inl ⟨fault, rfl⟩)
    | ok _ => exact .inr (.inr ⟨rfl, hnested.head_fresh⟩)

/-- While the end of the active player's turn is under way no step passes the turn. -/
lemma TurnsWait.sameTurn {c c' : Config σ} (h : TurnsWait c) (hstride : Stride c c')
    (hunder : turnEnd c.game.board ∈ c.game.board.dispatching) :
    SameTurn c.game.board c'.game.board := by
  cases hstride with
  | work task' added hbusy hadded hworks => exact sameTurn_of_works hworks
  | @passTurn frames game =>
    rcases h.next frames rfl with ⟨args, htask⟩ | ⟨fault, htask⟩ | ⟨-, hover⟩
    · cases htask
    · cases htask
    · exact absurd hunder hover
  | _ => exact ⟨rfl, rfl⟩

/-! ### Runs -/

lemma TurnsWait.stirs {base : Board} {c c' : Config σ}
    (hnested : Nested base c.frames c.game.board) (h : TurnsWait c) (hstirs : Stirs c c') :
    TurnsWait c' := by
  obtain ⟨game, hstep, hboard⟩ := hstirs
  obtain ⟨habove, hnext⟩ := h.stride hnested (stride_of_step hstep)
  constructor
  · rw [hboard]
    exact habove
  · rw [hboard]
    exact hnext

lemma turnsWait_of_stirred {task : Task σ} {game : Game σ} {c : Config σ}
    (h : Stirred ⟨task, [], game⟩ c) : TurnsWait c := by
  induction h with
  | refl => exact turnsWait_nil task game
  | tail hfirst hlast ih => exact ih.stirs ((nested_nil game.board).stirred hfirst) hlast

/-- One configuration comes from another by steps, before each of which an occurrence is under
way. -/
def StirredDuring (o : EntityId × String) : Config σ → Config σ → Prop :=
  Relation.ReflTransGen fun c c' => Stirs c c' ∧ o ∈ c.game.board.dispatching

lemma StirredDuring.stirred {o : EntityId × String} {c c' : Config σ} (h : StirredDuring o c c') :
    Stirred c c' :=
  Relation.ReflTransGen.mono (fun _ _ hstep => hstep.1) _ _ h

lemma sameTurn_during {task : Task σ} {game : Game σ} {c c' : Config σ}
    (h : Stirred ⟨task, [], game⟩ c) (hduring : StirredDuring (turnEnd c.game.board) c c') :
    SameTurn c.game.board c'.game.board := by
  induction hduring with
  | refl => exact ⟨rfl, rfl⟩
  | @tail d d' hfirst hlast ih =>
    obtain ⟨⟨game', hstep, hboard⟩, hunder⟩ := hlast
    have hwait : TurnsWait d := turnsWait_of_stirred (Relation.ReflTransGen.trans h
      (StirredDuring.stirred hfirst))
    rw [← ih.turnEnd_eq] at hunder
    rw [hboard]
    exact ih.trans (hwait.sameTurn (stride_of_step hstep) hunder)

lemma sameTurn_before {base : Board} {c c' : Config σ}
    (hnested : Nested base c.frames c.game.board) (h : TurnsWait (c.before [.passTurn]))
    (hstep : step c = some c') : SameTurn c.game.board c'.game.board := by
  obtain ⟨task, frames, game⟩ := c
  rcases List.eq_nil_or_concat frames with rfl | ⟨front, last, rfl⟩
  · cases stride_of_step hstep with
    | work task' added hbusy hadded hworks => exact sameTurn_of_works hworks
    | _ => exact ⟨rfl, rfl⟩
  · have hends : EndsTurn (turnEnd game.board) last :=
      h.above last [] ⟨front, by simp [Config.before]⟩
    have hmem : turnEnd game.board ∈ passes (front ++ [last]) :=
      mem_passes_of_suffix hends ⟨front, rfl⟩
    have hunder : turnEnd game.board ∈ game.board.dispatching := by
      rw [hnested.dispatching_eq]
      exact List.mem_append_left _ (by simpa using hmem)
    have hsame := h.sameTurn (stride_of_step (step_before hstep [.passTurn])) hunder
    exact hsame

lemma nested_before {base : Board} {c : Config σ} (h : Nested base c.frames c.game.board) :
    Nested base (c.before [.passTurn]).frames (c.before [.passTurn]).game.board :=
  h.congr (by simp [Config.before, passes]) rfl rfl

lemma fire_turnEnd {game game' : Game σ} {args : Payload} {result : Except Fault Unit}
    (h : attempt (Game.fire game.board.activePlayer.hero Occurrence.turnEnded args) game =
      .ok result game') : SameTurn game.board game'.board := by
  obtain ⟨result', game'', hrun, hreaches⟩ :=
    fire_ends game.board.activePlayer.hero Occurrence.turnEnded args [] game
  rw [h] at hrun
  obtain ⟨rfl, rfl⟩ := EStateM.Result.ok.inj hrun
  have hall : ∀ c,
      Reaches ⟨.fire game.board.activePlayer.hero Occurrence.turnEnded args, [], game⟩ c →
      TurnsWait (c.before [.passTurn]) ∧ SameTurn game.board c.game.board := by
    intro c hc
    induction hc with
    | refl =>
      refine ⟨⟨fun frame below hsuffix => ?_, fun below _ => .inl ⟨args, rfl⟩⟩, rfl, rfl⟩
      have hlength := hsuffix.length_le
      simp [Config.before] at hlength
    | tail hfirst hlast ih =>
      have hnested := (nested_nil game.board).stirred (Reaches.stirred hfirst)
      exact ⟨ih.1.stirs (nested_before hnested) (stirs_of_step (step_before hlast _)),
        ih.2.trans (sameTurn_before hnested ih.1 hlast)⟩
  exact (hall _ hreaches).2

lemma endTurn_refused (next : Except Fault Unit → Program σ) (frames : List (TaskFrame σ))
    {game : Game σ} (hunder : turnEnd game.board ∈ game.board.dispatching) :
    Reaches ⟨.run (.perform .endTurn next), frames, game⟩
      ⟨.run (next (.error (.reentrantDispatch game.board.activePlayer.hero Occurrence.turnEnded))),
        frames, game⟩ := by
  have hrefusal : refusal? game.board game.board.activePlayer.hero Occurrence.turnEnded =
      some (.reentrantDispatch game.board.activePlayer.hero Occurrence.turnEnded) := by
    unfold turnEnd at hunder
    simp [refusal?, hunder]
  have hfire : step ⟨.fire game.board.activePlayer.hero Occurrence.turnEnded
        { focus := some game.board.activePlayer.hero }, .passTurn :: .resume next :: frames, game⟩ =
      some ⟨.done (.error (.reentrantDispatch game.board.activePlayer.hero Occurrence.turnEnded)),
        .passTurn :: .resume next :: frames, game⟩ := by
    simp only [step, startFiring, hrefusal]
  exact .head rfl (.head hfire (.head rfl (.head rfl .refl)))

section Runs

variable {settings : Settings} {host : σ} {game : Game σ}
  (hnew : Game.new settings host = .ok game)

include hnew

/-- At every moment of a run, within whatever is under way, it is the turn of the player to whom the
number of the turn belongs. While the end of the active player's turn is under way it stays the same
turn, and to end the turn is refused. So if ending a turn fails before the turn is passed it is
still the same turn, and if it does not the turn has been passed once, to the next seat, when it is
fired that the turn of that player starts. -/
theorem turns_in_order (program : Program σ) :
    (∃ result game', attempt (Game.execute program) game = .ok result game' ∧
      Reaches ⟨.run program, [], game⟩ ⟨.done result, [], game'⟩) ∧
    ∀ c, Stirred ⟨.run program, [], game⟩ c →
      InTurn settings.playerCount c.game.board ∧
      (turnEnd c.game.board ∈ c.game.board.dispatching →
        (∀ c', StirredDuring (turnEnd c.game.board) c c' →
          SameTurn c.game.board c'.game.board) ∧
        ∀ next, c.task = .run (.perform .endTurn next) →
          Reaches c ⟨.run (next (.error
            (.reentrantDispatch c.game.board.activePlayer.hero Occurrence.turnEnded))),
            c.frames, c.game⟩) ∧
      ∀ next, c.task = .run (.perform .endTurn next) → ∃ result game₁,
        attempt (Game.fire c.game.board.activePlayer.hero Occurrence.turnEnded
          { focus := some c.game.board.activePlayer.hero }) c.game = .ok result game₁ ∧
        Reaches c ⟨.done result, .passTurn :: .resume next :: c.frames, game₁⟩ ∧
        SameTurn c.game.board game₁.board ∧
        match result with
        | .error fault => Reaches c ⟨.run (next (.error fault)), c.frames, game₁⟩
        | .ok _ => ∃ game₂,
          step ⟨.done (.ok ()), .passTurn :: .resume next :: c.frames, game₁⟩ =
            some ⟨.fire game₂.board.activePlayer.hero Occurrence.turnStarted
              { focus := some game₂.board.activePlayer.hero }, .resume next :: c.frames, game₂⟩ ∧
          game₂.board.activePlayer =
            c.game.board.activePlayer.next settings.playerCount ∧
          game₂.board.turn = c.game.board.turn + 1 := by
  refine ⟨task_ends (.run program) [] game, fun c hc => ⟨?_, ?_, ?_⟩⟩
  · obtain ⟨players, hboard, -, hcount⟩ := new_eq (board_new hnew)
    have hstart : InTurn settings.playerCount game.board := by
      rw [hboard]
      exact ⟨le_rfl, (Nat.zero_mod _).symm⟩
    exact hstart.develops (playerCount_pos_of_new (board_new hnew)) hcount (seated_new hnew)
      hc.develops
  · intro hunder
    refine ⟨fun c' hduring => sameTurn_during hc hduring, fun next htask => ?_⟩
    obtain ⟨task, frames, game'⟩ := c
    obtain rfl : task = .run (.perform .endTurn next) := htask
    exact endTurn_refused next frames hunder
  · intro next htask
    obtain ⟨task, frames, game'⟩ := c
    obtain rfl : task = .run (.perform .endTurn next) := htask
    obtain ⟨result, game₁, hrun, hreaches⟩ := endTurn_begins next frames game'
    have hsame := fire_turnEnd hrun
    refine ⟨result, game₁, hrun, hreaches, hsame, ?_⟩
    cases result with
    | error fault => exact hreaches.trans (.head rfl (.head rfl .refl))
    | ok _ =>
      have hplayers : game₁.board.playerCount = settings.playerCount :=
        ((seated_new hnew).develops
          (Trans.trans hc.develops (Reaches.stirred hreaches).develops)).playerCount_eq
      refine ⟨turnPassed game₁, rfl, ?_, congrArg (· + 1) hsame.2⟩
      change game₁.board.activePlayer.next game₁.board.playerCount = _
      rw [hsame.1, hplayers]

end Runs

/-- The configuration after a number of steps, or the last one. -/
def advance : Nat → Config σ → Config σ
  | 0, c => c
  | n + 1, c =>
    match step c with
    | some c' => advance n c'
    | none => c

lemma reaches_advance (n : Nat) (c : Config σ) : Reaches c (advance n c) := by
  induction n generalizing c with
  | zero => exact .refl
  | succ n ih =>
    unfold advance
    cases hstep : step c with
    | some c' => exact .head hstep (ih c')
    | none => exact .refl

/-- A program listens for the end of a turn by ending the turn once more. Two turns are ended. -/
def overtime : Program Unit :=
  .subscribe ⟨0⟩ Occurrence.turnEnded (fun _ => .perform .endTurn fun _ => .finish (.ok ()))
    fun _ => .perform .endTurn fun _ => .perform .endTurn fun _ => .finish (.ok ())

/-- After five steps the turn is to be ended while it ends. -/
theorem overtime_turns_in_order :
    ∃ game, Game.new Settings.standard () = .ok game ∧ ∃ c next,
      Reaches ⟨.run overtime, [], game⟩ c ∧ c.task = .run (.perform .endTurn next) ∧
      turnEnd c.game.board ∈ c.game.board.dispatching ∧
      Reaches c ⟨.run (next (.error (.reentrantDispatch ⟨0⟩ Occurrence.turnEnded))),
        c.frames, c.game⟩ ∧
      (leftBy (Game.execute overtime) game).board.turn = 3 ∧
      (leftBy (Game.execute overtime) game).board.activePlayer = ⟨0⟩ := by
  obtain ⟨game, hnew⟩ : ∃ game, Game.new Settings.standard () = .ok game := ⟨_, rfl⟩
  obtain ⟨-, hall⟩ := turns_in_order hnew overtime
  have hreaches := reaches_advance 5 (⟨.run overtime, [], game⟩ : Config Unit)
  obtain ⟨-, hduring, -⟩ := hall _ hreaches.stirred
  have hunder : turnEnd (advance 5 ⟨.run overtime, [], game⟩).game.board ∈
      (advance 5 ⟨.run overtime, [], game⟩).game.board.dispatching := by
    cases hnew
    decide +kernel
  have htask : (advance 5 ⟨.run overtime, [], game⟩).task =
      .run (.perform .endTurn fun _ => .finish (.ok ())) := by
    cases hnew
    rfl
  refine ⟨game, hnew, _, _, hreaches, htask, hunder, (hduring hunder).2 _ htask, ?_, ?_⟩
  · cases hnew
    decide +kernel
  · cases hnew
    decide +kernel

end CardEffects.Proofs
