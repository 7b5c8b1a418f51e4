import CardEffects.Proofs.RuledBoards
import CardEffects.Proofs.WatchedPasses

/-!
# Calm firing

What is fired on a board under rules leaves it calm or meets a limit. Effects set off by damage deal
damage in turn and auras end in the midst of it, but nobody comes or goes meanwhile and no
subscription is made, so each call finds the one it was listed for.
-/

namespace CardEffects.Proofs

/-! ### Operations that meet limits at most -/

/-- Whether an operation on a game leaves a board of a kind, or else meets a limit. -/
structure Upholds {σ α : Type} (x : GameM σ α) (P : Board → Prop) (game : Game σ) : Prop where
  ok : ∀ {a game'}, x game = .ok a game' → P game'.board
  error : ∀ {fault game'}, x game = .error fault game' → IsLimit fault

section Upholding

variable {σ α β : Type} {P Q : Board → Prop} {game : Game σ}

lemma upholds_pure (a : α) (h : P game.board) : Upholds (pure a : GameM σ α) P game where
  ok hrun := by
    cases hrun
    exact h
  error hrun := by cases hrun

lemma upholds_fault {x : GameM σ α} {fault : Fault} {game' : Game σ}
    (hrun : x game = .error fault game') (h : IsLimit fault) : Upholds x P game := by
  refine ⟨fun hx => ?_, fun hx => ?_⟩ <;> rw [hrun] at hx <;> cases hx
  exact h

lemma Upholds.congr {x y : GameM σ α} {game' : Game σ} (h : Upholds y P game')
    (hrun : x game = y game') : Upholds x P game :=
  ⟨fun hx => h.ok (hrun ▸ hx), fun hx => h.error (hrun ▸ hx)⟩

lemma Upholds.bind {x : GameM σ α} {f : α → GameM σ β} (hx : Upholds x P game)
    (hf : ∀ a game', x game = .ok a game' → P game'.board → Upholds (f a) Q game') :
    Upholds (x >>= f) Q game := by
  cases hrun : x game with
  | ok a game' => exact (hf a game' hrun (hx.ok hrun)).congr (by rw [bind_run, hrun])
  | error fault game' => exact upholds_fault (by rw [bind_run, hrun]) (hx.error hrun)

lemma Upholds.mono {x : GameM σ α} (h : Upholds x P game) (hPQ : ∀ b, P b → Q b) :
    Upholds x Q game :=
  ⟨fun hrun => hPQ _ (h.ok hrun), h.error⟩

lemma upholds_onBoard {operation : BoardM α}
    (hok : ∀ a b, operation game.board = .ok a b → P b)
    (herror : ∀ fault b, operation game.board = .error fault b → IsLimit fault) :
    Upholds (onBoard operation) P game := by
  cases hrun : operation game.board with
  | ok a b =>
    have hend : Upholds (pure a) P { game with board := b } := upholds_pure a (hok a b hrun)
    exact hend.congr (by simp [onBoard, hrun])
  | error fault b =>
    have hend : onBoard operation game = .error fault { game with board := b } := by
      simp [onBoard, hrun]
    exact upholds_fault hend (herror fault b hrun)

lemma Upholds.ending {x : GameM σ α} (hx : Upholds x P game) {last : BoardM Unit}
    {after : Board → Board} (hlast : ∀ b, last b = .ok () (after b))
    (hafter : ∀ b, P b → Q (after b)) :
    Upholds (attempt x >>= fun result => onBoard last >>= fun _ => settle result) Q game := by
  cases hrun : x game with
  | ok a game' =>
    have hend : Upholds (pure a) Q { game' with board := after game'.board } :=
      upholds_pure a (hafter _ (hx.ok hrun))
    exact hend.congr (by simp [attempt_run_ok hrun, onBoard, hlast])
  | error fault game' =>
    have hend : (attempt x >>= fun result => onBoard last >>= fun _ => settle result) game =
        .error fault { game' with board := after game'.board } := by
      simp [attempt_run_error hrun, onBoard, hlast]
    exact upholds_fault hend (hx.error hrun)

end Upholding

/-! ### Single changes -/

section Changes

variable {σ : Type} {game : Game σ} (h : Ruled game.board)

include h

lemma upholds_of_bare {α : Type} {operation : BoardM α} (hbare : Within (Same bare) operation)
    (herror : ∀ fault b, operation game.board = .error fault b → IsLimit fault) :
    Upholds (onBoard operation) (Calm game.board) game := by
  refine upholds_onBoard (fun a b hrun => h.calm_of_bare ?_) herror
  have hsame := hbare game.board
  rwa [leftBy_of_ok hrun] at hsame

lemma upholds_lowerStat {target : EntityId} (hin : game.board.contains target = true)
    (key : String) (amount : Amount) :
    Upholds (onBoard (Board.lowerStat target key amount)) (Calm game.board) game := by
  refine upholds_of_bare h (bare_updateStat _ _ _) fun fault b hrun => ?_
  rw [← character?_isSome] at hin
  obtain ⟨c, hc⟩ := Option.isSome_iff_exists.mp hin
  rw [Board.lowerStat, updateStat_run, hc] at hrun
  cases hvalue : (c.stat key).sub? amount with
  | some value => simp [hvalue] at hrun
  | none =>
    simp only [hvalue, EStateM.Result.error.injEq] at hrun
    exact hrun.1 ▸ trivial

lemma upholds_make {target : EntityId} (hin : game.board.contains target = true)
    (change : StatChange) :
    Upholds (onBoard (change.make target)) (Calm game.board) game :=
  upholds_of_bare h (make_shifts change target).bare fun _ _ hrun =>
    ((make_shifts change target).error hrun).2.2.isLimit hin

lemma upholds_heal {target : EntityId} (hin : game.board.contains target = true)
    (amount : Amount) :
    Upholds (onBoard (Board.heal target amount)) (Calm game.board) game := by
  refine upholds_of_bare h (within_get.bind fun _ => bare_setStat _ _ _) fun fault b hrun => ?_
  rw [← character?_isSome] at hin
  obtain ⟨c, hc⟩ := Option.isSome_iff_exists.mp hin
  simp [Board.heal, Board.setStat, Board.character, hc] at hrun

lemma upholds_endAura {surface : EntityId} {event : String} {id : ListenerId} {listener : Listener}
    (hmem : (id, listener) ∈ listenersAt game.board surface event) {aura : AuraId}
    (hhandler : listener.handler = .endAura aura) :
    Upholds (onBoard (Game.endAura id aura)) (Calm game.board) game := by
  have hspend := h.calm_spend (id :: game.board.spent)
  refine upholds_onBoard (fun _ b hrun => ?_) fun fault b hrun => ?_
  · rw [endAura_run] at hrun
    split at hrun
    · cases hrun
      exact h.calm_self
    · exact hspend.trans (hspend.ruled.calm_removeAura hrun)
  · rw [endAura_run] at hrun
    split at hrun
    · cases hrun
    · exact hspend.ruled.removeAura_ending hmem hhandler hrun

end Changes

/-! ### Firing -/

/-- Whether what is fired on a surface in play, on a board under rules, leaves it calm or meets a
limit. -/
def KeepsCalm {σ : Type} (fire : Firing σ) : Prop :=
  ∀ surface event args game, Ruled game.board → game.board.contains surface = true →
    Upholds (fire surface event args) (Calm game.board) game

section Firing

variable {σ : Type} {fire : Firing σ} (hfire : KeepsCalm fire) {game : Game σ}
  (h : Ruled game.board)

include hfire h

lemma upholds_dealDamage {target : EntityId} (hin : game.board.contains target = true)
    (source : Option EntityId) (amount : Amount) :
    Upholds (Game.dealDamage fire source target amount) (Calm game.board) game := by
  refine (upholds_lowerStat h hin _ _).bind fun _ game₁ _ hcalm₁ => ?_
  have hin₁ : game₁.board.contains target = true := (hcalm₁.contains_eq target).trans hin
  have hdamaged := hfire target Occurrence.damaged
    { focus := some target, other := source, amount := some amount } game₁ hcalm₁.ruled hin₁
  refine hdamaged.bind fun _ game₂ _ hcalm₂ => ?_
  -- Whatever the damage has set off, the controller is looked up on the board that it has left.
  have hcalm := hcalm₁.trans hcalm₂
  cases hcontroller : game₂.board.controller? target with
  | none => exact (upholds_pure () hcalm).congr (by simp [hcontroller])
  | some player =>
    have htold := hfire player.hero Occurrence.characterDamaged
      { focus := some target, other := source, amount := some amount } game₂ hcalm₂.ruled
      (hcalm₂.ruled.seated.hero_inPlay hcontroller)
    exact (htold.mono fun b => hcalm.trans).congr (by simp [hcontroller])

lemma upholds_act {target : EntityId} (hin : game.board.contains target = true)
    (action : Action) : Upholds (Game.act fire action target) (Calm game.board) game := by
  cases action with
  | change change => exact upholds_make h hin change
  | damage amount => exact upholds_dealDamage hfire h hin none amount
  | heal amount => exact upholds_heal h hin amount

section Calls

variable {surface : EntityId} {event : String} {id : ListenerId} {listener : Listener}
  (hmem : (id, listener) ∈ listenersAt game.board surface event)

include hmem

lemma upholds_handle (args : Payload) :
    Upholds (Game.handle fire id args listener.handler) (Calm game.board) game := by
  obtain ⟨keeper, k, hk, hlistener, -⟩ := h.keptAt_iff.mp hmem
  have hrule : RuleHandler listener.handler := hlistener ▸ h.handler hk
  cases hhandler : listener.handler with
  | trigger owner action targeting =>
    rw [hhandler] at hrule
    cases hresolve : targeting.resolve game.board owner args.focus args.other with
    | none => exact (upholds_pure () h.calm_self).congr (by simp [Game.handle, hresolve])
    | some target =>
      have hin := h.seated.target_inPlay hrule hresolve
      exact (upholds_act hfire h hin action).congr (by simp [Game.handle, hresolve])
  | endAura aura => exact upholds_endAura h hmem hhandler
  | script =>
    rw [hhandler] at hrule
    exact hrule.elim

lemma upholds_call (args : Payload) :
    Upholds (Game.call fire id listener args) (Calm game.board) game := by
  have hhandle := upholds_handle hfire h hmem args
  cases hgate : listener.gate with
  | none => exact hhandle.congr (by simp [Game.call, hgate])
  | some gate =>
    cases hholds : gate.1.holds game.board gate.2 args with
    | true => exact hhandle.congr (by simp [Game.call, hgate, hholds])
    | false =>
      exact (upholds_pure () h.calm_self).congr (by simp [Game.call, hgate, hholds])

end Calls

lemma upholds_callEach {start : Board} (hstart : ListenersFit start) {surface : EntityId}
    {event : String} (args : Payload) {list : List (ListenerId × Listener)}
    (hlist : ∀ entry ∈ list, entry ∈ listenersAt start surface event)
    (hfewer : Fewer start game.board) :
    Upholds (Game.callEach fire surface event args list) (Calm game.board) game := by
  induction list generalizing game with
  | nil => exact upholds_pure () h.calm_self
  | cons entry rest ih =>
    have hrest : ∀ entry ∈ rest, entry ∈ listenersAt start surface event :=
      fun entry hentry => hlist entry (List.mem_cons_of_mem _ hentry)
    cases hbound : game.board.isBound surface event entry.1 with
    | false => exact (ih h hrest hfewer).congr (by simp [callEach_cons_run, hbound])
    | true =>
      obtain ⟨listener, hmem⟩ := (isBound_iff _ _ _ _).mp hbound
      -- What is in force under the number now was so at the start, where the number stands once.
      have hsame : (entry.1, listener) = entry :=
        List.inj_on_of_nodup_map (hstart.nodup surface event)
          ((hfewer.sublist _ _).mem hmem) (hlist entry List.mem_cons_self) rfl
      rw [hsame] at hmem
      refine Upholds.congr ((upholds_call hfire h hmem args).bind fun _ game' _ hcalm => ?_)
        (by rw [callEach_cons_run, if_pos hbound])
      exact (ih hcalm.ruled hrest (hfewer.trans hcalm.fewer)).mono fun b => hcalm.trans

/-- While an occurrence is under way everything else stays calm, and so it does when the occurrence
is over. -/
lemma upholds_pass {surface : EntityId} (hin : game.board.contains surface = true) (event : String)
    (args : Payload) : Upholds (Game.pass fire surface event args) (Calm game.board) game := by
  rw [← character?_isSome] at hin
  obtain ⟨c, hc⟩ := Option.isSome_iff_exists.mp hin
  by_cases hnil : c.listeners.listFor event = []
  · exact (upholds_pure () h.calm_self).congr (by simp [pass_run, hc, hnil])
  have henter : Calm game.board (entered game.board surface event) := h.calm_dispatching _
  have hcalls : Upholds (Game.callEach fire surface event args (c.listeners.listFor event))
      (Calm (entered game.board surface event))
      { game with board := entered game.board surface event } := by
    have hruled : Ruled { game with board := entered game.board surface event }.board :=
      henter.ruled
    refine upholds_callEach hfire hruled h.toListenersFit args (fun entry hentry => ?_)
      henter.fewer
    simpa [listenersAt, hc] using hentry
  have hleave : ∀ b, Game.leave b = .ok () { b with dispatching := b.dispatching.tail } :=
    fun _ => rfl
  refine (hcalls.ending hleave fun b hcalm => ?_).congr (by simp only [pass_run, hc, if_neg hnil])
  exact henter.trans (hcalm.trans (hcalm.ruled.calm_dispatching _))

end Firing

lemma upholds_guarded {σ : Type} {game : Game σ} {P : Board → Prop} {surface : EntityId}
    {event : String} {x : GameM σ Unit} (h : Upholds x P game) :
    Upholds (onBoard (Game.refuseReentry surface event) >>= fun _ => x) P game := by
  by_cases hunder : (surface, event) ∈ game.board.dispatching
  · have hrefused : (onBoard (Game.refuseReentry surface event) >>= fun _ => x) game =
        .error (.reentrantDispatch surface event) game := by
      rw [refuseReentry_run, if_pos hunder]
    exact upholds_fault hrefused trivial
  · exact h.congr (by rw [refuseReentry_run, if_neg hunder])

/-- However many occurrences may come under way, each leaves the board calm or meets a limit. The
induction is on how many. -/
lemma keepsCalm_fireWithin {σ : Type} (budget : Nat) :
    KeepsCalm (Game.fireWithin budget : Firing σ) := by
  induction budget with
  | zero =>
    exact fun surface event args game h hin => upholds_guarded (upholds_fault rfl trivial)
  | succ budget ih =>
    exact fun surface event args game h hin => upholds_guarded (upholds_pass ih h hin event args)

lemma keepsCalm_fire {σ : Type} : KeepsCalm (Game.fire : Firing σ) :=
  fun surface event args game h hin =>
    (keepsCalm_fireWithin game.budget surface event args game h hin).congr rfl

end CardEffects.Proofs
