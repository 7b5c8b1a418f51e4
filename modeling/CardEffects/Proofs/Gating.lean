import CardEffects.Proofs.PendingCalls
import CardEffects.Proofs.Standing
import CardEffects.Proofs.UnspentEndings

/-!
# Gating

A program that is subscribed to an event runs once for each occurrence that is fired where the event
was resolved to and that the condition of the event accepts when the turn of the subscription comes,
and for no other. A ledger of a run shows this: what is fired is what the subscription was reached
for, and what it is still to be reached for.
-/

namespace CardEffects.Proofs

variable {σ : Type}

/-! ### Ledgers -/

/-- A step, after which the programs' own state and all programs but the one that is kept for a
subscription may have been exchanged for any others. -/
def Follows (id : ListenerId) (c c' : Config σ) : Prop :=
  ∃ game, step c = some ⟨c'.task, c'.frames, game⟩ ∧ c'.game.board = game.board ∧
    Table.get? c'.game.scripts id = Table.get? game.scripts id

lemma Follows.stirs {id : ListenerId} {c c' : Config σ} (h : Follows id c c') : Stirs c c' := by
  obtain ⟨game, hstep, hboard, -⟩ := h
  exact ⟨game, hstep, hboard⟩

/-- A run with its steps, the oldest first. -/
inductive Trace (id : ListenerId) (start : Config σ) :
    List (Config σ × Config σ) → Config σ → Prop where
  | refl : Trace id start [] start
  | snoc {steps : List (Config σ × Config σ)} {c c' : Config σ} (hsteps : Trace id start steps c)
    (hlast : Follows id c c') : Trace id start (steps ++ [(c, c')]) c'

/-- What a step reports when it lets an occurrence through. -/
def firedAt (surface : EntityId) (event : String) (s : Config σ × Config σ) : Option Payload :=
  match s.1.task with
  | .fire surface' event' args =>
    if surface' = surface ∧ event' = event ∧ (refusal? s.1.game.board surface event).isNone then
      some args
    else none
  | _ => none

/-- The board and the report when a step reaches a subscription. -/
def reachedBy (id : ListenerId) (s : Config σ × Config σ) : Option (Board × Payload) :=
  match s.1.task with
  | .call id' _ args => if id' = id then some (s.1.game.board, args) else none
  | _ => none

/-- The report when a step starts a program for a subscription. -/
def startedBy (id : ListenerId) (s : Config σ × Config σ) : Option Payload :=
  match s.1.task, s.2.task with
  | .call id' _ args, .run _ => if id' = id then some args else none
  | _, _ => none

/-- The report of a pass that is still to reach a subscription. -/
def listing? (id : ListenerId) : TaskFrame σ → Option Payload
  | .pass _ _ args rest => if id ∈ rest.map (·.1) then some args else none
  | _ => none

/-- The report that a subscription is being called with. -/
def calling? (id : ListenerId) : Task σ → Option Payload
  | .call id' _ args => if id' = id then some args else none
  | _ => none

/-- The reports that a subscription is still to be reached for. -/
def due (id : ListenerId) (c : Config σ) : List Payload :=
  (calling? id c.task).toList ++ c.frames.filterMap (listing? id)

/-- Whether a fault is about to end a pass. -/
def CutShort (surface : EntityId) (event : String) (c : Config σ) : Prop :=
  ∃ fault args rest frames,
    c.task = .done (.error fault) ∧ c.frames = .pass surface event args rest :: frames

lemma filterMap_plain {added : List (TaskFrame σ)} (h : ∀ frame ∈ added, Plain frame)
    (id : ListenerId) : added.filterMap (listing? id) = [] := by
  refine List.filterMap_eq_nil_iff.mpr fun frame hframe => ?_
  cases frame with
  | pass surface event args rest => exact (h _ hframe).elim
  | _ => rfl

lemma filterMap_singleton {α β : Type} (f : α → Option β) (a : α) :
    [a].filterMap f = (f a).toList := by
  cases h : f a <;> simp [h]

lemma filterMap_listing {id : ListenerId} {rest : List (ListenerId × Listener)}
    (h : id ∈ rest.map (·.1)) (surface : EntityId) (event : String) (args : Payload)
    (frames : List (TaskFrame σ)) :
    (TaskFrame.pass surface event args rest :: frames).filterMap (listing? id) =
      args :: frames.filterMap (listing? id) :=
  List.filterMap_cons_some (if_pos h)

lemma filterMap_not_listing {id : ListenerId} {rest : List (ListenerId × Listener)}
    (h : id ∉ rest.map (·.1)) (surface : EntityId) (event : String) (args : Payload)
    (frames : List (TaskFrame σ)) :
    (TaskFrame.pass surface event args rest :: frames).filterMap (listing? id) =
      frames.filterMap (listing? id) :=
  List.filterMap_cons_none (if_neg h)

lemma mem_passes {frames : List (TaskFrame σ)} {surface : EntityId} {event : String}
    {args : Payload} {rest : List (ListenerId × Listener)}
    (h : .pass surface event args rest ∈ frames) : (surface, event) ∈ passes frames :=
  List.mem_filterMap.mpr ⟨_, h, rfl⟩

/-! ### Posts -/

/-- What is subscribed for an event on behalf of a target when a program is. -/
def gated (event : Event) (target : EntityId) : Listener where
  gate := event.condition.map fun condition => (condition, target)
  handler := .script

/-- A game in which a program is subscribed to an event by hand. -/
structure Posted (base : Board) (event : Event) (target surface : EntityId) (id : ListenerId)
    (body : Payload → Program σ) (c : Config σ) : Prop where
  standing : Standing c.game.board target surface event.name id (gated event target)
  script : Table.get? c.game.scripts id = some body
  calls : CallsFit c
  nested : Nested base c.frames c.game.board
  placed : ∀ {surface' event' args rest}, .pass surface' event' args rest ∈ c.frames →
    id ∈ rest.map (·.1) → surface' = surface ∧ event' = event.name

section Posted

variable {base : Board} {event : Event} {target surface : EntityId} {id : ListenerId}
  {body : Payload → Program σ} {c c' : Config σ}

lemma Posted.mem_iff (h : Posted base event target surface id body c) {surface' : EntityId}
    {event' : String} :
    id ∈ (listenersAt c.game.board surface' event').map (·.1) ↔
      surface' = surface ∧ event' = event.name := by
  constructor
  · intro hmem
    obtain ⟨⟨_, listener⟩, hlistener, rfl⟩ := List.mem_map.mp hmem
    exact h.standing.place_eq hlistener h.standing.mem
  · rintro ⟨rfl, rfl⟩
    exact List.mem_map_of_mem h.standing.mem

lemma Posted.called (h : Posted base event target surface id body c) {listener : Listener}
    {args : Payload} (htask : c.task = .call id listener args) :
    listener = gated event target ∧
      ∃ rest frames, c.frames = .pass surface event.name args rest :: frames := by
  obtain ⟨surface', event', rest, frames, hframes, hmem⟩ := h.calls.called htask
  obtain ⟨rfl, rfl⟩ := h.standing.place_eq hmem h.standing.mem
  have hsame := List.inj_on_of_nodup_map (h.standing.nodup _ _) hmem h.standing.mem rfl
  exact ⟨congrArg Prod.snd hsame, rest, frames, hframes⟩

lemma Posted.follows (h : Posted base event target surface id body c)
    (htask : c.task.OfKind (Act.Spares target surface id)) (hfollows : Follows id c c') :
    Posted base event target surface id body c' := by
  have hstirs := hfollows.stirs
  obtain ⟨game, hstep, hboard, hscript⟩ := hfollows
  refine ⟨?_, ?_, h.calls.stirs hstirs, h.nested.stirs hstirs, fun hmem hid => ?_⟩
  · rw [hboard]
    have hvia := via_of_step (common_spares target surface id) hstep htask
    exact hvia.preserves
      (P := fun b => Standing b target surface event.name id (gated event target))
      (fun _ hspares _ hb => hb.act hspares) h.standing
  · rw [hscript]
    rcases scripts_of_step hstep with hsame | ⟨other, hinsert⟩
    · rw [show game.scripts = c.game.scripts from hsame]
      exact h.script
    · have hne := ne_next_of_lt h.standing.lt_nextListener
      rw [show game.scripts = _ from hinsert, Table.get?_insert_of_ne _ _ hne.symm]
      exact h.script
  · rcases (stride_of_step hstep).rest_cases hmem with hold | ⟨entry, hold⟩ | ⟨-, rfl⟩
    · exact h.placed hold hid
    · exact h.placed hold (List.mem_cons_of_mem _ hid)
    · exact h.mem_iff.mp hid

lemma Posted.nothing_listed (h : Posted base event target surface id body c)
    (hfresh : (surface, event.name) ∉ c.game.board.dispatching) :
    c.frames.filterMap (listing? id) = [] := by
  refine List.filterMap_eq_nil_iff.mpr fun frame hframe => ?_
  cases frame with
  | pass surface' event' args rest =>
    refine if_neg fun hid => hfresh ?_
    obtain ⟨rfl, rfl⟩ := h.placed hframe hid
    rw [h.nested.dispatching_eq]
    exact List.mem_append_left _ (mem_passes hframe)
  | _ => rfl

lemma Posted.nothing_due (h : Posted base event target surface id body c)
    (hfresh : (surface, event.name) ∉ c.game.board.dispatching) : due id c = [] := by
  have hcalling : calling? id c.task = none := by
    cases htask : c.task with
    | call id' listener args =>
      refine if_neg fun hid => hfresh ?_
      subst hid
      obtain ⟨-, rest, frames, hframes⟩ := h.called htask
      rw [h.nested.dispatching_eq, hframes]
      exact List.mem_append_left _ (mem_passes List.mem_cons_self)
    | _ => rfl
  unfold due
  rw [hcalling, h.nothing_listed hfresh]
  rfl

/-! ### Every step balances the ledger -/

lemma reachedBy_map (id : ListenerId) (s : Config σ × Config σ) :
    (reachedBy id s).map (·.2) = calling? id s.1.task := by
  unfold reachedBy calling?
  cases s.1.task with
  | call id' listener args => by_cases hid : id' = id <;> simp [hid]
  | _ => rfl

lemma busy_step (hstep : step c = some c') (hbusy : Busy c.task) (id : ListenerId) :
    calling? id c'.task = none ∧
      c'.frames.filterMap (listing? id) = c.frames.filterMap (listing? id) := by
  constructor
  · cases htask : c'.task with
    | call id' listener args =>
      obtain ⟨_, _, _, _, _, rfl, -, -⟩ := call_of_step hstep htask
      exact hbusy.elim
    | _ => rfl
  · cases stride_of_step hstep with
    | work task' added _ hadded hworks =>
      simp only [List.filterMap_append, filterMap_plain hadded, List.nil_append]
    | endTurn next frames game => rfl
    | refuse hrefusal => exact hbusy.elim
    | unheard hrefusal => exact hbusy.elim
    | enter hrefusal => exact hbusy.elim
    | goOn task' hplain => exact hbusy.elim
    | keepTurn => exact hbusy.elim
    | passTurn => exact hbusy.elim
    | next task' => exact hbusy.elim
    | leave hrest => exact hbusy.elim

lemma Posted.ledger_fire {frames : List (TaskFrame σ)} {game : Game σ} {surface' : EntityId}
    {event' : String} {args : Payload}
    (h : Posted base event target surface id body ⟨.fire surface' event' args, frames, game⟩)
    (hstep : step ⟨.fire surface' event' args, frames, game⟩ = some c') :
    frames.filterMap (listing? id) ++
        (firedAt surface event.name (⟨.fire surface' event' args, frames, game⟩, c')).toList =
      due id c' := by
  cases hstep
  simp only [firedAt, startFiring]
  by_cases hplace : surface' = surface ∧ event' = event.name
  · obtain ⟨rfl, rfl⟩ := hplace
    cases hrefusal : refusal? game.board surface' event.name with
    | some fault => simp [due, calling?]
    | none =>
      have hnone : frames.filterMap (listing? id) = [] :=
        h.nothing_listed (refusal?_eq_none_iff.mp hrefusal).1
      have hlisted := h.mem_iff.mpr ⟨rfl, rfl⟩
      cases hlist : listenersAt game.board surface' event.name with
      | nil => simp [hlist] at hlisted
      | cons entry rest =>
        rw [hlist] at hlisted
        simp [due, calling?, filterMap_listing hlisted, hnone]
  · have hunlisted : id ∉ (listenersAt game.board surface' event').map (·.1) :=
      fun hmem => hplace (h.mem_iff.mp hmem)
    have hnot : ¬(surface' = surface ∧ event' = event.name ∧
        (refusal? game.board surface event.name).isNone) := fun hall =>
      hplace ⟨hall.1, hall.2.1⟩
    rw [if_neg hnot, Option.toList_none, List.append_nil]
    cases refusal? game.board surface' event' with
    | some fault => rfl
    | none =>
      cases hlist : listenersAt game.board surface' event' with
      | nil => rfl
      | cons entry rest =>
        rw [hlist] at hunlisted
        simp [due, calling?, filterMap_not_listing hunlisted]

lemma Posted.ledger_next {frames : List (TaskFrame σ)} {game : Game σ} {surface' : EntityId}
    {event' : String} {args : Payload} {list : List (ListenerId × Listener)}
    (h : Posted base event target surface id body
      ⟨.done (.ok ()), .pass surface' event' args list :: frames, game⟩) :
    (TaskFrame.pass surface' event' args list :: frames).filterMap (listing? id) =
      due id (callNext game frames surface' event' args list) := by
  cases list with
  | nil => rfl
  | cons entry rest =>
    obtain ⟨id', listener⟩ := entry
    by_cases hid : id' = id
    · subst hid
      obtain ⟨rfl, rfl⟩ := h.placed List.mem_cons_self List.mem_cons_self
      have hbound : game.board.isBound surface' event.name id' = true :=
        (isBound_iff _ _ _ _).mpr ⟨_, h.standing.mem⟩
      have hordered := (h.calls.listed List.mem_cons_self).ordered
      have honce : id' ∉ rest.map (·.1) := by
        intro hmem
        obtain ⟨other, hother, hsame⟩ := List.mem_map.mp hmem
        have hlt := (List.pairwise_cons.mp hordered).1 other hother
        rw [hsame] at hlt
        exact lt_irrefl _ hlt
      rw [callNext, if_pos hbound, filterMap_listing List.mem_cons_self]
      simp [due, calling?, filterMap_not_listing honce]
    · have hsame :
          (TaskFrame.pass surface' event' args ((id', listener) :: rest) :: frames).filterMap
              (listing? id) =
            (.pass surface' event' args rest :: frames).filterMap (listing? id) := by
        by_cases hlater : id ∈ rest.map (·.1)
        · rw [filterMap_listing hlater, filterMap_listing (List.mem_cons_of_mem _ hlater)]
        · have hnever : id ∉ ((id', listener) :: rest).map (·.1) := by
            rw [List.map_cons, List.mem_cons, not_or]
            exact ⟨Ne.symm hid, hlater⟩
          rw [filterMap_not_listing hlater, filterMap_not_listing hnever]
      rw [callNext, hsame]
      split
      · simp [due, calling?, hid]
      · simp [due, calling?]

lemma Posted.ledger_done {frames : List (TaskFrame σ)} {game : Game σ} {frame : TaskFrame σ}
    {result : Except Fault Unit}
    (h : Posted base event target surface id body ⟨.done result, frame :: frames, game⟩)
    (hwhole : ¬CutShort surface event.name ⟨.done result, frame :: frames, game⟩) :
    (frame :: frames).filterMap (listing? id) = due id (takeUp game frames frame result) := by
  cases frame with
  | resume next => rfl
  | tell target args =>
    cases result with
    | error fault => rfl
    | ok _ =>
      simp only [takeUp]
      cases game.board.controller? target <;> rfl
  | passTurn => cases result <;> rfl
  | pass surface' event' args list =>
    cases result with
    | ok _ => exact h.ledger_next
    | error fault =>
      have hunlisted : id ∉ list.map (·.1) := by
        intro hid
        obtain ⟨rfl, rfl⟩ := h.placed List.mem_cons_self hid
        exact hwhole ⟨fault, args, list, frames, rfl, rfl⟩
      rw [filterMap_not_listing hunlisted]
      rfl

lemma Posted.ledger (h : Posted base event target surface id body c)
    (hwhole : ¬CutShort surface event.name c) (hstep : step c = some c') :
    c.frames.filterMap (listing? id) ++ (firedAt surface event.name (c, c')).toList =
      due id c' := by
  have hbusy : Busy c.task → firedAt surface event.name (c, c') = none →
      c.frames.filterMap (listing? id) ++ (firedAt surface event.name (c, c')).toList =
        due id c' := by
    intro hbusy hfired
    obtain ⟨hcalling, hframes⟩ := busy_step hstep hbusy id
    unfold due
    rw [hfired, hcalling, hframes, Option.toList_none, List.append_nil]
    rfl
  obtain ⟨task, frames, game⟩ := c
  cases task with
  | fire surface' event' args => exact h.ledger_fire hstep
  | done result =>
    cases frames with
    | nil => cases hstep
    | cons frame frames =>
      cases hstep
      exact (List.append_nil _).trans (h.ledger_done hwhole)
  | _ => exact hbusy trivial rfl

/-! ### What runs -/

/-- Whether the condition of an event accepts a report for a target on a board. -/
def admits (event : Event) (target : EntityId) (reach : Board × Payload) : Bool :=
  event.condition.all fun condition => condition.holds reach.1 target reach.2

lemma Posted.call_step (h : Posted base event target surface id body c) {listener : Listener}
    {args : Payload} (htask : c.task = .call id listener args) (hstep : step c = some c') :
    c'.task = if admits event target (c.game.board, args) then .run (body args)
      else .done (.ok ()) := by
  obtain ⟨rfl, -⟩ := h.called htask
  have hscript := h.script
  obtain ⟨task, frames, game⟩ := c
  cases htask
  cases hstep
  have hgate : (gated event target).gate.all (fun gate => gate.1.holds game.board gate.2 args) =
      admits event target (game.board, args) := by
    unfold gated admits
    cases event.condition <;> rfl
  change (startCall game frames id (gated event target) args).task = _
  unfold startCall
  rw [hgate]
  split
  · simp only [gated, startHandling]
    rw [hscript]
  · rfl

lemma Posted.started (h : Posted base event target surface id body c) (hstep : step c = some c') :
    startedBy id (c, c') =
        ((reachedBy id (c, c')).filter (admits event target)).map (·.2) ∧
      ∀ args, startedBy id (c, c') = some args → c'.task = .run (body args) := by
  cases htask : c.task with
  | call id' listener args =>
    by_cases hid : id' = id
    · subst hid
      have hnext := h.call_step htask hstep
      simp only [startedBy, reachedBy, htask, if_true]
      cases hadmits : admits event target (c.game.board, args) with
      | false =>
        rw [hadmits] at hnext
        simp [hnext, hadmits]
      | true =>
        rw [hadmits] at hnext
        simp [hnext, hadmits]
    · simp only [startedBy, reachedBy, htask, if_neg hid]
      cases c'.task <;> simp [hid]
  | _ => simp [startedBy, reachedBy, htask]

/-- The ledger of a subscription. What is fired is what the subscription is reached for and is still
to be reached for, and what is accepted then is what the program is started with. -/
structure Tallied (event : Event) (target surface : EntityId) (id : ListenerId)
    (body : Payload → Program σ) (steps : List (Config σ × Config σ)) (c : Config σ) : Prop where
  fired_eq : steps.filterMap (firedAt surface event.name) =
    (steps.filterMap (reachedBy id)).map (·.2) ++ due id c
  started_eq : steps.filterMap (startedBy id) =
    ((steps.filterMap (reachedBy id)).filter (admits event target)).map (·.2)
  runs_body : ∀ s ∈ steps, ∀ args, startedBy id s = some args → s.2.task = .run (body args)

lemma Tallied.snoc {steps : List (Config σ × Config σ)}
    (h : Tallied event target surface id body steps c)
    (hposted : Posted base event target surface id body c)
    (hwhole : ¬CutShort surface event.name c) (hlast : Follows id c c') :
    Tallied event target surface id body (steps ++ [(c, c')]) c' := by
  obtain ⟨game, hstep, -⟩ := hlast
  -- None of this looks at the programs that may have been exchanged after the step.
  have hledger := hposted.ledger hwhole hstep
  change c.frames.filterMap (listing? id) ++
    (firedAt surface event.name (c, c')).toList = due id c' at hledger
  have hstart := hposted.started hstep
  change startedBy id (c, c') =
      ((reachedBy id (c, c')).filter (admits event target)).map (·.2) ∧
    ∀ args, startedBy id (c, c') = some args → c'.task = .run (body args) at hstart
  obtain ⟨hstarted, hbody⟩ := hstart
  constructor
  · have hreached : (reachedBy id (c, c')).toList.map (·.2) = (calling? id c.task).toList := by
      rw [← reachedBy_map id (c, c'), Option.toList_map]
    calc (steps ++ [(c, c')]).filterMap (firedAt surface event.name)
      _ = (steps.filterMap (reachedBy id)).map (·.2) ++ due id c ++
          (firedAt surface event.name (c, c')).toList := by
        rw [List.filterMap_append, h.fired_eq, filterMap_singleton]
      _ = (steps.filterMap (reachedBy id)).map (·.2) ++
          ((calling? id c.task).toList ++ due id c') := by
        rw [← hledger, due, List.append_assoc, List.append_assoc]
      _ = ((steps ++ [(c, c')]).filterMap (reachedBy id)).map (·.2) ++ due id c' := by
        rw [List.filterMap_append, filterMap_singleton, List.map_append, hreached,
          List.append_assoc]
  · have hlast : (startedBy id (c, c')).toList =
        ((reachedBy id (c, c')).toList.filter (admits event target)).map (·.2) := by
      rw [hstarted, Option.toList_map, Option.toList_filter]
    rw [List.filterMap_append, List.filterMap_append, filterMap_singleton, filterMap_singleton,
      List.filter_append, List.map_append, h.started_eq, hlast]
  · intro s hs
    rcases List.mem_append.mp hs with hs | hs
    · exact h.runs_body s hs
    · rw [List.mem_singleton.mp hs]
      exact hbody

/-- A run keeps the subscription, and its ledger balances. -/
lemma Posted.trace {start : Config σ} {steps : List (Config σ × Config σ)}
    (h : Posted base event target surface id body start) (hdue : due id start = [])
    (htrace : Trace id start steps c)
    (hspares : ∀ s ∈ steps, s.1.task.OfKind (Act.Spares target surface id))
    (hwhole : ∀ s ∈ steps, ¬CutShort surface event.name s.1) :
    Posted base event target surface id body c ∧
      Tallied event target surface id body steps c := by
  induction htrace with
  | refl => exact ⟨h, hdue.symm, rfl, by simp⟩
  | @snoc steps c c' hsteps hlast ih =>
    have hold : ∀ s ∈ steps, s ∈ steps ++ [(c, c')] := fun s hs => List.mem_append_left _ hs
    have hnew : (c, c') ∈ steps ++ [(c, c')] := List.mem_append_right _ (List.mem_singleton_self _)
    obtain ⟨hposted, htallied⟩ :=
      ih (fun s hs => hspares s (hold s hs)) fun s hs => hwhole s (hold s hs)
    exact ⟨hposted.follows (hspares _ hnew) hlast,
      htallied.snoc hposted (hwhole _ hnew) hlast⟩

end Posted

/-! ### Subscribing and releasing -/

lemma subscribeEvent_ok {event : Event} {target : EntityId} {body : Payload → Program σ}
    {game game' : Game σ} {binding : Binding}
    (h : Game.subscribeEvent event target body game = .ok binding game') :
    ∃ surface c, event.surface game.board target = .ok surface ∧
      game.board.character? surface = some c ∧
      binding = { target, surface, event := event.name, listener := ⟨game.board.nextListener⟩ } ∧
      game' = {
        board := subscribed game.board surface event.name (gated event target)
        scripts := Table.insert game.scripts ⟨game.board.nextListener⟩ body
        host := game.host } := by
  unfold Game.subscribeEvent Game.keepScript at h
  simp only [bind_run, onBoard] at h
  rcases event_subscribe_outcome event target .script game.board with
    ⟨surface, c, hsurface, hc, hrun⟩ | ⟨fault, hrun⟩
  · rw [hrun] at h
    cases h
    exact ⟨surface, c, hsurface, hc, rfl, rfl⟩
  · rw [hrun] at h
    cases h

lemma gained_of_bind {event : Event} {target : EntityId} {body : Payload → Program σ}
    {game game' : Game σ} {binding : Binding}
    (h : Game.subscribeEvent event target body game = .ok binding game')
    (hfit : ListenersFit game.board) :
    binding.event = event.name ∧ binding.listener = ⟨game.board.nextListener⟩ ∧
      ListenersFit game'.board ∧
      Gained game.board game'.board binding.surface event.name (gated event target) := by
  obtain ⟨surface, c, -, hc, rfl, rfl⟩ := subscribeEvent_ok h
  have hgained : Gained game.board (subscribed game.board surface event.name (gated event target))
      surface event.name (gated event target) := gained_of_subscribed hc rfl rfl
  refine ⟨rfl, rfl, hfit.of_gained ?_ hgained, hgained⟩
  rw [outline_eq_of_standing (standing_subscribed _ _ _ _)]
  exact hfit.wellFormed

lemma CallsFit.fresh_unlisted {c : Config σ} (h : CallsFit c) {surface : EntityId} {event : String}
    {args : Payload} {rest : List (ListenerId × Listener)}
    (hmem : .pass surface event args rest ∈ c.frames) :
    ⟨c.game.board.nextListener⟩ ∉ rest.map (·.1) := by
  intro hid
  obtain ⟨entry, hentry, hsame⟩ := List.mem_map.mp hid
  exact ne_next_of_lt ((h.listed hmem).lt_next entry hentry) hsame

section Binding

variable {base : Board} {event : Event} {target : EntityId} {body : Payload → Program σ}
  {binding : Binding} {c : Config σ} {game' : Game σ}

lemma posted_of_bind (hfit : KeepersFit c.game.board) (hcalls : CallsFit c)
    (hnested : Nested base c.frames c.game.board)
    {next : Except Fault Binding → Program σ}
    (htask : c.task = .run (.subscribeEvent event target body next))
    (hbind : Game.subscribeEvent event target body c.game = .ok binding game') :
    step c = some ⟨.run (next (.ok binding)), c.frames, game'⟩ ∧
      Posted base event target binding.surface binding.listener body
        ⟨.run (next (.ok binding)), c.frames, game'⟩ ∧
      due binding.listener ⟨.run (next (.ok binding)), c.frames, game'⟩ = [] := by
  obtain ⟨task, frames, game⟩ := c
  cases htask
  have hstep : step ⟨.run (.subscribeEvent event target body next), frames, game⟩ =
      some ⟨.run (next (.ok binding)), frames, game'⟩ := by
    simp only [step, startProgram]
    rw [hbind]
    rfl
  have hfit' := (via_of_step (common_spares target binding.surface binding.listener) hstep
    trivial).keepersFit hfit
  have hcalls' := hcalls.step hstep
  have hnested' := hnested.stride (stride_of_step hstep)
  obtain ⟨-, hfresh, -, hgained⟩ := gained_of_bind hbind hfit.toListenersFit
  have hmem := hgained.mem_iff.mpr (.inr ⟨rfl, rfl, hfresh, rfl⟩)
  obtain ⟨surface, c, hsurface, -, rfl, rfl⟩ := subscribeEvent_ok hbind
  refine ⟨hstep, ⟨⟨hfit', hmem, ?_, ?_⟩, Table.get?_insert_self _ _ _, hcalls', hnested',
    fun hmem hid => absurd hid (hcalls.fresh_unlisted hmem)⟩, ?_⟩
  · rintro ⟨keeper, k, kept, hk, hbinding, hid⟩
    rw [keeping?_eq_of_upkeep (upkeep_subscribed _ _ _ _)] at hk
    exact ne_next_of_lt (hfit.kept_lt ⟨keeper, k, kept, hk, hbinding, hid⟩) rfl
  · refine (surface_cases hsurface).imp_right ?_
    rintro ⟨player, hcontroller, rfl⟩
    rw [playerCount_eq_of_outline (outline_eq_of_standing (standing_subscribed _ _ _ _))]
    exact hfit.seated.controller_lt hcontroller
  · refine List.filterMap_eq_nil_iff.mpr fun frame hframe => ?_
    cases frame with
    | pass surface' event' args rest => exact if_neg (hcalls.fresh_unlisted hframe)
    | _ => rfl

lemma release_freed {b : Board} (hfit : ListenersFit b) (hevent : binding.event = event.name)
    {listener : Listener}
    (hmem : (binding.listener, listener) ∈ listenersAt b binding.surface event.name) :
    ∃ b', event.unsubscribe binding b = .ok () b' ∧ Freed b b' [binding.listener] := by
  have hbound : b.isBound binding.surface event.name binding.listener = true :=
    (isBound_iff _ _ _ _).mpr ⟨_, hmem⟩
  unfold Event.unsubscribe
  rw [if_neg (not_not.mpr hevent), hevent]
  rcases unsubscribe_cases hfit binding.surface event.name binding.listener with
    ⟨-, b', hok, hfreed⟩ | ⟨hunbound, -⟩
  · exact ⟨b', hok, hfreed⟩
  · rw [hbound] at hunbound
    cases hunbound

/-- A step goes on with a program and releases a subscription, which is never called again. -/
def ReleasedForGood (id : ListenerId) (c : Config σ) (program : Program σ) : Prop :=
  ∃ b', step c = some ⟨.run program, c.frames, { c.game with board := b' }⟩ ∧
    Freed c.game.board b' [id] ∧
    ∀ c', Stirred ⟨.run program, c.frames, { c.game with board := b' }⟩ c' →
      ∀ listener args, c'.task ≠ .call id listener args

lemma Posted.released
    (h : Posted base event target binding.surface binding.listener body c)
    (hevent : binding.event = event.name) {next : Except Fault Unit → Program σ}
    (htask : c.task = .run (.perform (.release event binding) next)) :
    ReleasedForGood binding.listener c (next (.ok ())) := by
  obtain ⟨b', hrun, hfreed⟩ :=
    release_freed h.standing.toListenersFit hevent h.standing.mem
  have hcalls := h.calls
  have hlt := h.standing.lt_nextListener
  obtain ⟨task, frames, game⟩ := c
  cases htask
  have hstep : step ⟨.run (.perform (.release event binding) next), frames, game⟩ =
      some ⟨.run (next (.ok ())), frames, { game with board := b' }⟩ := by
    simp only [step, startProgram, startOperation, Game.perform, onBoard]
    rw [hrun]
    rfl
  refine ⟨b', hstep, hfreed, fun c' hstirred listener args hcall => ?_⟩
  have hcalls' := hcalls.step hstep
  obtain ⟨surface, event', -, -, -, hmem⟩ := (hcalls'.stirred hstirred).called hcall
  have hlt' : binding.listener.raw < b'.nextListener := by
    rw [hfreed.next_eq]
    exact hlt
  have hold := hcalls'.listenersFit.mem_of_develops hstirred.develops hlt' hmem
  exact (hfreed.mem_iff.mp hold).2 (List.mem_singleton_self _)

/-- A further subscription to an event comes last, has a number of its own, and each of the two can
be released without the other. -/
structure Apart (event event' : Event) (target' : EntityId) (binding binding' : Binding)
    (b b' : Board) : Prop where
  listener_ne : binding'.listener ≠ binding.listener
  gained : Gained b b' binding'.surface event'.name (gated event' target')
  first_released : ∃ b'', event.unsubscribe binding b' = .ok () b'' ∧
    Freed b' b'' [binding.listener]
  second_released : ∃ b'', event'.unsubscribe binding' b' = .ok () b'' ∧
    listenersAt b'' = listenersAt b

lemma Posted.apart (h : Posted base event target binding.surface binding.listener body c)
    (hevent : binding.event = event.name) {event' : Event} {target' : EntityId}
    {body' : Payload → Program σ} {binding' : Binding}
    (hbind : Game.subscribeEvent event' target' body' c.game = .ok binding' game') :
    Apart event event' target' binding binding' c.game.board game'.board := by
  obtain ⟨hevent', hfresh, hfit', hgained⟩ := gained_of_bind hbind h.standing.toListenersFit
  have hmem : (binding'.listener, gated event' target') ∈
      listenersAt game'.board binding'.surface event'.name :=
    hgained.mem_iff.mpr (.inr ⟨rfl, rfl, hfresh, rfl⟩)
  obtain ⟨b', hrun, hfreed⟩ := release_freed hfit' hevent' hmem
  refine ⟨?_, hgained, release_freed hfit' hevent (hgained.mem_iff.mpr (.inl h.standing.mem)),
    b', hrun, ?_⟩
  · rw [hfresh]
    exact (ne_next_of_lt h.standing.lt_nextListener).symm
  · funext surface name
    have hold : (listenersAt c.game.board surface name).filter
        (fun entry => entry.1 ∉ [binding'.listener]) = listenersAt c.game.board surface name := by
      refine List.filter_eq_self.mpr fun entry hentry => decide_eq_true ?_
      rw [List.mem_singleton, hfresh]
      exact ne_next_of_lt (h.standing.lt_next hentry)
    rw [hfreed.lists_eq, hgained.lists_eq, List.filter_append, hold, ← hfresh]
    split <;> simp

end Binding

/-! ### Exactness -/

/-- What holds of a program that is subscribed to an event after a run. -/
structure Gated (event : Event) (target : EntityId) (binding : Binding)
    (body : Payload → Program σ) (steps : List (Config σ × Config σ)) (c : Config σ) : Prop
    extends Tallied event target binding.surface binding.listener body steps c where
  nothing_due : (binding.surface, event.name) ∉ c.game.board.dispatching →
    due binding.listener c = []
  released : ∀ {next}, c.task = .run (.perform (.release event binding) next) →
    ReleasedForGood binding.listener c (next (.ok ()))
  apart : ∀ {event' target' body' binding' game'},
    Game.subscribeEvent event' target' body' c.game = .ok binding' game' →
      Apart event event' target' binding binding' c.game.board game'.board

/-- Gating is exact. A program is subscribed to an event in some state that can be reached. What is
done after that does not release the subscription by hand or take its surface out of play, and no
fault ends a pass that would have come to it. Then the program runs once for each occurrence of the
event that the condition accepts when its turn comes, with what it reports, in order, and for nothing
else. It never runs after the release, and it has no part in any other subscription. -/
theorem gating_exact {settings : Settings} {host : σ} {game : Game σ}
    (hnew : Game.new settings host = .ok game) {program : Program σ} {c₀ : Config σ}
    (hreached : Stirred ⟨.run program, [], game⟩ c₀) {event : Event} {target : EntityId}
    {body : Payload → Program σ} {next : Except Fault Binding → Program σ}
    (htask : c₀.task = .run (.subscribeEvent event target body next)) {binding : Binding}
    {game₁ : Game σ}
    (hbind : Game.subscribeEvent event target body c₀.game = .ok binding game₁)
    {steps : List (Config σ × Config σ)} {c : Config σ}
    (htrace : Trace binding.listener ⟨.run (next (.ok binding)), c₀.frames, game₁⟩ steps c)
    (hspares : ∀ s ∈ steps, s.1.task.OfKind (Act.Spares target binding.surface binding.listener))
    (hwhole : ∀ s ∈ steps, ¬CutShort binding.surface event.name s.1) :
    step c₀ = some ⟨.run (next (.ok binding)), c₀.frames, game₁⟩ ∧
      event.surface c₀.game.board target = .ok binding.surface ∧
      Gated event target binding body steps c := by
  have hfit := (endingsUnspent_of_stirred hnew hreached).toKeepersFit
  obtain ⟨hstep, hposted, hdue⟩ := posted_of_bind hfit (callsFit_of_stirred hnew hreached)
    ((nested_nil game.board).stirred hreached) htask hbind
  obtain ⟨hposted', htallied⟩ := hposted.trace hdue htrace hspares hwhole
  obtain ⟨hevent, -⟩ := gained_of_bind hbind hfit.toListenersFit
  obtain ⟨surface, -, hsurface, -, hbinding, -⟩ := subscribeEvent_ok hbind
  refine ⟨hstep, ?_, htallied, hposted'.nothing_due, hposted'.released hevent,
    hposted'.apart hevent⟩
  rw [hsurface, hbinding]

/-- A number of steps of a game that nothing outside meddles with. -/
def unattended : Nat → Config σ → Option (List (Config σ × Config σ) × Config σ)
  | 0, c => some ([], c)
  | n + 1, c =>
    (unattended n c).bind fun run =>
      (step run.2).map fun next => (run.1 ++ [(run.2, next)], next)

lemma trace_unattended (id : ListenerId) {start c : Config σ} {n : Nat}
    {steps : List (Config σ × Config σ)} (h : unattended n start = some (steps, c)) :
    Trace id start steps c := by
  induction n generalizing steps c with
  | zero =>
    cases h
    exact .refl
  | succ n ih =>
    obtain ⟨⟨steps', last⟩, hfirst, hrun⟩ := Option.bind_eq_some_iff.mp h
    obtain ⟨next, hstep, hlast⟩ := Option.map_eq_some_iff.mp hrun
    cases hlast
    exact .snoc (ih hfirst) ⟨_, hstep, rfl, rfl⟩

/-- Whether a task only fires, notes and calls programs, and nothing has failed. -/
def smooth : Task σ → Bool
  | .run (.finish _) | .run (.note _ _) | .run (.perform (.fire _ _ _) _) => true
  | .fire _ _ _ | .call _ ⟨_, .script⟩ _ | .done (.ok _) => true
  | _ => false

lemma ofKind_of_smooth {task : Task σ} (h : smooth task = true) (kind : Act → Prop) :
    task.OfKind kind := by
  cases task with
  | run program =>
    cases program with
    | perform operation next =>
      cases operation with
      | fire surface event args => trivial
      | _ => cases h
    | _ => trivial
  | call id listener args =>
    obtain ⟨gate, handler⟩ := listener
    cases handler with
    | script => exact nofun
    | _ => cases h
  | _ => trivial

lemma not_cutShort_of_smooth {c : Config σ} (h : smooth c.task = true) (surface : EntityId)
    (event : String) : ¬CutShort surface event c := by
  rintro ⟨fault, args, rest, frames, htask, -⟩
  rw [htask] at h
  cases h

def wound : Event := { name := "wound", scope := .player, condition := some .isHero }

/-- The program notes what it is told. -/
def chronicler (args : Payload) : Program (List Payload) :=
  .note (fun notes => notes ++ [args]) fun _ => .finish (.ok ())

/-- A hero is reported to be struck, and then nobody is. -/
def strikes : Program (List Payload) :=
  .perform (.fire ⟨0⟩ "wound" { focus := some ⟨0⟩ }) fun _ =>
    .perform (.fire ⟨0⟩ "wound" {}) fun _ => .finish (.ok ())

def ambush : Program (List Payload) :=
  .subscribeEvent wound ⟨0⟩ chronicler fun _ => strikes

/-- Both are reached, and the first is noted. -/
theorem chronicler_gated :
    ∃ (game game₁ : Game (List Payload)) (binding : Binding)
      (steps : List (Config (List Payload) × Config (List Payload))) (c : Config (List Payload)),
      Game.new Settings.standard [] = .ok game ∧
      step ⟨.run ambush, [], game⟩ = some ⟨.run strikes, [], game₁⟩ ∧
      Gated wound ⟨0⟩ binding chronicler steps c ∧
      (steps.filterMap (reachedBy binding.listener)).map (·.2) = [{ focus := some ⟨0⟩ }, {}] ∧
      steps.filterMap (startedBy binding.listener) = [{ focus := some ⟨0⟩ }] ∧
      c.game.host = [{ focus := some ⟨0⟩ }] := by
  obtain ⟨game, hnew⟩ : ∃ game, Game.new Settings.standard ([] : List Payload) = .ok game :=
    ⟨_, rfl⟩
  obtain ⟨binding, game₁, hbind⟩ : ∃ binding game₁,
      Game.subscribeEvent wound ⟨0⟩ chronicler game = .ok binding game₁ := by
    cases hnew
    exact ⟨_, _, rfl⟩
  obtain ⟨⟨steps, c⟩, hrun⟩ : ∃ run, unattended 14 ⟨.run strikes, [], game₁⟩ = some run := by
    cases hnew
    cases hbind
    exact ⟨_, rfl⟩
  have hsmooth : ∀ s ∈ steps, smooth s.1.task = true := by
    cases hnew
    cases hbind
    cases hrun
    decide +kernel
  have hreached : Stirred ⟨.run ambush, [], game⟩ ⟨.run ambush, [], game⟩ := .refl
  have htask : (⟨.run ambush, [], game⟩ : Config (List Payload)).task =
      .run (.subscribeEvent wound ⟨0⟩ chronicler fun _ => strikes) := rfl
  obtain ⟨hstep, -, hgated⟩ := gating_exact hnew hreached htask hbind (trace_unattended _ hrun)
    (fun s hs => ofKind_of_smooth (hsmooth s hs) _)
    fun s hs => not_cutShort_of_smooth (hsmooth s hs) _ _
  refine ⟨game, game₁, binding, steps, c, hnew, hstep, hgated, ?_⟩
  cases hnew
  cases hbind
  cases hrun
  decide +kernel

end CardEffects.Proofs
