import CardEffects.Proofs.WatchedPasses

/-!
# Dispatch passes

Which subscriptions a firing calls. A subscription may be made or released, and the surface may
leave play, while the pass is under way, by any call and by whatever comes under way through it.
-/

namespace CardEffects.Proofs

section Answers

variable {surface : EntityId} {event : String} {args : Payload} {b b' : Board}
  {list : List (ListenerId × Listener)} {calls : List (Call Fired)} {result : Except Fault Unit}

lemma Answers.sublist (h : Answers surface event args b list calls result b') :
    (calls.map (·.entry)).Sublist list := by
  induction h with
  | done b => exact .slnil
  | skip _ _ ih => exact ih.cons _
  | call _ _ _ _ ih => exact ih.cons_cons _
  | fault _ _ _ => exact (List.nil_sublist _).cons_cons _

lemma Answers.result_eq (h : Answers surface event args b list calls result b') :
    (∀ c ∈ calls.dropLast, c.result = .ok ()) ∧
      result = (calls.getLast?.map (·.result)).getD (.ok ()) := by
  induction h with
  | done b => simp
  | skip _ _ ih => exact ih
  | @call _ _ _ calls _ _ _ hresult _ ih =>
    cases calls with
    | nil => simpa [hresult] using ih
    | cons c' calls =>
      refine ⟨fun d hd => ?_, by simpa using ih.2⟩
      rw [List.dropLast_cons_of_ne_nil (by simp)] at hd
      rcases List.mem_cons.mp hd with rfl | hd
      · exact hresult
      · exact ih.1 d hd
  | fault _ _ hresult => simp [hresult]

/-- Each call is made on a board that has developed since the pass began, with the same occurrences
under way. -/
lemma Answers.call_facts (h : Answers surface event args b list calls result b')
    (horder : ∀ c ∈ calls, c.InOrder) {c : Call Fired} (hc : c ∈ calls) :
    c.args = args ∧ c.before.isBound surface event c.entry.1 = true ∧ Develops b c.before ∧
      c.before.dispatching = b.dispatching := by
  induction h with
  | done b => cases hc
  | skip _ _ ih => exact ih horder hc
  | @call d _ _ _ _ hbound hargs _ _ ih =>
    rcases List.mem_cons.mp hc with rfl | hc
    · exact ⟨hargs, hbound, .refl, rfl⟩
    · have hd := horder d List.mem_cons_self
      obtain ⟨hargs', hbound', hdev, hstack⟩ :=
        ih (fun c' hc' => horder c' (List.mem_cons_of_mem _ hc')) hc
      exact ⟨hargs', hbound', Trans.trans hd.develops hdev, hstack.trans hd.dispatching_eq⟩
  | fault hbound hargs _ =>
    rw [List.mem_singleton.mp hc]
    exact ⟨hargs, hbound, .refl, rfl⟩

end Answers

/-! ### Firings -/

lemma Fired.InOrder.call_facts {f : Fired} (h : f.InOrder) {c : Call Fired} (hc : c ∈ f.calls) :
    c.InOrder ∧ refusal? f.start f.surface f.event = none ∧
      c.entry ∈ listenersAt f.start f.surface f.event ∧
      c.before.isBound f.surface f.event c.entry.1 = true ∧ Develops f.start c.before ∧
      c.before.dispatching = (f.surface, f.event) :: f.start.dispatching := by
  cases h with
  | refused fault hrefusal hcalls hresult hfinish =>
    rw [hcalls] at hc
    cases hc
  | answered last hrefusal hanswers hfinish hcalls =>
    obtain ⟨-, hbound, hdev, hstack⟩ := hanswers.call_facts hcalls hc
    have henter : Develops f.start (entered f.start f.surface f.event) :=
      develops_of_move (.enter f.surface f.event) trivial f.start
    exact ⟨hcalls c hc, hrefusal, hanswers.sublist.subset (List.mem_map_of_mem hc), hbound,
      Trans.trans henter hdev, hstack⟩

lemma Happens.start_facts {fired : List Fired} {f : Fired} (h : Happens f fired) {b : Board}
    (hstart : ∀ g ∈ fired, Develops b g.start ∧ g.start.dispatching = b.dispatching)
    (horder : ∀ g, Happens g fired → g.InOrder) :
    Develops b f.start ∧ b.dispatching <:+ f.start.dispatching := by
  induction h generalizing b with
  | here hmem =>
    obtain ⟨hdev, hstack⟩ := hstart f hmem
    exact ⟨hdev, hstack ▸ List.suffix_refl _⟩
  | during hmem hcall hinner ih =>
    obtain ⟨hc, -, -, -, hdev, hstack⟩ := (horder _ (.here hmem)).call_facts hcall
    obtain ⟨hstartdev, hstartstack⟩ := hstart _ hmem
    obtain ⟨hrest, hsuffix⟩ := ih hc.fired fun g hg => horder g (.during hmem hcall hg)
    refine ⟨Trans.trans (Trans.trans hstartdev hdev) hrest, List.IsSuffix.trans ?_ hsuffix⟩
    rw [hstack, hstartstack]
    exact List.suffix_cons _ _

section Runs

variable {σ : Type} {settings : Settings} {host : σ} {game : Game σ}
  (hnew : Game.new settings host = .ok game)

include hnew

lemma board_new : Board.new settings = .ok game.board := by
  cases hboard : Board.new settings with
  | error fault => simp [Game.new, hboard, Except.map] at hnew
  | ok start =>
    simp only [Game.new, hboard, Except.map, Except.ok.injEq] at hnew
    rw [← hnew]

lemma dispatching_new : game.board.dispatching = [] := by
  obtain ⟨players, hboard, -⟩ := new_eq (board_new hnew)
  rw [hboard]

end Runs

/-- What is known of a firing that is let through. -/
structure Fired.Exact (f : Fired) : Prop where
  /-- The listed subscriptions are taken in turn, and each one that is in force then is called. -/
  answers : ∃ last, Answers f.surface f.event f.args (entered f.start f.surface f.event)
    (listenersAt f.start f.surface f.event) f.calls f.result last ∧
    f.finish = { last with dispatching := f.start.dispatching }
  sublist : (f.calls.map (·.entry)).Sublist (listenersAt f.start f.surface f.event)
  /-- The calls are made in the order in which the subscriptions were, each once. -/
  ordered : f.calls.Pairwise (·.entry.1.raw < ·.entry.1.raw)
  args_eq : ∀ c ∈ f.calls, c.args = f.args
  /-- What is subscribed since the firing began is not called. -/
  no_news : ∀ b, Develops f.start b → ∀ entry ∈ listenersAt b f.surface f.event,
    entry ∉ listenersAt f.start f.surface f.event → ∀ c ∈ f.calls, c.entry.1 ≠ entry.1
  earlier_ok : ∀ c ∈ f.calls.dropLast, c.result = .ok ()
  result_eq : f.result = (f.calls.getLast?.map (·.result)).getD (.ok ())

lemma Fired.InOrder.exact {f : Fired} (h : f.InOrder) (hfit : ListenersFit f.start)
    (hrefusal : refusal? f.start f.surface f.event = none) : f.Exact := by
  cases h with
  | refused fault hfault => rw [hrefusal] at hfault; cases hfault
  | answered last _ hanswers hfinish hcalls =>
    have hordered := List.pairwise_map.mp ((hfit.ordered f.surface f.event).sublist hanswers.sublist)
    refine ⟨⟨last, hanswers, hfinish⟩, hanswers.sublist, hordered,
      fun c hc => (hanswers.call_facts hcalls hc).1, fun b hdev entry hentry hnew c hc heq => ?_,
      hanswers.result_eq.1, hanswers.result_eq.2⟩
    have hmem := hanswers.sublist.subset (List.mem_map_of_mem hc)
    have hlt : entry.1.raw < f.start.nextListener := heq ▸ hfit.lt_next hmem
    exact hnew (hfit.mem_of_develops hdev hlt hentry)

lemma Fired.InOrder.call_inForce {f : Fired} (h : f.InOrder) (hfit : ListenersFit f.start)
    {c : Call Fired} (hc : c ∈ f.calls) :
    c.before.contains f.surface = true ∧ c.entry ∈ listenersAt c.before f.surface f.event := by
  obtain ⟨-, -, hmem, hbound, hdev, -⟩ := h.call_facts hc
  constructor
  · rw [← character?_isSome]
    unfold Board.isBound at hbound
    cases hcharacter : c.before.character? f.surface with
    | none => simp [hcharacter] at hbound
    | some character => rfl
  · obtain ⟨listener, hlistener⟩ := (isBound_iff _ _ _ _).mp hbound
    have hold := hfit.mem_of_develops hdev (hfit.lt_next hmem) hlistener
    have heq : (c.entry.1, listener) = c.entry :=
      List.inj_on_of_nodup_map (hfit.nodup f.surface f.event) hold hmem rfl
    rwa [← heq]

section Runs

variable {σ : Type} {settings : Settings} {host : σ} {game : Game σ}
  (hnew : Game.new settings host = .ok game)

include hnew

/-- All that is fired in a run, at any depth, is in order and fired on a board of the run. -/
lemma happens_in_run {program : Program σ} {f : Fired}
    (h : Happens f (transcript program game).fired) :
    f.InOrder ∧ Develops game.board f.start ∧ ListenersFit f.start := by
  obtain ⟨-, hcont⟩ := watched_execute (dispatching_new hnew) program
  obtain ⟨fired, hfired, hstart, horder⟩ := hcont.fired
  rw [hfired] at h
  obtain ⟨hdev, -⟩ := h.start_facts hstart horder
  exact ⟨horder f h, hdev, (listenersFit_new (board_new hnew)).develops hdev⟩

/-- However the subscriptions of a board are made, released and called, each firing that is let
through calls exactly those that were in force when it began and still are when their turn comes, in
order, until one fails; and no subscription is ever called that is not in force. -/
theorem passes_exact (program : Program σ) :
    Game.run watchedFire (watch program) (withTranscript game {}) =
        transcribed (transcript program game) (Game.execute program game) ∧
    (∀ f, Happens f (transcript program game).fired → f.start.contains f.surface = true →
      (f.surface, f.event) ∉ f.start.dispatching →
      f.start.dispatching.length < f.start.settings.maxDispatchDepth → f.Exact) ∧
    ∀ f, Happens f (transcript program game).fired → ∀ c ∈ f.calls,
      c.before.contains f.surface = true ∧ c.entry ∈ listenersAt c.before f.surface f.event := by
  refine ⟨(watched_execute (dispatching_new hnew) program).1, ?_, ?_⟩
  · intro f hf hplay hfresh hspare
    obtain ⟨horder, -, hfit⟩ := happens_in_run hnew hf
    exact horder.exact hfit (refusal?_eq_none_iff.mpr ⟨hfresh, hspare, hplay⟩)
  · intro f hf c hc
    obtain ⟨horder, -, hfit⟩ := happens_in_run hnew hf
    exact horder.call_inForce hfit hc

end Runs

/-- Two programs listen for the end of a turn. The first releases the second, has a third one listen,
and then the turn ends. -/
def relief : Program Unit :=
  .subscribe ⟨0⟩ Occurrence.turnEnded
    (fun _ => .perform (.unsubscribe ⟨0⟩ Occurrence.turnEnded ⟨1⟩) fun _ =>
      .subscribe ⟨0⟩ Occurrence.turnEnded (fun _ => .finish (.ok ())) fun _ => .finish (.ok ()))
    fun _ => .subscribe ⟨0⟩ Occurrence.turnEnded (fun _ => .finish (.ok ())) fun _ =>
      .perform (.fire ⟨0⟩ Occurrence.turnEnded {}) fun _ => .finish (.ok ())

theorem relief_pass_exact :
    ∃ game, Game.new Settings.standard () = .ok game ∧ ∃ f ∈ (transcript relief game).fired,
      f.Exact ∧ (listenersAt f.start f.surface f.event).map (·.1) = [⟨0⟩, ⟨1⟩] ∧
      f.calls.map (·.entry.1) = [⟨0⟩] := by
  obtain ⟨game, hnew⟩ : ∃ game, Game.new Settings.standard () = .ok game := ⟨_, rfl⟩
  have hexact := (passes_exact hnew relief).2.1
  have hfired : (transcript relief game).fired.map (fun f =>
      ((refusal? f.start f.surface f.event).isNone,
        (listenersAt f.start f.surface f.event).map (·.1), f.calls.map (·.entry.1))) =
      [(true, [⟨0⟩, ⟨1⟩], [⟨0⟩])] := by
    cases hnew
    decide +kernel
  obtain ⟨f, hf, hfacts⟩ := List.map_eq_singleton_iff.mp hfired
  simp only [Prod.mk.injEq, Option.isNone_iff_eq_none] at hfacts
  obtain ⟨hrefusal, hlist, hcalls⟩ := hfacts
  obtain ⟨hfresh, hspare, hplay⟩ := refusal?_eq_none_iff.mp hrefusal
  have hmem : f ∈ (transcript relief game).fired := by simp [hf]
  exact ⟨game, hnew, f, hmem, hexact f (.here hmem) hplay hfresh hspare, hlist, hcalls⟩

end CardEffects.Proofs
