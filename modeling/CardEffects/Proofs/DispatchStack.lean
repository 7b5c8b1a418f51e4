import CardEffects.Proofs.DispatchPasses

/-!
# The stack of occurrences

What is under way at each moment of a run. Whatever a call does, and whichever faults it passes
over, the occurrences that are under way when it ends are those that were when it began.
-/

namespace CardEffects.Proofs

lemma Fired.InOrder.not_reentered {f : Fired} (h : f.InOrder) (hfit : ListenersFit f.start)
    {c : Call Fired} (hc : c ∈ f.calls) (hinner : ∀ g, Happens g c.fired → g.InOrder) {g : Fired}
    (hg : Happens g c.fired) {d : Call Fired} (hd : d ∈ g.calls) : d.entry.1 ≠ c.entry.1 := by
  obtain ⟨hcall, -, hmem, -, hdev, hstack⟩ := h.call_facts hc
  obtain ⟨hdev', hsuffix⟩ := hg.start_facts hcall.fired hinner
  obtain ⟨-, hrefusal, hmem', -, -, -⟩ := (hinner g hg).call_facts hd
  intro hsame
  -- Its number still stands where it stood, and what it stands for is under way.
  have hunder : (f.surface, f.event) ∈ g.start.dispatching :=
    hsuffix.subset (hstack ▸ List.mem_cons_self)
  have hlt : d.entry.1.raw < f.start.nextListener := hsame ▸ hfit.lt_next hmem
  have hold := hfit.mem_of_develops (Trans.trans hdev hdev') hlt hmem'
  rw [hsame] at hold
  obtain ⟨hsurface, hevent⟩ := hfit.place_eq hmem hold
  rw [hsurface, hevent] at hunder
  exact (refusal?_eq_none_iff.mp hrefusal).1 hunder

lemma Fired.InOrder.finish_stack {f : Fired} (h : f.InOrder) :
    f.finish.dispatching = f.start.dispatching := by
  cases h with
  | refused fault _ _ _ hfinish => rw [hfinish]
  | answered last _ _ hfinish _ => rw [hfinish]

/-- A fault of a firing is the reason for which it was refused, or that of a call. -/
lemma Fired.InOrder.fault_cases {f : Fired} (h : f.InOrder) {fault : Fault}
    (hresult : f.result = .error fault) :
    refusal? f.start f.surface f.event = some fault ∨ ∃ c ∈ f.calls, c.result = .error fault := by
  cases h with
  | refused reason hrefusal _ hreason _ =>
    rw [hreason] at hresult
    cases hresult
    exact .inl hrefusal
  | answered last _ hanswers _ _ =>
    right
    have hlast := hanswers.result_eq.2
    rw [hresult] at hlast
    cases hcall : f.calls.getLast? with
    | none => simp [hcall] at hlast
    | some c =>
      refine ⟨c, List.mem_of_getLast? hcall, ?_⟩
      simpa [hcall] using hlast.symm

section Runs

variable {σ : Type} {settings : Settings} {host : σ} {game : Game σ}
  (hnew : Game.new settings host = .ok game)

include hnew

/-- At each moment of a run no occurrence is under way twice and no more than the settings allow;
every operation, firing and call leaves those under way as they were, whether or not it ends in a
fault. So no subscription is called while it is being called. At the top nothing is under way, and a
fault of an occurrence that is fired there is one that a call ended in. -/
theorem stack_disciplined (program : Program σ) :
    Game.run watchedFire (watch program) (withTranscript game {}) =
        transcribed (transcript program game) (Game.execute program game) ∧
    (∀ b ∈ boards program game,
      b.dispatching.Nodup ∧ b.dispatching.length ≤ settings.maxDispatchDepth) ∧
    (∀ o ∈ (transcript program game).operations, o.2.dispatching = o.1.dispatching) ∧
    (∀ f, Happens f (transcript program game).fired →
      f.finish.dispatching = f.start.dispatching ∧ ∀ c ∈ f.calls,
        c.before.dispatching = (f.surface, f.event) :: f.start.dispatching ∧
        c.after.dispatching = c.before.dispatching ∧
        ∀ g, Happens g c.fired → ∀ d ∈ g.calls, d.entry.1 ≠ c.entry.1) ∧
    (∀ (top : Game σ) (operation : Operation), top.board.dispatching = [] →
      (leftBy (Game.perform Game.fire operation) top).board.dispatching = []) ∧
    (leftBy (Game.execute program) game).board.dispatching = [] ∧
    ∀ f ∈ (transcript program game).fired, f.start.dispatching = [] ∧
      (0 < settings.maxDispatchDepth → ∀ fault, f.result = .error fault →
        f.start.contains f.surface = false ∧ fault = .unknownEntity f.surface ∨
          ∃ c ∈ f.calls, c.result = .error fault) := by
  have hstack := dispatching_new hnew
  obtain ⟨hrun, hcont⟩ := watched_execute hstack program
  obtain ⟨fired, hfired, hstart, horder⟩ := hcont.fired
  obtain ⟨operations, hoperations, hsame⟩ := hcont.operations
  rw [List.nil_append] at hfired hoperations
  have hsettings : ∀ b, Develops game.board b → b.settings = settings := by
    intro b hdev
    obtain ⟨players, hboard, -⟩ := new_eq (board_new hnew)
    rw [hdev.settings_eq, hboard]
  refine ⟨hrun, ?_, ?_, ?_, ?_, ?_, ?_⟩
  · intro b hb
    obtain ⟨hdev, hnodup, hlength⟩ := (boards_develop hstack program).2 b hb
    exact ⟨hnodup, hsettings b hdev ▸ hlength⟩
  · rwa [hoperations]
  · intro f hf
    obtain ⟨hforder, -, hfit⟩ := happens_in_run hnew hf
    refine ⟨hforder.finish_stack, fun c hc => ?_⟩
    obtain ⟨hcall, -, -, -, -, hbefore⟩ := hforder.call_facts hc
    refine ⟨hbefore, hcall.dispatching_eq, fun g hg d hd => ?_⟩
    have hinner : ∀ g, Happens g c.fired → g.InOrder := fun g hg =>
      (happens_in_run hnew (hf.inside hc hg)).1
    exact hforder.not_reentered hfit hc hinner hg hd
  · intro top operation htop
    have hroom : Room top.board.settings.maxDispatchDepth top.board :=
      ⟨by rw [htop]; exact List.nodup_nil, by rw [htop]; exact Nat.zero_add _⟩
    obtain ⟨t, -, hleft⟩ := tracks_perform (tracks_fire _) operation top {} hroom
    rw [hleft.dispatching_eq, htop]
  · rw [hcont.dispatching_eq, hstack]
  · intro f hf
    rw [hfired] at hf
    obtain ⟨hdev, hfstack⟩ := hstart f hf
    rw [hstack] at hfstack
    refine ⟨hfstack, fun hspare fault hfault => ?_⟩
    refine ((horder f (.here hf)).fault_cases hfault).imp_left fun hrefusal => ?_
    rw [← hsettings f.start hdev] at hspare
    cases hplay : f.start.contains f.surface with
    | false => simpa [refusal?, hfstack, hspare.ne', hplay, eq_comm] using hrefusal
    | true => simp [refusal?, hfstack, hspare.ne', hplay] at hrefusal

end Runs

/-- A program listens for the end of a turn by ending it once more, and passes on what comes of
that. The turn is ended twice. -/
def echo : Program Unit :=
  .subscribe ⟨0⟩ Occurrence.turnEnded
    (fun _ => .perform (.fire ⟨0⟩ Occurrence.turnEnded {}) fun result => .finish result)
    fun _ => .perform (.fire ⟨0⟩ Occurrence.turnEnded {}) fun _ =>
      .perform (.fire ⟨0⟩ Occurrence.turnEnded {}) fun result => .finish result

/-- The fault of the second firing is that of the call, which was refused on its own account. -/
theorem echo_stack_disciplined :
    ∃ game, Game.new Settings.standard () = .ok game ∧
      (leftBy (Game.execute echo) game).board.dispatching = [] ∧
      ∃ f f', (transcript echo game).fired = [f, f'] ∧ f'.start.dispatching = [] ∧
        ∃ fault, f'.result = .error fault ∧ ∃ c ∈ f'.calls, c.result = .error fault := by
  obtain ⟨game, hnew⟩ : ∃ game, Game.new Settings.standard () = .ok game := ⟨_, rfl⟩
  obtain ⟨-, -, -, -, -, hend, htop⟩ := stack_disciplined hnew echo
  have hresults : (transcript echo game).fired.map (fun f =>
      (f.start.contains f.surface, f.result.isOk)) = [(true, false), (true, false)] := by
    cases hnew
    decide +kernel
  obtain ⟨f, rest, hfired, -, hrest⟩ := List.map_eq_cons_iff.mp hresults
  obtain ⟨f', rfl, hf'⟩ := List.map_eq_singleton_iff.mp hrest
  obtain ⟨hplay, hfails⟩ := Prod.mk.inj hf'
  obtain ⟨hstack, hcases⟩ := htop f' (by simp [hfired])
  refine ⟨game, hnew, hend, f, f', hfired, hstack, ?_⟩
  cases hresult : f'.result with
  | ok _ =>
    rw [hresult] at hfails
    cases hfails
  | error fault =>
    refine ⟨fault, rfl, ?_⟩
    rcases hcases (by decide) fault hresult with ⟨hgone, -⟩ | hcall
    · rw [hplay] at hgone
      cases hgone
    · exact hcall

end CardEffects.Proofs
