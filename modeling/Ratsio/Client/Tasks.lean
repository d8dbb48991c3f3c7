import Ratsio.Client.ClientLemmas

/-!
The task structure of a client, read off `Moves`. The connection moves only by a step of its own
reconnect machine or by calls of `trigger_reconnect`, so it stays a reachable state of the
machine of `Net.Connection`; and at most one control loop is live (`one_live_control_loop`).
-/

namespace Ratsio

/-- A control loop that runs and has no `CLOSE` queued: it takes every frame forwarded to it and
goes on running. -/
def ControlLoop.live (loop : ControlLoop) : Bool :=
  loop.running && decide (Op.close ∉ loop.mailbox)

/-- The handler's switch-over of the control loop, from its `CLOSE` on the current control channel
up to the install of the new loop. -/
def HandlerPc.switching : HandlerPc → Bool
  | .resetPings | .rebuild | .install _ => true
  | _ => false

theorem ControlLoop.live_push (op : Op) (loop : ControlLoop) :
    (loop.push op).live = (loop.live && decide (op ≠ .close)) := by
  unfold push live
  split
  · simp [*, @eq_comm _ Op.close]
  · simp [*]

namespace NatsClient

variable {w w' : NatsClient} {a : ClientAction}

/-- The connection moves only by a step of its own reconnect machine, or by calls of
`trigger_reconnect` that a multiplexer, the pinger or `start_send` starts. -/
theorem connection_step (h : w.step a = some w') :
    (∃ b, a = .connection b ∧ w.connection.step b = some w'.connection) ∨
      w.connection.Triggered w'.connection := by
  cases moves_of_step h with
  | connection hc => exact .inl ⟨_, rfl, hc⟩
  | readDisconnected => exact .inr (.trigger _)
  | controlPing | controlInfo | unsubscribe => exact .inr (triggered_send_of (by rfl) _)
  | pingTick => exact .inr (triggered_send w .ping)
  | @publish cmd _ => exact .inr (triggered_send w (.pub cmd))
  | @subscribe cmd => exact .inr (triggered_send w (.sub cmd))
  | @requestSub _ r => exact .inr (triggered_send w (.sub r.subCmd))
  | @requestUnsub _ r => exact .inr (triggered_send w (.unsub ⟨r.subCmd.sid, some 1⟩))
  | @requestPub _ r => exact .inr (triggered_send w (.pub r.pubCmd))
  | pingFire => exact .inr ((triggered_send w .ping).trans (.trigger _))
  | handleResubscribe => exact .inr (hands_sendAll w _).2
  | _ => exact .inr (.refl _)

theorem client_connection_refines {as : List ClientAction} (h : w.run as = some w') :
    ∃ bs : List Action, w.connection.run bs = some w'.connection := by
  induction as generalizing w with
  | nil => cases h; exact ⟨[], rfl⟩
  | cons a as ih =>
    obtain ⟨w₁, h₁, h₂⟩ := Option.bind_eq_some.mp h
    obtain ⟨bs, hbs⟩ := ih h₂
    obtain ⟨bs₁, hbs₁⟩ : ∃ bs₁, w.connection.run bs₁ = some w₁.connection := by
      rcases connection_step h₁ with ⟨b, -, hb⟩ | ht
      · exact ⟨[b], by simp [NatsConnection.run, hb]⟩
      · exact ht.run
    exact ⟨bs₁ ++ bs, by rw [NatsConnection.run_append, hbs₁, Option.some_bind, hbs]⟩

theorem Reachable.connection (hw : w.Reachable) : w.connection.Reachable := by
  induction hw with
  | create opts url => exact .create url
  | step a _ h ih =>
    rcases connection_step h with ⟨b, -, hb⟩ | ht
    · exact .step b ih hb
    · obtain ⟨bs, hbs⟩ := ht.run
      exact ih.run hbs

/-! ### A handler that cannot connect -/

theorem connect_step (hc : w.handler = .connect) (he : w.opts.ensureConnect = true)
    (ha : a ≠ .handleConnect true) (h : w.step a = some w') :
    w'.opts = w.opts ∧ w'.handler = .connect ∧ w'.signalsTaken = w.signalsTaken := by
  cases moves_of_step h with
  | handleTake hh _ | handleCloseSinks hh | handleClear hh | handleCloseControl hh
    | handleResetPings hh | handleRebuild hh | handleInstall hh | handleMarkConnected hh
    | handleResubscribe hh => rw [hc] at hh; cases hh
  | connectOk => exact absurd rfl ha
  | connectFail _ hne => rw [he] at hne; cases hne
  | _ => exact ⟨rfl, hc, rfl⟩

theorem handler_stuck_in_connect {as : List ClientAction} (hc : w.handler = .connect)
    (he : w.opts.ensureConnect = true) (hno : .handleConnect true ∉ as)
    (h : w.run as = some w') : w'.handler = .connect ∧ w'.signalsTaken = w.signalsTaken := by
  induction as generalizing w with
  | nil => cases h; exact ⟨hc, rfl⟩
  | cons a as ih =>
    obtain ⟨w₁, h₁, h₂⟩ := Option.bind_eq_some.mp h
    obtain ⟨ho, hc₁, hs₁⟩ :=
      connect_step hc he (fun e => hno (e ▸ List.mem_cons_self _ _)) h₁
    obtain ⟨hc', hs'⟩ := ih hc₁ (ho ▸ he) (fun hm => hno (List.mem_cons_of_mem _ hm)) h₂
    exact ⟨hc', hs'.trans hs₁⟩

/-! ### Control loops -/

theorem set_eq_self_of_getElem? {α : Type} {l : List α} {i : Nat} {x : α} (h : l[i]? = some x) :
    l.set i x = l := by
  refine List.ext_getElem? fun n => ?_
  rw [List.getElem?_set]
  split_ifs with h₁ h₂
  · rw [← h₁, h]
  · exact absurd (List.getElem?_eq_some_iff.mp h).1 h₂
  · rfl

def liveLoops (w : NatsClient) : List Bool := w.controlLoops.map ControlLoop.live

theorem liveLoops_set {l : Nat} {loop loop' : ControlLoop} (hl : w.controlLoops[l]? = some loop)
    (hlive : loop'.live = loop.live) :
    (w.controlLoops.set l loop').map ControlLoop.live = w.liveLoops := by
  rw [List.map_set, hlive]
  exact set_eq_self_of_getElem? (by rw [List.getElem?_map, hl]; rfl)

theorem liveLoops_pushControl (k : Nat) {op : Op} (hop : op ≠ .close) :
    (w.pushControl k op).liveLoops = w.liveLoops := by
  refine List.ext_getElem? fun n => ?_
  simp only [liveLoops, pushControl, List.getElem?_map, List.getElem?_modify]
  cases w.controlLoops[n]? <;> simp [apply_ite, ControlLoop.live_push, hop]

theorem liveLoops_pushControl_close (k : Nat) :
    (w.pushControl k .close).liveLoops = w.liveLoops.set k false := by
  refine List.ext_getElem? fun n => ?_
  simp only [liveLoops, pushControl, List.getElem?_map, List.getElem?_modify, List.getElem?_set,
    List.length_map]
  rcases Nat.lt_or_ge n w.controlLoops.length with hn | hn
  · rw [List.getElem?_eq_getElem hn]
    by_cases hk : k = n <;> simp [hk, hn, ControlLoop.live_push]
  · rw [List.getElem?_eq_none hn]
    split_ifs <;> first | rfl | omega

/-- The control loops of a reachable client. Every frame a multiplexer holds came from the server,
so none is a `CLOSE`. Outside the handler's switch-over the current loop is live, and inside it
it is not; once the handler has built the new loop, that loop is live; no other loop is. -/
structure LoopsOk (w : NatsClient) : Prop where
  frames : ∀ m ∈ w.multiplexers, ∀ f, m.frame = some f → f.fromServer
  current : w.liveLoops[w.controlTx]? = some !w.handler.switching
  installing : ∀ l, w.handler = .install l → w.liveLoops[l]? = some true
  others : ∀ l, w.liveLoops[l]? = some true → l = w.controlTx ∨ w.handler = .install l

theorem loopsOk_create (opts : NatsClientOptions) (url : Url) (sinkAnswers : Nat → SinkAnswer) :
    (create opts url sinkAnswers).LoopsOk where
  frames m hm f hf := by simp [create] at hm; subst hm; cases hf
  current := rfl
  installing _ h := nomatch h
  others l h := by
    left
    cases l with
    | zero => rfl
    | succ => simp [liveLoops, create] at h

theorem LoopsOk.of_eq (hw : w.LoopsOk)
    (hf : ∀ m ∈ w'.multiplexers, ∀ f, m.frame = some f → f.fromServer)
    (hl : w'.liveLoops = w.liveLoops) (hc : w'.controlTx = w.controlTx)
    (hs : w'.handler.switching = w.handler.switching)
    (hi : ∀ l, w'.handler = .install l ↔ w.handler = .install l) : w'.LoopsOk where
  frames := hf
  current := by rw [hl, hc, hs]; exact hw.current
  installing l h := hl ▸ hw.installing l ((hi l).mp h)
  others l h := by
    rw [hc, hi l]
    exact hw.others l (hl ▸ h)

theorem LoopsOk.frames_set (hw : w.LoopsOk) {d : Nat} {m : Multiplexer}
    (hm : ∀ f, m.frame = some f → f.fromServer) :
    ∀ m' ∈ w.multiplexers.set d m, ∀ f, m'.frame = some f → f.fromServer := fun m' hm' f hf => by
  rcases List.mem_or_eq_of_mem_set hm' with hm' | rfl
  · exact hw.frames m' hm' f hf
  · exact hm f hf

theorem LoopsOk.step (hw : w.LoopsOk) (h : w.step a = some w') : w'.LoopsOk := by
  cases moves_of_step h with
  | read _ hf =>
    exact hw.of_eq (hw.frames_set fun _ h => by cases h; exact hf) rfl rfl rfl fun _ => Iff.rfl
  | routeMsg | routeDrop => exact hw.of_eq (hw.frames_set fun _ h => nomatch h) rfl rfl rfl fun _ => Iff.rfl
  | @routeControl d c f hd _ =>
    have hop : f ≠ .close := by
      rintro rfl
      cases hw.frames _ (List.getElem?_mem hd) _ rfl
    exact hw.of_eq (hw.frames_set fun _ h => nomatch h) (liveLoops_pushControl c hop) rfl rfl fun _ => Iff.rfl
  | controlConnected hl => exact hw.of_eq hw.frames (liveLoops_set hl rfl) rfl rfl fun _ => Iff.rfl
  | controlClose hl _ _ hm | controlPing hl _ _ hm | controlErr hl _ _ hm =>
    exact hw.of_eq hw.frames (liveLoops_set hl (by simp [ControlLoop.live, hm])) rfl rfl
      fun _ => Iff.rfl
  | controlInfo hl hr _ hm =>
    exact hw.of_eq hw.frames (liveLoops_set hl (by simp [ControlLoop.live, hm, hr])) rfl rfl
      fun _ => Iff.rfl
  | @controlReset l loop op rest hl _ _ hm hop =>
    have hop : op ≠ .close := by rintro rfl; cases hop
    exact hw.of_eq hw.frames (liveLoops_set hl (by simp [ControlLoop.live, hm, Ne.symm hop]))
      rfl rfl fun _ => Iff.rfl
  | handleTake hh _ =>
    exact hw.of_eq hw.frames rfl rfl (by rw [hh]; split <;> rfl)
      fun l => by rw [hh]; split <;> simp
  | handleCloseSinks hh | handleClear hh | handleResetPings hh | handleMarkConnected hh
    | handleResubscribe hh | connectOk hh | connectFail hh _ =>
    exact hw.of_eq hw.frames rfl rfl (by rw [hh]; rfl) fun l => by simp [hh]
  | handleCloseControl hh =>
    have hlive := liveLoops_pushControl_close (w := w) w.controlTx
    have hlt : w.controlTx < w.liveLoops.length := (List.getElem?_eq_some_iff.mp hw.current).1
    refine ⟨hw.frames, ?_, (fun _ h => nomatch h), fun l hl => ?_⟩
    · show (w.pushControl w.controlTx .close).liveLoops[w.controlTx]? = _
      rw [hlive, List.getElem?_set_self hlt]
      rfl
    · change (w.pushControl w.controlTx .close).liveLoops[l]? = _ at hl
      rw [hlive, List.getElem?_set] at hl
      split_ifs at hl with he
      · cases hl
      · rcases hw.others l hl with rfl | h
        · exact absurd rfl he
        · rw [hh] at h; cases h
  | handleRebuild hh =>
    have hlen : w.controlLoops.length = w.liveLoops.length := (List.length_map _ _).symm
    have hlive : w.liveLoops ++ [true] =
        (w.controlLoops ++ [(⟨[], true, false⟩ : ControlLoop)]).map ControlLoop.live := by
      simp [liveLoops, ControlLoop.live]
    have hlt : w.controlTx < w.liveLoops.length := (List.getElem?_eq_some_iff.mp hw.current).1
    refine ⟨?_, ?_, fun l h => ?_, fun l hl => ?_⟩
    · intro m hm f hf
      rcases List.mem_append.mp hm with hm | hm
      · exact hw.frames m hm f hf
      · simp at hm; subst hm; cases hf
    · show ((w.controlLoops ++ _).map ControlLoop.live)[w.controlTx]? = _
      rw [← hlive, List.getElem?_append_left hlt, hw.current, hh]
      rfl
    · cases h
      show ((w.controlLoops ++ _).map ControlLoop.live)[_]? = _
      rw [← hlive, hlen, List.getElem?_concat_length]
    · change ((w.controlLoops ++ _).map ControlLoop.live)[l]? = _ at hl
      rw [← hlive] at hl
      have hl' : l < w.liveLoops.length + 1 := by simpa using (List.getElem?_eq_some_iff.mp hl).1
      rcases Nat.lt_succ_iff_lt_or_eq.mp hl' with hl' | rfl
      · rw [List.getElem?_append_left hl'] at hl
        rcases hw.others l hl with rfl | h
        · exact .inl rfl
        · rw [hh] at h; cases h
      · exact .inr (by rw [hlen])
  | @handleInstall c hh =>
    refine ⟨hw.frames, hw.installing c hh, (fun _ h => nomatch h), fun l hl => .inl ?_⟩
    rcases hw.others l hl with rfl | h
    · have : some true = some !w.handler.switching := hl.symm.trans hw.current
      simp [hh, HandlerPc.switching] at this
    · rw [hh] at h
      cases h
      rfl
  | _ => exact hw.of_eq hw.frames rfl rfl rfl fun _ => Iff.rfl

theorem Reachable.loopsOk (hw : w.Reachable) : w.LoopsOk := by
  induction hw with
  | create opts url sinkAnswers => exact loopsOk_create opts url sinkAnswers
  | step a _ h ih => exact ih.step h

theorem liveLoops_getElem? {l : Nat} {loop : ControlLoop} (hl : w.controlLoops[l]? = some loop) :
    w.liveLoops[l]? = some loop.live := by
  rw [liveLoops, List.getElem?_map, hl]
  rfl

theorem LoopsOk.live_cases (hw : w.LoopsOk) {l : Nat} (hl : w.liveLoops[l]? = some true) :
    w.handler.switching = false ∧ l = w.controlTx ∨ w.handler = .install l := by
  rcases hw.others l hl with rfl | h
  · have : some true = some !w.handler.switching := hl.symm.trans hw.current
    exact .inl ⟨by simpa using this.symm, rfl⟩
  · exact .inr h

theorem LoopsOk.eq_of_live (hw : w.LoopsOk) {l l' : Nat} (hl : w.liveLoops[l]? = some true)
    (hl' : w.liveLoops[l']? = some true) : l = l' := by
  rcases hw.live_cases hl with ⟨hs, rfl⟩ | h <;> rcases hw.live_cases hl' with ⟨hs', rfl⟩ | h'
  · rfl
  · simp [h', HandlerPc.switching] at hs
  · simp [h, HandlerPc.switching] at hs'
  · rw [h] at h'
    cases h'
    rfl

/-- At most one control loop of a reachable client is live, running with no `CLOSE` queued.
Outside the handler's switch-over the loop that `control_tx` feeds is live, and from the `CLOSE`
the handler sends it up to the build of the new loop none is. -/
theorem one_live_control_loop (hw : w.Reachable) :
    (∀ (l l' : Nat) (loop loop' : ControlLoop), w.controlLoops[l]? = some loop →
      w.controlLoops[l']? = some loop' →
      loop.live → loop'.live → l = l') ∧
    (w.handler.switching = false →
      ∃ loop, w.controlLoops[w.controlTx]? = some loop ∧ loop.live) ∧
    (w.handler = .resetPings ∨ w.handler = .rebuild →
      ∀ loop ∈ w.controlLoops, loop.live = false) := by
  have hok := hw.loopsOk
  refine ⟨fun l l' loop loop' hl hl' hlive hlive' => ?_, fun hs => ?_, fun hh loop hloop => ?_⟩
  · exact hok.eq_of_live (hlive ▸ liveLoops_getElem? hl) (hlive' ▸ liveLoops_getElem? hl')
  · have hcur := hok.current
    rw [hs, liveLoops, List.getElem?_map, Option.map_eq_some'] at hcur
    obtain ⟨loop, hl, hlive⟩ := hcur
    exact ⟨loop, hl, hlive⟩
  · obtain ⟨l, hl⟩ := List.mem_iff_getElem?.mp hloop
    by_contra hlive
    rcases hok.live_cases (by simpa [hlive] using liveLoops_getElem? hl) with ⟨hs, -⟩ | h
    · rcases hh with hh | hh <;> simp [hh, HandlerPc.switching] at hs
    · rcases hh with hh | hh <;> rw [hh] at h <;> cases h

def switchingSample : NatsClient :=
  (sample.run (reconnectRun ++ [.handle, .handle])).getD sample

theorem one_live_control_loop_switching :
    switchingSample.Reachable ∧ switchingSample.handler = .resetPings ∧
      ((∀ (l l' : Nat) (loop loop' : ControlLoop), switchingSample.controlLoops[l]? = some loop →
        switchingSample.controlLoops[l']? = some loop' → loop.live → loop'.live → l = l') ∧
      (switchingSample.handler.switching = false →
        ∃ loop, switchingSample.controlLoops[switchingSample.controlTx]? = some loop ∧ loop.live) ∧
      (switchingSample.handler = .resetPings ∨ switchingSample.handler = .rebuild →
        ∀ loop ∈ switchingSample.controlLoops, loop.live = false)) :=
  have hw : switchingSample.Reachable := Reachable.run (.create _ _ _)
    (show sample.run (reconnectRun ++ [.handle, .handle]) = some switchingSample from rfl)
  ⟨hw, rfl, one_live_control_loop hw⟩

end NatsClient

end Ratsio
