import GhafDeviceManager.Listening

/-!
# Where a reply comes from

Connections are never taken off the list, so one is known by its place. What it replies with is the
result that handling the line came to, in an earlier state of the same run.
-/

namespace GhafDeviceManager

/-- A run of the server with all states it was in, the last one first. -/
inductive Server.Runs (api : Api) (s₀ : Server) : List Server → Server → Prop
  | start : Runs api s₀ [s₀] s₀
  | step {run : List Server} {s s' : Server} (h : Runs api s₀ run s)
      (hstep : Server.Step api s s') : Runs api s₀ (s' :: run) s'

/-- In some state of the run, the connection at this place had handled the line with this result. -/
def CameTo (run : List Server) (place : ℕ) (line : Line)
    (result : Except Error ResponsePayload) : Prop :=
  ∃ s ∈ run, ∃ c, s.connections[place]? = some c ∧ c.phase = .handling line (.pure result)

/-- Each response to a line that asks for something is what handling it came to. -/
def Told (run : List Server) (place : ℕ) (c : Connection) : Prop :=
  ∀ line response, (c.phase = .replying line response ∨ .reply line response ∈ c.output) →
    ∀ message, line.action? = some message →
      ∃ result, response = .ofResult result ∧ CameTo run place line result

section Runs

variable {api : Api} {s₀ s s' : Server} {run : List Server} {place : ℕ} {c c' : Connection}
  {line : Line} {result : Except Error ResponsePayload} {w w' : World}
  {transports : List ApiTransport}

theorem Server.Runs.reaches (h : Server.Runs api s₀ run s) : Server.Reaches api s₀ s := by
  induction h with
  | start => exact .refl
  | step _ hstep ih => exact ih.tail hstep

theorem Server.Runs.mem_self (h : Server.Runs api s₀ run s) : s ∈ run := by
  cases h <;> exact List.mem_cons_self

theorem Server.Runs.reaches_of_mem (h : Server.Runs api s₀ run s) (hmem : s' ∈ run) :
    Server.Reaches api s₀ s' := by
  induction h with
  | start =>
      obtain rfl := List.mem_singleton.1 hmem
      exact .refl
  | step h hstep ih =>
      obtain rfl | hearlier := List.mem_cons.1 hmem
      · exact h.reaches.tail hstep
      · exact ih hearlier

theorem Server.Reaches.runs (h : Server.Reaches api s₀ s) : ∃ run, Server.Runs api s₀ run s := by
  induction h with
  | refl => exact ⟨_, .start⟩
  | tail _ hstep ih =>
      obtain ⟨run, hrun⟩ := ih
      exact ⟨_, hrun.step hstep⟩

theorem CameTo.later (h : CameTo run place line result) (s : Server) :
    CameTo (s :: run) place line result := by
  obtain ⟨s', hs', hcame⟩ := h
  exact ⟨s', List.mem_cons_of_mem _ hs', hcame⟩

theorem Told.later (h : Told run place c) (s : Server) : Told (s :: run) place c := by
  intro line response hreplies message hmessage
  obtain ⟨result, hresponse, hcame⟩ := h line response hreplies message hmessage
  exact ⟨result, hresponse, hcame.later s⟩

theorem told_accepted (transport : ApiTransport) (cid : ℕ) (w : World) :
    Told run place (.accepted transport cid w) := by
  rintro line response (hphase | hmem)
  · cases hphase
  · cases hmem

/-- A connection that takes a step goes on telling what its handling came to. -/
theorem Told.step (h : Told run place c) (hs : s ∈ run) (hplace : s.connections[place]? = some c)
    (hstep : c.Step api w w' c') : Told run place c' := by
  intro line response hreplies message hmessage
  cases hstep with
  | line line' hphase =>
      unfold Connection.handleLine at hreplies
      split at hreplies
      case h_1 message' hmessage' =>
        obtain hnew | hold := hreplies
        · cases hnew
        · exact h line response (.inr hold) message hmessage
      case h_2 hnone =>
        obtain hnew | hold := hreplies
        · obtain ⟨rfl, -⟩ := Phase.replying.inj hnew
          rw [hnone] at hmessage
          cases hmessage
        · exact h line response (.inr hold) message hmessage
  | ended hphase =>
      obtain hnew | hold := hreplies
      · cases hnew
      · exact h line response (.inr hold) message hmessage
  | call line' op next choice hphase =>
      obtain hnew | hold := hreplies
      · cases hnew
      · exact h line response (.inr hold) message hmessage
  | handled line' result hphase =>
      obtain hnew | hold := hreplies
      · obtain ⟨rfl, rfl⟩ := Phase.replying.inj hnew
        exact ⟨result, rfl, s, hs, c, hplace, hphase⟩
      · exact h line response (.inr hold) message hmessage
  | replied line' response' hphase =>
      obtain hnew | hmem := hreplies
      · cases hnew
      · obtain hold | hlast := List.mem_append.1 hmem
        · exact h line response (.inr hold) message hmessage
        · obtain ⟨rfl, rfl⟩ := Sent.reply.inj (List.mem_singleton.1 hlast)
          exact h line response (.inl hphase) message hmessage
  | received receiver given hphase henabled hrecv =>
      cases given with
      | value notification =>
          obtain hnew | hold := hreplies
          · cases hnew
          · exact h line response (.inr hold) message hmessage
      | lagged count => exact h line response hreplies message hmessage
  | notified notification hphase =>
      obtain hnew | hmem := hreplies
      · cases hnew
      · obtain hold | hlast := List.mem_append.1 hmem
        · exact h line response (.inr hold) message hmessage
        · cases List.mem_singleton.1 hlast
  | unsent hphase =>
      obtain hnew | hold := hreplies
      · cases hnew
      · exact h line response (.inr hold) message hmessage

theorem getElem?_replace {α : Type} {before after : List α} {a b x : α}
    (h : (before ++ b :: after)[place]? = some x) :
    (place = before.length ∧ x = b) ∨ (before ++ a :: after)[place]? = some x := by
  by_cases heq : place = before.length
  · subst heq
    rw [List.getElem?_append_right le_rfl, Nat.sub_self] at h
    exact .inl ⟨rfl, (Option.some.inj h).symm⟩
  · right
    by_cases hlt : place < before.length
    · rw [List.getElem?_append_left hlt] at h ⊢
      exact h
    · obtain ⟨n, hn⟩ := Nat.exists_eq_succ_of_ne_zero (n := place - before.length) (by omega)
      rw [List.getElem?_append_right (by omega), hn] at h ⊢
      exact h

theorem told_step (hs : s ∈ run) (h : ∀ place c, s.connections[place]? = some c → Told run place c)
    (hstep : Server.Step api s s') :
    ∀ place c, s'.connections[place]? = some c → Told (s' :: run) place c := by
  have hmoved : ∀ {before after : List Connection} {c c' : Connection} {w' : World},
      s.connections = before ++ c :: after → c.Step api s.world w' c' →
        ∀ place x, (before ++ c' :: after)[place]? = some x → Told run place x := by
    intro before after c c' w' hconnections hmove place x hx
    obtain ⟨rfl, rfl⟩ | hother := getElem?_replace (a := c) hx
    · have hold : s.connections[before.length]? = some c := by
        rw [hconnections, List.getElem?_append_right le_rfl, Nat.sub_self]
        rfl
      exact (h _ _ hold).step hs hold hmove
    · rw [← hconnections] at hother
      exact h place x hother
  intro place c hc
  apply Told.later
  cases hstep with
  | accepted before after a cid =>
      by_cases hlt : place < s.connections.length
      · rw [List.getElem?_append_left hlt] at hc
        exact h place c hc
      · have hmem := List.mem_of_getElem? hc
        rw [List.getElem?_append_right (by omega)] at hc
        obtain rfl := List.mem_singleton.1 (List.mem_of_getElem? hc)
        exact told_accepted a.transport cid s.world
  | connection before after c₁ c₂ w' hconnections hmove =>
      exact hmoved hconnections hmove place c hc
  | disconnected before after c₁ c₂ w' hconnections hmove =>
      exact hmoved hconnections hmove place c hc
  | acquired => exact h place c hc
  | rejected => exact h place c hc
  | acceptFailed => exact h place c hc
  | retried => exact h place c hc
  | others w' hmoves => exact h place c hc

theorem told_runs (h : Server.Runs api (.start w transports) run s) :
    ∀ place c, s.connections[place]? = some c → Told run place c := by
  induction h with
  | start =>
      intro place c hc
      cases List.mem_of_getElem? hc
  | step h hstep ih => exact told_step h.mem_self ih hstep

theorem Server.Moves.daemon_eq (h : Server.Moves w w') : w'.daemon = w.daemon := h.grows.1

/-- The configuration stays as it is. -/
theorem daemon_reaches (h : Server.Reaches api (.start w transports) s) :
    s.world.daemon = w.daemon := by
  have hmoved : ∀ {w₁ w₂ : World}, w₂ = w₁ ∨ Server.Moves w₁ w₂ → w₂.daemon = w₁.daemon := by
    rintro w₁ w₂ (rfl | hmoves)
    · rfl
    · exact hmoves.daemon_eq
  induction h with
  | refl => rfl
  | tail _ hstep ih =>
      rw [← ih]
      cases hstep with
      | connection before after c c' w' hconnections hmove => exact hmoved hmove.moves
      | disconnected before after c c' w' hconnections hmove => exact hmoved hmove.moves
      | others w' hmoves => exact hmoves.daemon_eq
      | _ => rfl

theorem CameTo.canReturn (hrun : Server.Runs api (.start w transports) run s)
    (h : CameTo run place line result) {message : Action} (hmessage : line.action? = some message) :
    (handleInner w.daemon api.boot message).run.CanReturn result := by
  obtain ⟨s₁, hs₁, c, hc, hphase⟩ := h
  have hreaches := hrun.reaches_of_mem hs₁
  have hright := (inOrder_reaches hreaches c (List.mem_of_getElem? hc)).right
  rw [hphase, daemon_reaches hreaches] at hright
  obtain ⟨message', hmessage', hreturns⟩ := hright
  obtain rfl := Option.some.inj (hmessage.symm.trans hmessage')
  exact hreturns result (Program.canReturn_pure.2 rfl)

/-- A client that sends one request reads what the handling of it came to. -/
theorem exchange_answers (hrun : Server.Runs api (.start w transports) run s)
    (hc : s.connections[place]? = some c) {action : Action}
    (hread : c.read <+: [.json action.encode]) {first : Value} {rest : List Value}
    (hreceived : first :: rest <+: c.wire) (ended : Bool) :
    ∃ result, CameTo run place (.json action.encode) result ∧
      exchange (first :: rest) ended = some (.ok (Response.ofResult result).sent) := by
  have horder := inOrder_reaches hrun.reaches c (List.mem_of_getElem? hc)
  obtain hnone | ⟨reply, notices, -, houtput, -⟩ := horder.output_of_line hread
  · rw [Connection.wire, hnone] at hreceived
    cases List.prefix_nil.1 hreceived
  · have hreplied : Sent.reply (.json action.encode) reply ∈ c.output := by
      rw [houtput]
      exact List.mem_cons_self
    obtain ⟨result, rfl, hcame⟩ := told_runs hrun place c hc _ _ (.inr hreplied) action
      (Action.decode_encode action)
    rw [Connection.wire, houtput, List.map_cons] at hreceived
    obtain ⟨rfl, -⟩ := List.cons_prefix_cons.1 hreceived
    refine ⟨result, hcame, ?_⟩
    rw [exchange, decode_value]
    rfl

end Runs

end GhafDeviceManager
