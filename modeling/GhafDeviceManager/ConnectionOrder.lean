import GhafDeviceManager.Api

/-!
# The order of a connection

A connection answers each line it takes before it takes the next, with what handling that line can
return. Notifications are passed on in the order they were sent, none twice and none before the
reply to the line that asked for them; one that is missing was skipped by the channel, which counts
them.
-/

namespace GhafDeviceManager

/-! ## What a program can return -/

section CanReturn

variable {Op : Type} {Reply : Op → Type} {α : Type}

/-- Some replies make the program return `a`. -/
def Program.CanReturn (p : Program Op Reply α) (a : α) : Prop := ∃ c, Replays p c a

theorem Program.canReturn_pure {a b : α} :
    (Program.pure a : Program Op Reply α).CanReturn b ↔ b = a := by
  constructor
  · rintro ⟨c, h⟩
    cases h
    rfl
  · rintro rfl
    exact ⟨[], .done _⟩

theorem Program.CanReturn.call {op : Op} {next : Reply op → Program Op Reply α} {r : Reply op}
    {a : α} (h : (next r).CanReturn a) : (Program.call op next).CanReturn a := by
  obtain ⟨c, h⟩ := h
  exact ⟨_, .call h⟩

end CanReturn

/-! ## The broadcast history -/

theorem notifications_react (w : World) (op : Op) (choice : Choice) :
    ∃ more, (react w op choice).2.notifications = w.notifications ++ more := by
  unfold World.notifications
  obtain hsame | ⟨effect, hlog, -⟩ := react_log w op choice
  · exact ⟨[], by rw [hsame, List.append_nil]⟩
  · exact ⟨[effect].filterMap Effect.notification?, by
      rw [hlog, List.reverse_cons, List.filterMap_append]⟩

theorem Server.Moves.grows {w w' : World} (h : Server.Moves w w') :
    w'.daemon = w.daemon ∧ ∃ more, w'.notifications = w.notifications ++ more := by
  cases h with
  | op op choice => exact ⟨react_daemon w op choice, notifications_react w op choice⟩
  | surroundings h =>
      refine ⟨h.daemon, [], ?_⟩
      rw [World.notifications, h.log, List.append_nil]
      rfl

theorem Connection.Step.moves {api : Api} {w w' : World} {c c' : Connection}
    (h : Connection.Step api w c w' c') : w' = w ∨ Server.Moves w w' := by
  cases h with
  | call line op next choice hphase => exact .inr (.op w op choice)
  | _ => exact .inl rfl

/-! ## Lines and their answers -/

def Sent.line? : Sent → Option Line
  | .reply line _ => some line
  | .notice _ => none

def Sent.notice? : Sent → Option Notification
  | .reply _ _ => none
  | .notice notification => some notification

def Phase.pending : Phase → List Line
  | .handling line _ | .replying line _ => [line]
  | _ => []

def Phase.carried : Phase → List Notification
  | .notifying notification => [notification]
  | _ => []

def Line.Enables (line : Line) : Prop := line.action? = some .enableNotifications

/-- A response that handling the line can come to; a line that asks for nothing is rejected. -/
def Answers (api : Api) (d : Daemon) (line : Line) (response : Response) : Prop :=
  match line.action? with
  | some message => ∃ result,
      (handleInner d api.boot message).run.CanReturn result ∧ response = .ofResult result
  | none => response = api.rejection line

/-- What is left of handling a line returns nothing that handling it could not. -/
def Handles (api : Api) (d : Daemon) (line : Line)
    (rest : Program Op Reply (Except Error ResponsePayload)) : Prop :=
  ∃ message, line.action? = some message ∧
    ∀ result, rest.CanReturn result → (handleInner d api.boot message).run.CanReturn result

/-- The line a connection is at is being answered rightly. -/
def Phase.Right (api : Api) (d : Daemon) : Phase → Prop
  | .handling line rest => Handles api d line rest
  | .replying line response => Answers api d line response
  | _ => True

/-- No notice before the reply to a line that asks for them. -/
def Asked (output : List Sent) : Prop :=
  ∃ before after, output = before ++ after ∧ before.filterMap Sent.notice? = [] ∧
    (after = [] ∨ ∃ line response, .reply line response ∈ before ∧ line.Enables)

structure InOrder (api : Api) (w : World) (c : Connection) : Prop where
  /-- The lines answered, in order, are those taken, up to the one being handled. -/
  lines : ∃ pending, c.read = c.output.filterMap Sent.line? ++ pending ∧ pending.length ≤ 1 ∧
    (c.phase ≠ .closed → pending = c.phase.pending)
  answers : ∀ line response, .reply line response ∈ c.output → Answers api w.daemon line response
  /-- The notices passed on, in order, are those taken, up to the one being sent. -/
  notices : ∃ carried, c.taken = c.output.filterMap Sent.notice? ++ carried ∧
    (c.phase ≠ .closed → carried = c.phase.carried)
  follows : c.receiver.Follows w.notifications c.taken
  asked : Asked c.output
  right : c.phase.Right api w.daemon
  enabled : c.enabled = true → ∃ line ∈ c.read, line.Enables
  notifying : ∀ notification, c.phase = .notifying notification → c.enabled = true

section Steps

variable {api : Api} {w w' : World} {c c' : Connection}

theorem inOrder_accepted (transport : ApiTransport) (cid : ℕ) (w : World) :
    InOrder api w (.accepted transport cid w) where
  lines := ⟨[], rfl, by simp, fun _ => rfl⟩
  answers := by simp [Connection.accepted]
  notices := ⟨[], rfl, fun _ => rfl⟩
  follows := Receiver.follows_subscribe _
  asked := ⟨[], [], rfl, rfl, .inl rfl⟩
  right := trivial
  enabled := by simp [Connection.accepted]
  notifying := by simp [Connection.accepted]

theorem InOrder.moves (h : InOrder api w c) (hmoves : Server.Moves w w') : InOrder api w' c := by
  obtain ⟨hdaemon, more, hmore⟩ := hmoves.grows
  refine ⟨h.lines, ?_, h.notices, ?_, h.asked, ?_, h.enabled, h.notifying⟩
  · rw [hdaemon]
    exact h.answers
  · rw [hmore]
    exact h.follows.send more
  · rw [hdaemon]
    exact h.right

/-- Nothing is pending at the head of the loop, so a line that asked for notices is answered. -/
theorem InOrder.told (h : InOrder api w c) (hphase : c.phase.pending = [])
    (hopen : c.phase ≠ .closed) (henabled : c.enabled = true) :
    ∃ line response, .reply line response ∈ c.output ∧ line.Enables := by
  obtain ⟨line, hline, hasks⟩ := h.enabled henabled
  obtain ⟨pending, hread, -, hpending⟩ := h.lines
  rw [hpending hopen, hphase, List.append_nil] at hread
  rw [hread] at hline
  obtain ⟨sent, hsent, hreply⟩ := List.mem_filterMap.1 hline
  cases sent with
  | reply line' response =>
      obtain rfl : line' = line := Option.some.inj hreply
      exact ⟨line', response, hsent, hasks⟩
  | notice notification => cases hreply

theorem Asked.reply {output : List Sent} (h : Asked output) (line : Line) (response : Response) :
    Asked (output ++ [.reply line response]) := by
  obtain ⟨before, after, rfl, hquiet, rfl | hasked⟩ := h
  · refine ⟨before ++ [.reply line response], [], by simp, ?_, .inl rfl⟩
    rw [List.filterMap_append, hquiet]
    rfl
  · exact ⟨before, after ++ [.reply line response], List.append_assoc _ _ _, hquiet, .inr hasked⟩

theorem Asked.notice {output : List Sent} (h : Asked output)
    (hasked : ∃ line response, .reply line response ∈ output ∧ line.Enables)
    (notification : Notification) : Asked (output ++ [.notice notification]) := by
  obtain ⟨before, after, rfl, hquiet, rfl | hbefore⟩ := h
  · rw [List.append_nil] at hasked ⊢
    exact ⟨before, [.notice notification], rfl, hquiet, .inr hasked⟩
  · exact ⟨before, after ++ [.notice notification], List.append_assoc _ _ _, hquiet, .inr hbefore⟩

theorem InOrder.handleLine (h : InOrder api w c) (hphase : c.phase = .reading) (line : Line) :
    InOrder api w (c.handleLine api w.daemon line) := by
  obtain ⟨pending, hread, -, hpending⟩ := h.lines
  obtain ⟨carried, htaken, hcarried⟩ := h.notices
  have hopen : c.phase ≠ .closed := by simp [hphase]
  have hnone : pending = [] := by rw [hpending hopen, hphase]; rfl
  have hnotice : carried = [] := by rw [hcarried hopen, hphase]; rfl
  rw [hnone, List.append_nil] at hread
  unfold Connection.handleLine
  split
  case h_1 message hmessage =>
    refine ⟨⟨[line], by rw [hread], by simp, fun _ => rfl⟩, h.answers,
      ⟨[], by rw [htaken, hnotice], fun _ => rfl⟩, h.follows, h.asked,
      ⟨message, hmessage, fun _ hresult => hresult⟩, ?_, by simp⟩
    intro henabled
    rcases Bool.or_eq_true_iff.1 henabled with hold | hnew
    · obtain ⟨line', hline', hasks⟩ := h.enabled hold
      exact ⟨line', List.mem_append_left _ hline', hasks⟩
    · refine ⟨line, by simp, ?_⟩
      rw [Line.Enables, hmessage, of_decide_eq_true hnew]
  case h_2 hmessage =>
    refine ⟨⟨[line], by rw [hread], by simp, fun _ => rfl⟩, h.answers,
      ⟨[], by rw [htaken, hnotice], fun _ => rfl⟩, h.follows, h.asked, ?_, ?_, by simp⟩
    · change Answers api w.daemon line (api.rejection line)
      rw [Answers, hmessage]
    · intro henabled
      obtain ⟨line', hline', hasks⟩ := h.enabled henabled
      exact ⟨line', List.mem_append_left _ hline', hasks⟩

/-- A connection that is over leaves at most one line without an answer. -/
theorem InOrder.close (h : InOrder api w c) : InOrder api w { c with phase := .closed } := by
  obtain ⟨pending, hread, hlength, -⟩ := h.lines
  obtain ⟨carried, htaken, -⟩ := h.notices
  exact ⟨⟨pending, hread, hlength, fun hopen => absurd rfl hopen⟩, h.answers,
    ⟨carried, htaken, fun hopen => absurd rfl hopen⟩, h.follows, h.asked, trivial, h.enabled,
    by simp⟩

theorem InOrder.replied (h : InOrder api w c) {line : Line} {response : Response}
    (hphase : c.phase = .replying line response) :
    InOrder api w { c with
      phase := .reading
      output := c.output ++ [.reply line response] } := by
  obtain ⟨pending, hread, -, hpending⟩ := h.lines
  obtain ⟨carried, htaken, hcarried⟩ := h.notices
  have hopen : c.phase ≠ .closed := by simp [hphase]
  have hright := h.right
  rw [hphase] at hright
  refine ⟨⟨[], ?_, by simp, fun _ => rfl⟩, ?_, ⟨[], ?_, fun _ => rfl⟩, h.follows,
    h.asked.reply line response, trivial, h.enabled, by simp⟩
  · rw [hread, hpending hopen, hphase, List.filterMap_append, List.append_nil]
    rfl
  · intro line' response' hmem
    rcases List.mem_append.1 hmem with hold | hnew
    · exact h.answers line' response' hold
    · obtain ⟨rfl, rfl⟩ := Sent.reply.inj (List.mem_singleton.1 hnew)
      exact hright
  · rw [htaken, hcarried hopen, hphase, List.filterMap_append, List.append_nil]
    rfl

theorem InOrder.notified (h : InOrder api w c) {notification : Notification}
    (hphase : c.phase = .notifying notification) :
    InOrder api w { c with
      phase := .reading
      output := c.output ++ [.notice notification] } := by
  obtain ⟨pending, hread, -, hpending⟩ := h.lines
  obtain ⟨carried, htaken, hcarried⟩ := h.notices
  have hopen : c.phase ≠ .closed := by simp [hphase]
  have hasked := h.told (by rw [hphase]; rfl) hopen (h.notifying _ hphase)
  refine ⟨⟨[], ?_, by simp, fun _ => rfl⟩, ?_, ⟨[], ?_, fun _ => rfl⟩, h.follows,
    h.asked.notice hasked notification, trivial, h.enabled, by simp⟩
  · rw [hread, hpending hopen, hphase, List.filterMap_append, List.append_nil]
    rfl
  · intro line' response' hmem
    rcases List.mem_append.1 hmem with hold | hnew
    · exact h.answers line' response' hold
    · cases List.mem_singleton.1 hnew
  · rw [htaken, hcarried hopen, hphase, List.filterMap_append, List.append_nil]
    rfl

theorem InOrder.receive (h : InOrder api w c) (hphase : c.phase = .reading)
    (henabled : c.enabled = true) {receiver : Receiver} {given : Received Notification}
    (hrecv : c.receiver.recv notificationCapacity w.notifications = some (given, receiver)) :
    InOrder api w (c.receive receiver given) := by
  obtain ⟨pending, hread, hlength, hpending⟩ := h.lines
  obtain ⟨carried, htaken, hcarried⟩ := h.notices
  have hopen : c.phase ≠ .closed := by simp [hphase]
  have hnone : pending = [] := by rw [hpending hopen, hphase]; rfl
  cases given with
  | value notification =>
      refine ⟨⟨pending, hread, hlength, fun _ => hnone⟩, h.answers,
        ⟨[notification], ?_, fun _ => rfl⟩, h.follows.recv_value hrecv, h.asked, trivial,
        h.enabled, fun _ _ => henabled⟩
      change c.taken ++ [notification] = _
      rw [htaken, hcarried hopen, hphase]
      simp [Phase.carried, Connection.receive]
  | lagged count =>
      exact ⟨⟨pending, hread, hlength, hpending⟩, h.answers, ⟨carried, htaken, hcarried⟩,
        h.follows.recv_lagged hrecv, h.asked, h.right, h.enabled, h.notifying⟩

theorem InOrder.step (h : InOrder api w c) (hstep : c.Step api w w' c') : InOrder api w' c' := by
  cases hstep with
  | line line hphase => exact h.handleLine hphase line
  | ended hphase => exact h.close
  | call line op next choice hphase =>
      have hmoved := h.moves (.op w op choice)
      have hright := hmoved.right
      obtain ⟨pending, hread, hlength, hpending⟩ := hmoved.lines
      obtain ⟨carried, htaken, hcarried⟩ := hmoved.notices
      have hopen : c.phase ≠ .closed := by simp [hphase]
      rw [hphase] at hright
      obtain ⟨message, hmessage, hreturns⟩ := hright
      refine ⟨⟨pending, hread, hlength, fun _ => ?_⟩, hmoved.answers,
        ⟨carried, htaken, fun _ => ?_⟩, hmoved.follows, hmoved.asked,
        ⟨message, hmessage, fun result hresult => hreturns result hresult.call⟩, hmoved.enabled,
        by simp⟩
      · rw [hpending hopen, hphase]
        rfl
      · rw [hcarried hopen, hphase]
        rfl
  | handled line result hphase =>
      have hright := h.right
      obtain ⟨pending, hread, hlength, hpending⟩ := h.lines
      obtain ⟨carried, htaken, hcarried⟩ := h.notices
      have hopen : c.phase ≠ .closed := by simp [hphase]
      rw [hphase] at hright
      obtain ⟨message, hmessage, hreturns⟩ := hright
      refine ⟨⟨pending, hread, hlength, fun _ => ?_⟩, h.answers, ⟨carried, htaken, fun _ => ?_⟩,
        h.follows, h.asked, ?_, h.enabled, by simp⟩
      · rw [hpending hopen, hphase]
        rfl
      · rw [hcarried hopen, hphase]
        rfl
      · change Answers api w.daemon line (.ofResult result)
        rw [Answers, hmessage]
        exact ⟨result, hreturns result (Program.canReturn_pure.2 rfl), rfl⟩
  | replied line response hphase => exact h.replied hphase
  | received receiver given hphase henabled hrecv => exact h.receive hphase henabled hrecv
  | notified notification hphase => exact h.notified hphase
  | unsent hphase => exact h.close

end Steps

/-! ## Over whole runs -/

section Runs

variable {api : Api} {s s' : Server} {w : World} {transports : List ApiTransport}

theorem inOrder_step (h : ∀ c ∈ s.connections, InOrder api s.world c)
    (hstep : Server.Step api s s') : ∀ c ∈ s'.connections, InOrder api s'.world c := by
  have hmoved : ∀ {before after : List Connection} {c c' : Connection} {w' : World},
      s.connections = before ++ c :: after → c.Step api s.world w' c' →
        ∀ x ∈ before ++ c' :: after, InOrder api w' x := by
    intro before after c c' w' hconnections hmove x hx
    rw [hconnections] at h
    have hother : x ∈ before ++ c :: after → InOrder api w' x := by
      intro hold
      rcases hmove.moves with rfl | hmoves
      · exact h x hold
      · exact (h x hold).moves hmoves
    rw [List.mem_append, List.mem_cons] at hx
    rcases hx with hbefore | rfl | hafter
    · exact hother (List.mem_append_left _ hbefore)
    · exact (h c (by simp)).step hmove
    · exact hother (List.mem_append_right _ (List.mem_cons_of_mem _ hafter))
  cases hstep with
  | acquired => exact h
  | accepted before after a cid =>
      intro c hc
      rcases List.mem_append.1 hc with hold | hnew
      · exact h c hold
      · obtain rfl := List.mem_singleton.1 hnew
        exact inOrder_accepted a.transport cid s.world
  | rejected => exact h
  | acceptFailed => exact h
  | retried => exact h
  | connection before after c c' w' hconnections hmove => exact hmoved hconnections hmove
  | disconnected before after c c' w' hconnections hmove => exact hmoved hconnections hmove
  | others w' hmoves => exact fun c hc => (h c hc).moves hmoves

theorem inOrder_reaches (h : Server.Reaches api (.start w transports) s) :
    ∀ c ∈ s.connections, InOrder api s.world c := by
  induction h with
  | refl => simp [Server.start]
  | tail _ hstep ih => exact inOrder_step ih hstep

/-- In every interleaving of clients, acceptors, requests and the manager's own work, each
connection is in order. -/
theorem connections_orderly (h : Server.Reaches api (.start w transports) s) :
    ∀ c ∈ s.connections, InOrder api s.world c := inOrder_reaches h

end Runs

end GhafDeviceManager
