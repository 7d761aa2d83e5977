import GhafDeviceManager.Api

/-!
# The slots of the API server

Every slot is free, with an acceptor, or with a connection that is not over. A client that is
turned away and an `accept` that fails give their slot back, so nothing a client does costs one for
good, and only as many clients as there are slots are served at once.
-/

namespace GhafDeviceManager

def Acceptor.holds (a : Acceptor) : Bool := a.state != .acquiring

def Connection.isOpen (c : Connection) : Bool :=
  match c.phase with
  | .closed => false
  | _ => true

theorem Connection.isOpen_iff (c : Connection) : c.isOpen = true ↔ c.phase ≠ .closed := by
  unfold Connection.isOpen
  cases c.phase <;> simp

namespace Connection

variable {api : Api} {w w' : World} {c c' : Connection}

theorem Step.isOpen (h : Step api w c w' c') : c.isOpen = true := by
  rw [isOpen_iff]
  intro hclosed
  cases h with
  | unsent hphase => simp [hclosed] at hphase
  | line line hphase | ended hphase | call line op next choice hphase | handled line result hphase
  | replied line response hphase | received receiver given hphase | notified notification hphase =>
      rw [hclosed] at hphase
      cases hphase

theorem Step.peer (h : Step api w c w' c') : c'.transport = c.transport ∧ c'.cid = c.cid := by
  cases h with
  | line line hphase =>
      unfold handleLine
      split <;> exact ⟨rfl, rfl⟩
  | received receiver given hphase henabled hrecv => cases given <;> exact ⟨rfl, rfl⟩
  | _ => exact ⟨rfl, rfl⟩

end Connection

namespace Server

variable {api : Api} {s s' : Server} {w : World} {transports : List ApiTransport}

def holding (s : Server) : ℕ := s.acceptors.countP Acceptor.holds

def served (s : Server) : ℕ := s.connections.countP Connection.isOpen

structure Slots (api : Api) (transports : List ApiTransport) (s : Server) : Prop where
  account : s.available + s.holding + s.served = maxConnections
  transports : s.acceptors.map Acceptor.transport = transports
  admitted : ∀ c ∈ s.connections, api.admits c.transport c.cid = true

theorem slots_start (w : World) (transports : List ApiTransport) :
    Slots api transports (start w transports) where
  account := by
    have hnone : (start w transports).holding = 0 := by
      simp [holding, start, Acceptor.holds, List.countP_eq_zero]
    rw [hnone]
    rfl
  transports := by simp [start, List.map_map, Function.comp_def]
  admitted := by simp [start]

theorem countP_replace {α : Type} (p : α → Bool) (before after : List α) (a : α) :
    (before ++ a :: after).countP p = before.countP p + after.countP p + (p a).toNat := by
  rw [List.countP_append, List.countP_cons]
  cases p a
  · exact rfl
  · exact (Nat.add_assoc _ _ _).symm

theorem forall_replace {α : Type} {P : α → Prop} {before after : List α} {a b : α}
    (h : ∀ x ∈ before ++ a :: after, P x) (hb : P b) : ∀ x ∈ before ++ b :: after, P x := by
  intro x hx
  rw [List.mem_append, List.mem_cons] at hx
  rcases hx with hbefore | rfl | hafter
  · exact h x (List.mem_append_left _ hbefore)
  · exact hb
  · exact h x (List.mem_append_right _ (List.mem_cons_of_mem _ hafter))

/-- An acceptor moves on: what slot it has less goes back or to new connections. -/
theorem Slots.setAcceptor (h : Slots api transports s) {before after : List Acceptor}
    {a : Acceptor} {state : Accepting} {available : ℕ} {connections more : List Connection}
    (hacceptors : s.acceptors = before ++ a :: after)
    (hconnections : connections = s.connections ++ more)
    (hslot : available + ({ a with state := state } : Acceptor).holds.toNat +
      more.countP Connection.isOpen = s.available + a.holds.toNat)
    (hadmits : ∀ c ∈ more, api.admits c.transport c.cid = true) :
    Slots api transports { s with
      available := available
      acceptors := before ++ { a with state := state } :: after
      connections := connections } where
  account := by
    have haccount := h.account
    unfold holding served at haccount ⊢
    rw [hacceptors, countP_replace] at haccount
    dsimp only
    rw [countP_replace, hconnections, List.countP_append]
    omega
  transports := by
    rw [← h.transports, hacceptors]
    simp
  admitted := by
    intro c hc
    rw [hconnections] at hc
    rcases List.mem_append.1 hc with hold | hnew
    · exact h.admitted c hold
    · exact hadmits c hnew

theorem Slots.setConnection (h : Slots api transports s) {before after : List Connection}
    {c c' : Connection} {w : World} {available : ℕ}
    (hconnections : s.connections = before ++ c :: after) (hstep : c.Step api s.world w c')
    (hslot : available + c'.isOpen.toNat = s.available + 1) :
    Slots api transports { s with
      world := w
      available := available
      connections := before ++ c' :: after } where
  account := by
    have haccount := h.account
    unfold holding served at haccount ⊢
    rw [hconnections, countP_replace, hstep.isOpen, Bool.toNat_true] at haccount
    dsimp only
    rw [countP_replace]
    omega
  transports := h.transports
  admitted := by
    have hadmitted := h.admitted
    rw [hconnections] at hadmitted
    refine forall_replace hadmitted ?_
    rw [hstep.peer.1, hstep.peer.2]
    exact hadmitted c (by simp)

theorem Slots.step (h : Slots api transports s) (hstep : Step api s s') :
    Slots api transports s' := by
  cases hstep with
  | acquired before after a hacceptors hstate havailable =>
      refine h.setAcceptor hacceptors (List.append_nil _).symm ?_ (by simp)
      simp only [Acceptor.holds, hstate, List.countP_nil]
      exact Nat.sub_add_cancel havailable
  | accepted before after a cid hacceptors hstate hadmits =>
      refine h.setAcceptor hacceptors rfl ?_ ?_
      · simp only [Acceptor.holds, hstate]
        rfl
      · intro c hc
        obtain rfl := List.mem_singleton.1 hc
        exact hadmits
  | rejected before after a cid hacceptors hstate hadmits =>
      refine h.setAcceptor hacceptors (List.append_nil _).symm ?_ (by simp)
      simp only [Acceptor.holds, hstate]
      rfl
  | acceptFailed before after a hacceptors hstate =>
      refine h.setAcceptor hacceptors (List.append_nil _).symm ?_ (by simp)
      simp only [Acceptor.holds, hstate]
      rfl
  | retried before after a hacceptors hstate =>
      refine h.setAcceptor hacceptors (List.append_nil _).symm ?_ (by simp)
      simp only [Acceptor.holds, hstate]
      rfl
  | connection before after c c' w hconnections hmove hopen =>
      refine h.setConnection hconnections hmove ?_
      rw [(Connection.isOpen_iff c').2 hopen]
      rfl
  | disconnected before after c c' w hconnections hmove hclosed =>
      refine h.setConnection hconnections hmove ?_
      have hover : c'.isOpen = false := by simp [Connection.isOpen, hclosed]
      rw [hover]
      rfl
  | others w hmoves => exact ⟨h.account, h.transports, h.admitted⟩

theorem slots_reaches (h : Reaches api (start w transports) s) : Slots api transports s := by
  induction h with
  | refl => exact slots_start w transports
  | tail _ hstep ih => exact ih.step hstep

/-- While an acceptor waits for a slot, others have all but one. -/
theorem holding_lt {a : Acceptor} (ha : a ∈ s.acceptors) (hstate : a.state = .acquiring) :
    s.holding < s.acceptors.length := by
  refine lt_of_le_of_ne List.countP_le_length fun heq => ?_
  have hholds := List.countP_eq_length.1 heq a ha
  rw [Acceptor.holds, hstate] at hholds
  cases hholds

/-- In every state that is reached each slot is free, with an acceptor or with a client that is
being served, and no client is served that its transport does not admit. So an acceptor that
cannot have a slot waits for clients: as many are served as there are slots for them beside the
other transports. -/
theorem serve_keeps_slots (h : Reaches api (start w transports) s) :
    s.available + s.holding + s.served = maxConnections ∧
      (∀ c ∈ s.connections, api.admits c.transport c.cid = true) ∧
      ∀ a ∈ s.acceptors, a.state = .acquiring → s.available = 0 →
        maxConnections < s.served + transports.length := by
  have hslots := slots_reaches h
  refine ⟨hslots.account, hslots.admitted, fun a ha hstate hnone => ?_⟩
  have hlt := holding_lt ha hstate
  have hlength : s.acceptors.length = transports.length := by
    rw [← hslots.transports, List.length_map]
  have haccount := hslots.account
  omega

end Server

/-! ## A client that is served and one that is turned away -/

def guestApi : Api where
  allowedCids := [3]
  boot :=
    { host :=
        { userFromName := fun _ => .ok none
          groupFromName := fun _ => .ok none
          chown := fun _ _ _ => .ok ()
          isFile := fun _ => false
          regex := fun _ => none }
      inputs := .ok [] }
  complaint := fun _ => "unknown variant"

def plainHost : World := { daemon := plainDaemon [] }

/-- One client is served over the socket; one with another CID waits for its `accept`. -/
def guestServer : Server where
  world := plainHost
  available := 62
  acceptors := [{ transport := .unix }, { transport := .vsock, state := .accepting }]
  connections := [.accepted .unix 0 plainHost]

theorem reaches_guestServer :
    Server.Reaches guestApi (.start plainHost [.unix, .vsock]) guestServer := by
  have hstart : Server.Reaches guestApi (.start plainHost [.unix, .vsock])
      (.start plainHost [.unix, .vsock]) := .refl
  have hunix := hstart.tail (.acquired (.start plainHost [.unix, .vsock]) []
    [{ transport := .vsock }] { transport := .unix } rfl rfl (by decide))
  have hclient := hunix.tail (.accepted _ [] [{ transport := .vsock }]
    { transport := .unix, state := .accepting } 0 rfl rfl rfl)
  exact hclient.tail (.acquired _ [{ transport := .unix }] [] { transport := .vsock } rfl rfl
    (by decide))

theorem reaches_rejected : Server.Reaches guestApi (.start plainHost [.unix, .vsock])
    { guestServer with
      available := 63
      acceptors := [{ transport := .unix }, { transport := .vsock }] } :=
  reaches_guestServer.tail (.rejected _ [{ transport := .unix }] []
    { transport := .vsock, state := .accepting } 4 rfl rfl (by decide))

theorem serve_keeps_slots_guest : 63 + 0 + guestServer.served = maxConnections ∧
    (∀ c ∈ guestServer.connections, guestApi.admits c.transport c.cid = true) ∧
    ∀ a ∈ [{ transport := .unix }, ({ transport := .vsock } : Acceptor)], a.state = .acquiring →
      63 = 0 → maxConnections < guestServer.served + 2 :=
  Server.serve_keeps_slots reaches_rejected

end GhafDeviceManager
