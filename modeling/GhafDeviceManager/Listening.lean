import GhafDeviceManager.ConnectionOrder
import GhafDeviceManager.ServerSlots

/-!
# Clients

A client sends one line and reads what comes back: `exchange` the one reply, `listen_stream` a
reply and then notifications for as long as the connection lasts. A notification is never taken for
a reply, so what a client reads of a connection shows which is which. Lines that the codec or the
stream fails on are left out.
-/

namespace GhafDeviceManager

/-! ## Telling replies from notifications -/

theorem Notification.decode_encode (notification : Notification) :
    Response.decode notification.encode = none := by
  have hkeys : "result" ∉
      Entries.keys (("event", Value.string notification.event) :: notification.entries) := by
    cases notification <;> simp [Notification.entries]
  have hfield := Entries.field_of_notMem hkeys Value.asStr
  have hdecode : Response.decode notification.encode =
      (Entries.tagged Value.asStr "result" (("event", Value.string notification.event) ::
        notification.entries)).bind fun x => Response.read x.1 x.2 := rfl
  rw [hdecode, Entries.tagged, hfield]
  rfl

def Connection.wire (c : Connection) : List Value := c.output.map Sent.value

def Sent.response? : Sent → Option Response
  | .reply _ response => some response
  | .notice _ => none

theorem decode_value (sent : Sent) :
    Response.decode sent.value = sent.response?.map Response.sent := by
  cases sent with
  | reply line response => exact Response.decode_encode response
  | notice notification => exact notification.decode_encode

/-! ## A request and its reply -/

/-- `exchange` once a line is there, or the stream is at its end. -/
def exchange (received : List Value) (ended : Bool) : Option (Except Error Response) :=
  match received with
  | [] => if ended then some (.error ["API connection closed by remote"]) else none
  | first :: _ =>
    match Response.decode first with
    | some response => some (.ok response)
    | none => some (.error ["invalid JSON in API response"])

/-! ## Listening -/

/-- `listen_stream`: the values it has called back with, and the error it has returned, if it
has. -/
def listenStream (received : List Value) (ended : Bool) : List Value × Option Error :=
  match received with
  | [] => ([], if ended then some ["API connection closed by remote"] else none)
  | first :: rest =>
    match Response.decode first with
    | some (.ok _) => (rest, if ended then some ["API connection closed by remote"] else none)
    | some (.failed error) => ([], some ["failed to enable notifications: " ++ error])
    | none => ([], some ["invalid JSON in API response"])

section Clients

variable {api : Api} {w : World} {c : Connection} {line : Line}

theorem eq_map_notice {output : List Sent} (h : output.filterMap Sent.line? = []) :
    output = (output.filterMap Sent.notice?).map Sent.notice := by
  induction output with
  | nil => rfl
  | cons sent output ih =>
      cases sent with
      | reply line response => cases h
      | notice notification =>
          have hrest := ih h
          calc Sent.notice notification :: output
              = .notice notification :: (output.filterMap Sent.notice?).map Sent.notice := by
                rw [← hrest]
            _ = _ := rfl

/-- A connection that took one line at most has sent one reply at most, and before all notices. -/
theorem InOrder.output_of_line (h : InOrder api w c) (hread : c.read <+: [line]) :
    c.output = [] ∨ ∃ response notices, Answers api w.daemon line response ∧
      c.output = .reply line response :: notices.map .notice ∧ notices <+: c.taken := by
  obtain ⟨pending, hlines, -, -⟩ := h.lines
  obtain ⟨carried, htaken, -⟩ := h.notices
  obtain ⟨before, after, houtput, hquiet, hasked⟩ := h.asked
  have hanswered : c.output.filterMap Sent.line? <+: [line] :=
    (List.prefix_append _ pending).trans (hlines ▸ hread)
  cases hcase : c.output with
  | nil => exact .inl rfl
  | cons first rest =>
      right
      cases first with
      | notice notification =>
          -- a notice at the head would have come before the reply that asked for it
          exfalso
          cases before with
          | nil =>
              obtain rfl | ⟨line', response, hmem, -⟩ := hasked
              · rw [hcase] at houtput
                cases houtput
              · cases hmem
          | cons sent before =>
              rw [hcase, List.cons_append] at houtput
              obtain ⟨rfl, -⟩ := List.cons.inj houtput
              simp [Sent.notice?] at hquiet
      | reply line' response =>
          have hlines' : (Sent.reply line' response :: rest).filterMap Sent.line? =
              line' :: rest.filterMap Sent.line? := rfl
          have hnotices : (Sent.reply line' response :: rest).filterMap Sent.notice? =
              rest.filterMap Sent.notice? := rfl
          rw [hcase, hlines'] at hanswered
          obtain ⟨rfl, hrest⟩ := List.cons_prefix_cons.1 hanswered
          refine ⟨response, rest.filterMap Sent.notice?, ?_, ?_, ?_⟩
          · exact h.answers line' response (by rw [hcase]; exact List.mem_cons_self)
          · rw [← eq_map_notice (List.prefix_nil.1 hrest)]
          · rw [htaken, hcase, hnotices]
            exact List.prefix_append _ _

/-- Handling a request for notifications is nothing but a success. -/
theorem answers_enableNotifications {d : Daemon} {response : Response} (hline : line.Enables)
    (h : Answers api d line response) : response = .ok .none := by
  rw [Answers, hline] at h
  obtain ⟨result, hresult, rfl⟩ := h
  have hpure : (handleInner d api.boot .enableNotifications).run =
      Program.pure (.ok .none) := rfl
  rw [hpure, Program.canReturn_pure] at hresult
  rw [hresult]
  rfl

end Clients

/-! ## End to end -/

section Ends

variable {api : Api} {s : Server} {w : World} {transports : List ApiTransport} {c : Connection}

/-- Whatever other clients and the manager do meanwhile: a client that asked for notifications is
called back with nothing but notifications, in the order they were sent since its connection
subscribed, none of them twice, and all of them as long as the channel skipped none for it; and no
error comes of it but the end of the connection. -/
theorem listen_stream_in_order (h : Server.Reaches api (.start w transports) s)
    (hc : c ∈ s.connections) (hread : c.read <+: [.json Action.enableNotifications.encode])
    {received : List Value} (hreceived : received <+: c.wire) (ended : Bool) :
    ∃ given, (listenStream received ended).1 = given.map Notification.encode ∧
      (listenStream received ended).2 =
        (if ended then some ["API connection closed by remote"] else none) ∧
      given.Sublist (s.world.notifications.drop c.receiver.start) ∧
      (c.receiver.missed = 0 → given <+: s.world.notifications.drop c.receiver.start) := by
  have horder := inOrder_reaches h c hc
  have henables : (Line.json Action.enableNotifications.encode).Enables :=
    Action.decode_encode .enableNotifications
  obtain hnone | ⟨response, notices, hanswers, houtput, hnotices⟩ := horder.output_of_line hread
  · rw [Connection.wire, hnone] at hreceived
    obtain rfl := List.prefix_nil.1 hreceived
    exact ⟨[], rfl, rfl, List.nil_sublist _, fun _ => List.nil_prefix⟩
  · obtain rfl := answers_enableNotifications henables hanswers
    have hwire : c.wire = (Response.ok .none).encode :: notices.map Notification.encode := by
      rw [Connection.wire, houtput, List.map_cons, List.map_map]
      rfl
    cases received with
    | nil => exact ⟨[], rfl, rfl, List.nil_sublist _, fun _ => List.nil_prefix⟩
    | cons first rest =>
        rw [hwire] at hreceived
        obtain ⟨rfl, hrest⟩ := List.cons_prefix_cons.1 hreceived
        obtain ⟨given, hgiven, rfl⟩ := List.prefix_map_iff.1 hrest
        have hlisten : listenStream
            ((Response.ok .none).encode :: given.map Notification.encode) ended =
            (given.map Notification.encode,
              if ended then some ["API connection closed by remote"] else none) := by
          rw [listenStream, Response.decode_encode]
          rfl
        have htaken : given <+: c.taken := hgiven.trans hnotices
        refine ⟨given, by rw [hlisten], by rw [hlisten],
          htaken.sublist.trans horder.follows.sublist_drop, fun hmissed => ?_⟩
        rw [horder.follows.eq_of_missed_eq_zero hmissed, List.drop_take] at htaken
        exact htaken.trans (List.take_prefix _ _)

theorem Server.Reaches.connection {s₀ : Server} {c c' : Connection} {w' : World}
    (h : Server.Reaches api s₀ s) (hconnections : s.connections = [c])
    (hstep : c.Step api s.world w' c') (hopen : c'.isOpen = true) :
    Server.Reaches api s₀ { s with world := w', connections := [c'] } :=
  h.tail (.connection s [] [] c c' w' hconnections hstep ((c'.isOpen_iff).1 hopen))

end Ends

/-! ## A client that is called back once -/

def listenLine : Line := .json Action.enableNotifications.encode

def gone : Notification := .pciDisconnected "0000:01:00.0"

def asking (phase : Phase) (output : List Sent) : Connection where
  transport := .unix
  phase := phase
  enabled := true
  receiver := { start := 0, next := 0 }
  read := [listenLine]
  output := output

def listener : Connection where
  transport := .unix
  enabled := true
  receiver := { start := 0, next := 1 }
  read := [listenLine]
  taken := [gone]
  output := [.reply listenLine (.ok .none), .notice gone]

def goneHost : World := plainHost.record (.notified gone)

def listenServer : Server := { guestServer with world := goneHost, connections := [listener] }

theorem handleLine_listenLine :
    (Connection.accepted .unix 0 plainHost).handleLine guestApi plainHost.daemon listenLine =
      asking (.handling listenLine (.pure (.ok .none))) [] := by
  have hline : listenLine.action? = some .enableNotifications :=
    Action.decode_encode .enableNotifications
  rw [Connection.handleLine, hline]
  rfl

theorem reaches_listenServer :
    Server.Reaches guestApi (.start plainHost [.unix, .vsock]) listenServer := by
  have hasked : Server.Reaches guestApi (.start plainHost [.unix, .vsock])
      { guestServer with
        connections := [asking (.handling listenLine (.pure (.ok .none))) []] } :=
    reaches_guestServer.connection rfl
      (handleLine_listenLine ▸ Connection.Step.line plainHost _ listenLine rfl) rfl
  have hhandled : Server.Reaches guestApi (.start plainHost [.unix, .vsock])
      { guestServer with connections := [asking (.replying listenLine (.ok .none)) []] } :=
    hasked.connection rfl (.handled plainHost _ listenLine (.ok .none) rfl) rfl
  have hreplied : Server.Reaches guestApi (.start plainHost [.unix, .vsock])
      { guestServer with
        connections := [asking .reading [.reply listenLine (.ok .none)]] } :=
    hhandled.connection rfl (.replied plainHost _ listenLine (.ok .none) rfl) rfl
  have hgone : Server.Reaches guestApi (.start plainHost [.unix, .vsock])
      { guestServer with
        world := goneHost
        connections := [asking .reading [.reply listenLine (.ok .none)]] } :=
    hreplied.tail (.others _ goneHost (.op plainHost (.notify gone) {}))
  have hreceived : Server.Reaches guestApi (.start plainHost [.unix, .vsock])
      { guestServer with
        world := goneHost
        connections := [(asking .reading [.reply listenLine (.ok .none)]).receive
          { start := 0, next := 1 } (.value gone)] } :=
    hgone.connection rfl
      (.received goneHost _ { start := 0, next := 1 } (.value gone) rfl rfl rfl) rfl
  exact hreceived.connection rfl (.notified goneHost _ gone rfl) rfl

theorem connections_orderly_listener : InOrder guestApi listenServer.world listener :=
  connections_orderly reaches_listenServer listener (List.mem_singleton.2 rfl)

theorem listen_stream_in_order_listener :
    ∃ given, (listenStream listener.wire false).1 = given.map Notification.encode ∧
      (listenStream listener.wire false).2 =
        (if false then some ["API connection closed by remote"] else none) ∧
      given.Sublist (listenServer.world.notifications.drop listener.receiver.start) ∧
      (listener.receiver.missed = 0 →
        given <+: listenServer.world.notifications.drop listener.receiver.start) :=
  listen_stream_in_order reaches_listenServer (c := listener) (List.mem_singleton.2 rfl)
    List.prefix_rfl List.prefix_rfl false

example : (listenStream listener.wire false).1.length = 1 := by decide

end GhafDeviceManager
