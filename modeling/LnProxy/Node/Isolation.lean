import LnProxy.Link.Fidelity

set_option autoImplicit false

/-! # Requests of many clients on one exit session (`Server.forwardOpen`)

The server has one session with each client and one with the exit. `forwardOpen` takes the request
of a client's stream and opens a stream for it on the exit session, under the id the client gave.
Every client counts its ids from 1, so two clients can bring the same id to the exit session, whose
map then keeps only the later stream. As long as the forwarded ids are all different
(`Hub.distinctIDs`), every frame of the exit reaches the stream of the request it answers
(`Hub.isolated_of_distinctIDs`). -/

namespace LnProxy

open Protocol Transition

/-! ## The server between its clients and an exit -/

structure Hub where
  /-- The link with each client: the client opens streams, the server accepts them. -/
  clients : Nat → Link
  /-- The link with the exit: the server opens streams, the exit accepts them. -/
  exit : Link
  /-- *History*: the client and its stream that a stream of the exit session was opened for. -/
  origin : Ref → Option (Nat × Ref)

inductive Hub.Label where
  | client (c : Nat) (l : Link.Label)
  | exit (l : Link.Label)
  /-- `forwardOpen` for stream `q` of client `c`, up to its call of `Dial` by goroutine `t`. -/
  | forwardOpen (c : Nat) (q : Ref) (t : Tid)
  deriving DecidableEq, Repr

namespace Hub

variable {json : Codec} {h h' : Hub} {l : Hub.Label}

def new : Hub where
  clients := fun _ => Link.new 0 0
  exit := Link.new 0 0
  origin := fun _ => none

/-- What happens on the exit's link. `Dial` gets the request as the client's stream has it. -/
def onExit (h : Hub) : Hub.Label → Option Link.Label
  | .client _ _ => none
  | .exit l => some l
  | .forwardOpen c q t =>
    some (.opener (.call t (.open ((h.clients c).acceptor.obj q).request)))

/-- Only `forwardOpen` opens streams to the exit, and it runs once for each stream the server's
    handler was called with. -/
def enabled (h : Hub) : Hub.Label → Bool
  | .exit (.opener l) => l.noOpen
  | .forwardOpen c q _ =>
    decide (q ∈ (h.clients c).acceptor.handled) &&
      (List.range h.exit.opener.count).all fun r => decide (h.origin r ≠ some (c, q))
  | _ => true

def step (json : Codec) (h : Hub) (l : Hub.Label) : Option Hub :=
  if h.enabled l then
    match l with
    | .client c l =>
      ((h.clients c).step json l).map fun k =>
        { h with clients := Function.update h.clients c k }
    | .exit l => (h.exit.step json l).map fun k => { h with exit := k }
    | .forwardOpen c q t =>
      (h.exit.step json (.opener
        (.call t (.open ((h.clients c).acceptor.obj q).request)))).map fun k =>
        { h with
          exit := k,
          origin := Function.update h.origin h.exit.opener.count (some (c, q)) }
  else none

/-! ## Conditions on runs -/

/-- What the code keeps to: clients count their requests from 1, a stream has one writer and one
    reader, and the exit opens no streams. -/
def proper (h : Hub) : Hub.Label → Bool
  | .client c l => (h.clients c).counted l
  | .exit (.opener l) => h.exit.opener.disciplined l
  | .exit (.acceptor l) => h.exit.acceptor.disciplined l && l.noOpen
  | .exit (.hangup _) | .forwardOpen _ _ _ => true

/-- The request that is forwarded has an id that no earlier stream of the exit session has. -/
def distinctIDs (h : Hub) : Hub.Label → Bool
  | .forwardOpen c q t =>
    h.exit.opener.newIDs (.call t (.open ((h.clients c).acceptor.obj q).request))
  | _ => true

end Hub

/-! ## Isolation -/

/-- A stream that is in use and not closed. -/
def Session.InUse (s : Session) (r : Ref) : Prop := s.Active r ∧ (s.obj r).closed = false

namespace Link

variable {json : Codec} {k : Link} {r q : Ref}

/-- The exit's stream `q` was made by the `FrameOpen` of the server's stream `r`. Frames arrive in
    order, so both stand at the same place. -/
def Paired (k : Link) (r q : Ref) : Prop :=
  ∃ (i : Nat) (f : Frame), k.opener.output[i]? = some (f, .opening r) ∧
    k.acceptor.input[i]? = some (f, some q)

/-- A frame the exit writes for this purpose answers the request of stream `r`: it is about the
    stream the request made, or it is the read loop's reply to a frame of `r`. -/
def Answers (k : Link) (r : Ref) : Purpose → Prop
  | .reply n => ∃ e, k.opener.output[n]? = some e ∧ r ∈ e.2.refs
  | purpose => ∃ q ∈ purpose.refs, k.Paired r q

/-- The streams of a link do not disturb each other. -/
structure Isolated (k : Link) : Prop where
  /-- No live stream has lost its entry in the map of the server's exit session. -/
  kept : ∀ r < k.opener.count, k.opener.InUse r → k.opener.streams (k.opener.obj r).id = some r
  /-- Nor in the map of the exit. -/
  keptAccepted : ∀ q < k.acceptor.count, k.acceptor.InUse q →
    k.acceptor.streams (k.acceptor.obj q).id = some q
  /-- The frame of the exit that the server is about to handle goes to the stream whose request it
      answers, and to no other one. -/
  routed : ∀ f rest purpose r, k.opener.threads .readLoop = .handle f :: rest →
    k.acceptor.output[k.opener.input.length]? = some (f, purpose) → k.Answers r purpose →
    (∀ r', k.opener.streams f.id = some r' → r' = r) ∧
      (k.opener.InUse r → k.opener.streams f.id = some r)
  /-- A stream gets the bytes written to its peer, in both directions. -/
  carried : ∀ r q, k.Paired r q →
    Carried k.opener r k.acceptor q ∧ Carried k.acceptor q k.opener r

/-! ## Ids tell streams apart -/

/-- A frame that mentions a stream has the stream's id. -/
theorem id_of_agrees {s : Session} {f : Frame} {purpose : Purpose}
    (h : s.Agrees json f purpose) (hr : r ∈ purpose.refs) : f.id = (s.obj r).id := by
  cases purpose with
  | opening _ =>
    obtain ⟨request, rfl, hid⟩ := h
    obtain rfl := List.mem_singleton.1 hr
    exact hid
  | accepting _ | rejecting _ | chunk _ _ _ =>
    obtain rfl := List.mem_singleton.1 hr
    exact h.2
  | closing _ =>
    obtain rfl := List.mem_singleton.1 hr
    rw [h]
    rfl
  | reply _ | control => cases hr

theorem Inv.paired_id (hk : k.Inv json) (h : k.Paired r q) : r < k.opener.count ∧
    q < k.acceptor.count ∧ (k.opener.obj r).id = (k.acceptor.obj q).id := by
  obtain ⟨i, f, hout, hin⟩ := h
  have hmem := List.mem_of_getElem? hout
  obtain ⟨request, rfl, hid⟩ := (hk.opener.written.output _ hmem).1
  obtain ⟨hq, decoded, hdecode, hdecoded⟩ :=
    hk.accepting.handed _ q (List.mem_of_getElem? hin) rfl
  refine ⟨hk.opener.wf.output _ hmem r (by simp [Purpose.refs]), hq, ?_⟩
  rw [← hid, ← hdecoded, decodeOpen_openFrame hdecode]

/-- The frame the exit handled at some place is the one the server wrote there. -/
theorem Inv.handled_eq (hk : k.Inv json) {n : Nat} {g : Frame} {tag : Option Ref}
    {e : Frame × Purpose} (hin : k.acceptor.input[n]? = some (g, tag))
    (hout : k.opener.output[n]? = some e) : e.1 = g := by
  obtain ⟨tail, htail⟩ := k.acceptor.frames_prefix_taken.trans hk.forward_prefix
  have hg : k.acceptor.frames[n]? = some g := by simp [Session.frames, hin]
  have he : k.opener.sentFrames[n]? = some e.1 := by simp [Session.sentFrames, hout]
  have hlt := (List.getElem?_eq_some_iff.1 hg).1
  rw [← htail, List.getElem?_append_left hlt, hg, Option.some.injEq] at he
  exact he.symm

/-- An answer has the id of the stream it answers. -/
theorem Inv.answers_id (hk : k.Inv json) {f : Frame} {purpose : Purpose}
    (hmem : (f, purpose) ∈ k.acceptor.output) (h : k.Answers r purpose) :
    r < k.opener.count ∧ f.id = (k.opener.obj r).id := by
  have hagrees := (hk.acceptor.written.output _ hmem).1
  by_cases hreply : ∃ n, purpose = .reply n
  · obtain ⟨n, rfl⟩ := hreply
    obtain ⟨g, hg, hid, -⟩ := hagrees
    obtain ⟨e, he, hr⟩ := h
    have hwritten := List.mem_of_getElem? he
    refine ⟨hk.opener.wf.output _ hwritten r hr, ?_⟩
    rw [hid, ← hk.handled_eq hg he]
    exact id_of_agrees (hk.opener.written.output _ hwritten).1 hr
  · obtain ⟨q, hq, hpaired⟩ : ∃ q ∈ purpose.refs, k.Paired r q := by
      cases purpose with
      | reply n => exact absurd ⟨n, rfl⟩ hreply
      | _ => exact h
    obtain ⟨hr, -, hid⟩ := hk.paired_id hpaired
    exact ⟨hr, by rw [id_of_agrees hagrees hq, hid]⟩

/-- **Different ids keep the streams of a link apart.** -/
theorem Inv.isolated (hk : k.Inv json) : k.Isolated where
  kept r hr hlive := hk.opener.owned.registered r hr hlive.2 hlive.1
  keptAccepted q hq hlive := hk.acceptor.owned.registered q hq hlive.2 hlive.1
  routed f rest purpose r _ hout hanswers := by
    obtain ⟨hr, hid⟩ := hk.answers_id (List.mem_of_getElem? hout) hanswers
    refine ⟨fun r' hr' => ?_, fun hlive => ?_⟩
    · obtain ⟨hlt, hid'⟩ := hk.opener.wf.streams _ _ hr'
      exact hk.opener.owned.ids r' hlt r hr (hid'.trans hid)
    · rw [hid]
      exact hk.opener.owned.registered r hr hlive.2 hlive.1
  carried r q hpaired := by
    obtain ⟨hr, hq, hid⟩ := hk.paired_id hpaired
    exact ⟨carried_of_initial hk.opener hk.acceptor hk.forward_prefix hr hq hid,
      carried_of_initial hk.acceptor hk.opener hk.backward_prefix hq hr hid.symm⟩

end Link

/-! ## Forwarded requests -/

namespace Hub

variable {json : Codec} {h h' : Hub} {l : Hub.Label}

/-- The exit session serves each forwarded stream of each client by a stream of its own, and those
    streams do not disturb each other. -/
structure Isolated (h : Hub) : Prop where
  /-- Every stream of the exit session was opened for a client. -/
  opened : ∀ r < h.exit.opener.count, ∃ c q, h.origin r = some (c, q)
  apart : ∀ r < h.exit.opener.count, ∀ r' < h.exit.opener.count, h.origin r = h.origin r' → r = r'
  exit : h.exit.Isolated

/-- What a step does on the exit's link and to the origins. -/
theorem step_cases (hstep : h.step json l = some h') :
    h.enabled l = true ∧
      (h.onExit l = none ∧ h'.exit = h.exit ∧ h'.origin = h.origin ∨
        (∃ l', l = .exit l' ∧ h.exit.step json l' = some h'.exit ∧ h'.origin = h.origin) ∨
        ∃ c q t, l = .forwardOpen c q t ∧
          h.exit.step json (.opener
            (.call t (.open ((h.clients c).acceptor.obj q).request))) = some h'.exit ∧
          h'.origin = Function.update h.origin h.exit.opener.count (some (c, q))) := by
  unfold step at hstep
  split at hstep
  · next henabled =>
    refine ⟨henabled, ?_⟩
    split at hstep
    · obtain ⟨k, -, rfl⟩ := Option.map_eq_some_iff.1 hstep
      exact Or.inl ⟨rfl, rfl, rfl⟩
    · next l' =>
      obtain ⟨k, hk, rfl⟩ := Option.map_eq_some_iff.1 hstep
      exact Or.inr (Or.inl ⟨l', rfl, hk, rfl⟩)
    · next c q t =>
      obtain ⟨k, hk, rfl⟩ := Option.map_eq_some_iff.1 hstep
      exact Or.inr (Or.inr ⟨c, q, t, rfl, hk, rfl⟩)
  · cases hstep

structure Inv (json : Codec) (h : Hub) : Prop where
  exit : h.exit.Inv json
  opened : ∀ r < h.exit.opener.count, ∃ c q, h.origin r = some (c, q)
  apart : ∀ r < h.exit.opener.count, ∀ r' < h.exit.opener.count, h.origin r = h.origin r' → r = r'

theorem new_inv (json : Codec) : Hub.new.Inv json where
  exit := Link.new_inv json 0 0
  opened r hr := absurd hr (Nat.not_lt_zero r)
  apart r hr := absurd hr (Nat.not_lt_zero r)

/-- Without a call of `Open` the opener of a link gets no new stream. -/
theorem opener_count_eq {k k' : Link} (hk : k.Inv json) {l : Link.Label}
    (hstep : k.step json l = some k')
    (hno : ∀ t request, l ≠ .opener (.call t (.open request))) :
    k'.opener.count = k.opener.count := by
  cases l with
  | acceptor l =>
    obtain ⟨c, s, -, -, rfl⟩ := Link.step_acceptor hstep
    rfl
  | hangup side => cases side <;> cases hstep <;> rfl
  | opener l =>
    obtain ⟨c, s, -, hs, rfl⟩ := Link.step_opener hstep
    cases (Session.step_steps hs).2 with
    | call hcalls hidle hcalled =>
      rcases hcalled.count_eq with hcount | ⟨request, rfl, -⟩
      · exact hcount
      · exact absurd rfl (hno _ request)
    | run hthread hran =>
      rcases hran.count_eq with hcount | ⟨-, frame, request, rfl, htype, -⟩
      · exact hcount
      · exact absurd htype (hk.not_open hthread)

theorem opener_count_open {k k' : Link} {t : Tid} {request : OpenRequest}
    (hstep : k.step json (.opener (.call t (.open request))) = some k') :
    k'.opener.count = k.opener.count + 1 := by
  obtain ⟨c, s, -, hs, rfl⟩ := Link.step_opener hstep
  cases (Session.step_steps hs).2 with
  | call hcalls hidle hcalled =>
    cases hcalled with
    | «open» => rfl

/-- **A step with a new id keeps the invariant.** -/
theorem Inv.step (hinv : h.Inv json) (hproper : h.proper l = true) (hids : h.distinctIDs l = true)
    (hstep : h.step json l = some h') : h'.Inv json := by
  obtain ⟨henabled, ⟨-, hexit, horigin⟩ | ⟨l', rfl, hlink, horigin⟩ |
    ⟨c, q, t, rfl, hlink, horigin⟩⟩ := step_cases hstep
  · refine ⟨hexit ▸ hinv.exit, ?_, ?_⟩
    · rw [hexit, horigin]
      exact hinv.opened
    · rw [hexit, horigin]
      exact hinv.apart
  · have hno : ∀ t request, l' ≠ .opener (.call t (.open request)) := by
      rintro t request rfl
      cases henabled
    have husable : h.exit.usable l' = true := by
      cases l' with
      | hangup side => rfl
      | acceptor l => exact hproper
      | opener l =>
        rw [Link.usable, show h.exit.opener.disciplined l = true from hproper, Bool.true_and]
        unfold Session.newIDs
        split
        · exact absurd rfl (hno _ _)
        · rfl
    have hcount := opener_count_eq hinv.exit hlink hno
    refine ⟨hinv.exit.step husable hlink, ?_, ?_⟩
    · rw [hcount, horigin]
      exact hinv.opened
    · rw [hcount, horigin]
      exact hinv.apart
  · have hcount := opener_count_open hlink
    have hnew : ∀ r < h.exit.opener.count, h.origin r ≠ some (c, q) := by
      simp only [enabled, Bool.and_eq_true, List.all_eq_true, List.mem_range,
        decide_eq_true_eq] at henabled
      exact henabled.2
    -- an older stream keeps its origin, the new one gets a new one
    have hold : ∀ r < h.exit.opener.count, h'.origin r = h.origin r := by
      intro r hr
      rw [horigin, Function.update_of_ne (Nat.ne_of_lt hr)]
    have hlast : h'.origin h.exit.opener.count = some (c, q) := by
      rw [horigin, Function.update_self]
    -- `forwardOpen` is a call of `Open`, which needs no discipline
    refine ⟨hinv.exit.step (by exact hids) hlink, ?_, ?_⟩
    · intro r hr
      rcases Nat.lt_succ_iff_lt_or_eq.1 (hcount ▸ hr) with hr | rfl
      · rw [hold r hr]
        exact hinv.opened r hr
      · exact ⟨c, q, hlast⟩
    · intro r hr r' hr' heq
      rcases Nat.lt_succ_iff_lt_or_eq.1 (hcount ▸ hr) with hr | rfl <;>
        rcases Nat.lt_succ_iff_lt_or_eq.1 (hcount ▸ hr') with hr' | rfl
      · rw [hold r hr, hold r' hr'] at heq
        exact hinv.apart r hr r' hr' heq
      · rw [hold r hr, hlast] at heq
        exact absurd heq (hnew r hr)
      · rw [hold r' hr', hlast] at heq
        exact absurd heq.symm (hnew r' hr')
      · rfl

/-- **Cross-client isolation.** In every state of every run in which no two requests that are
    forwarded to the exit session have the same id, the streams of the clients are isolated from each
    other on that session. -/
theorem isolated_of_distinctIDs {as : List Hub.Label}
    (hproper : Along (Hub.step json) (fun h l => h.proper l = true) Hub.new as)
    (hids : Along (Hub.step json) (fun h l => h.distinctIDs l = true) Hub.new as)
    (hrun : exec (Hub.step json) Hub.new as = some h) : h.Isolated := by
  have hboth := hproper.and hids
  have hinv : h.Inv json := exec_invariant (Hub.Inv json)
    (fun _ _ _ hinv hl hstep => hinv.step hl.1 hl.2 hstep) (new_inv json) hboth hrun
  exact ⟨hinv.opened, hinv.apart, hinv.exit.isolated⟩

/-! ## Two clients -/

/-- Steps of the link of client `c`: of the client, and of the server. -/
def byClient (c : Nat) (ls : List Link.Label) : List Hub.Label := ls.map (.client c)

/-- Steps of the link of the exit: of the server, and of the exit. -/
def byExit (ls : List Link.Label) : List Hub.Label := ls.map .exit

/-- The acceptor of a link hands the request with this id to its handler. -/
def arrives (id : UInt64) : List Link.Label :=
  Link.byAcceptor
    (turns .readLoop [.frame (openFrame sampleCodec (sampleRequest id)), .go, .go] ++
      turns .dispatchLoop [.go])

/-- It accepts its stream `r`, and the `Open` of the opener returns. -/
def accepts (r : Ref) (id : UInt64) : List Link.Label :=
  Link.byAcceptor (calling (.user 0) (.accept r) [.go, .go, .wrote]) ++
    Link.byOpener (turns .readLoop [.frame (ackFrame sampleCodec id ⟨true, "", "", ""⟩), .go, .go] ++
      turns (.user r) [.ack])

/-- Client `c` connects. -/
def connect (c : Nat) : List Hub.Label :=
  [.client c (.opener (.call (.user 0) (.start false))),
    .client c (.acceptor (.call (.user 0) (.start true)))]

/-- Client `c` opens its stream number `q`, which the server's handler gets. -/
def request (c : Nat) (q : Ref) : List Hub.Label :=
  byClient c (Link.byOpener (calling (.user q) (.open (sampleRequest 0)) [.go, .wrote]) ++
    arrives (.ofNat (q + 1)))

def connectExit : List Hub.Label :=
  [.exit (.opener (.call (.user 0) (.start true))),
    .exit (.acceptor (.call (.user 0) (.start true)))]

/-- The server forwards stream `q` of client `c`, and the exit accepts it as its stream `r`. -/
def forward (c : Nat) (q r : Ref) : List Hub.Label :=
  .forwardOpen c q (.user r) :: byExit (Link.byOpener (turns (.user r) [.go, .wrote]) ++
    arrives (.ofNat (q + 1)) ++ accepts r (.ofNat (q + 1)))

/-- The exit sends one byte on its stream `r`, and the server handles the frame. -/
def send (r : Ref) (id : UInt64) (byte : UInt8) : List Hub.Label :=
  byExit (Link.byAcceptor (calling (.writer r) (.write r [byte]) [.go, .go, .go, .wrote]) ++
    Link.byOpener (turns .readLoop [.frame (dataFrame id [byte]), .go, .go]))

/-- The server reads from its stream `r`. -/
def receive (r : Ref) : List Hub.Label :=
  byExit (Link.byOpener (calling (.reader r) (.read r 8) [.go, .go, .go]))

/-- The second client has its first request served elsewhere, so that the forwarded ids are 1
    and 2. -/
def separate : Hub :=
  after (Hub.step sampleCodec) Hub.new
    (connectExit ++ connect 0 ++ request 0 0 ++ connect 1 ++ request 1 0 ++ request 1 1 ++
      forward 0 0 0 ++ forward 1 1 1 ++ send 0 1 7 ++ receive 0)

theorem separate_isolated : separate.Isolated ∧
    (separate.exit.opener.obj 0).got = [7] ∧ (separate.exit.opener.obj 1).got = [] := by
  refine ⟨?_, by decide +kernel, by decide +kernel⟩
  exact isolated_of_distinctIDs (by decide +kernel) (by decide +kernel)
    (exec_after (by decide +kernel))

/-- Both clients forward their first request, which has the id 1; then the exit sends a byte for the
    first of them. -/
def collision : List Hub.Label :=
  connectExit ++ connect 0 ++ request 0 0 ++ connect 1 ++ request 1 0 ++ forward 0 0 0 ++
    forward 1 0 1 ++ send 0 1 7 ++ receive 1

def collided : Hub := after (Hub.step sampleCodec) Hub.new collision

/-- The second client's stream has taken the entry of the first one's, and gets its byte. -/
theorem collided_not_isolated :
    Along (Hub.step sampleCodec) (fun h l => h.proper l = true) Hub.new collision ∧
      exec (Hub.step sampleCodec) Hub.new collision = some collided ∧
      collided.origin 0 = some (0, 0) ∧ collided.origin 1 = some (1, 0) ∧
      (collided.exit.acceptor.obj 0).written = [7] ∧ (collided.exit.opener.obj 0).got = [] ∧
      (collided.exit.acceptor.obj 1).written = [] ∧ (collided.exit.opener.obj 1).got = [7] ∧
      ¬ collided.Isolated := by
  refine ⟨by decide +kernel, exec_after (by decide +kernel), by decide +kernel, by decide +kernel,
    by decide +kernel, by decide +kernel, by decide +kernel, by decide +kernel, fun hiso => ?_⟩
  have hlive : collided.exit.opener.InUse 0 := ⟨Or.inl (Or.inl (by decide +kernel)), by decide +kernel⟩
  have hentry : collided.exit.opener.streams (collided.exit.opener.obj 0).id = some 1 := by
    decide +kernel
  have hkept := hiso.exit.kept 0 (by decide +kernel) hlive
  rw [hentry] at hkept
  cases hkept

end Hub

end LnProxy
