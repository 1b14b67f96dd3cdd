import LnProxy.Node.Isolation
import LnProxy.Session.Answers
import LnProxy.Session.CopyDirection

set_option autoImplicit false

/-! # From the client through the server to the exit

A forwarded connection runs over two links: the client's link with the server, and the server's link
with the exit. In between the server's `session.Relay` copies in both directions. Each link carries
bytes faithfully (`Carried`), and so does each of the two copies (`Copied`); together the exit reads
what the client has written and the client reads what the exit has written, for any number of clients
at once and in any order of the steps (`Hub.Faithful`). -/

namespace LnProxy

open Protocol Transition

/-! ## One way -/

/-- What the reader of stream `d` gets of what was written to stream `a`, when the streams `b` and
    `c` in between are joined by a copy: a first part of it, and all of it by the time of `io.EOF`,
    unless one of the four streams is closed by force, the copy has failed to read from `b`, or the
    session has not handed `c` over to the server: its `Open` has not returned it. -/
def CarriedThrough (near : Session) (a : Ref) (inner : Session) (b : Ref) (outer : Session) (c : Ref)
    (far : Session) (d : Ref) : Prop :=
  (far.obj d).got <+: (near.obj a).written ∧
    ((far.obj d).gotEOF = true → (near.obj a).closed = false → (inner.obj b).closed = false →
      ¬ outer.Stopped c → (far.obj d).closed = false → (outer.obj c).owned = true →
      (outer.obj c).sourceErr = none → (far.obj d).got = (near.obj a).written)

/-- `io.EOF` at one end comes from a `CloseWrite` at the other end. -/
theorem localEOF_of_eof {json : Codec} {s s' : Session} (hs : s.Inv json) (hs' : s'.Inv json)
    (hfifo : s'.taken <+: s.sentFrames) {r q : Ref} (hr : r < s.count) (hq : q < s'.count)
    (hid : (s.obj r).id = (s'.obj q).id) (heof : (s'.obj q).gotEOF = true)
    (hopen : (s.obj r).closed = false) (howned : (s.obj r).owned = true) :
    (s.obj r).localEOF = true := by
  obtain ⟨pre, f, post, hframes, htype, hfid, -⟩ := hs'.received.got_of_eof hq heof
  have hsent : f ∈ s.sentFrames := by
    refine (s'.frames_prefix_taken.trans hfifo).subset ?_
    rw [hframes]
    simp
  obtain ⟨⟨g, purpose⟩, hmem, hg⟩ := List.mem_map.1 hsent
  have hg : g = f := hg
  subst hg
  rcases (hs.written.output _ hmem).1.of_close htype with ⟨r', rfl, hr'⟩ | ⟨n, d, rfl, hd, hdata, hdid⟩
  · have hlt : r' < s.count := hs.wf.output _ hmem r' (by simp [Purpose.refs])
    obtain rfl : r' = r := hs.owned.ids r' hlt r hr (hr'.symm.trans (hfid.trans hid.symm))
    obtain ⟨before, behind, hout⟩ := List.append_of_mem hmem
    exact (hs.sends.closed before _ behind _ hout).1
  · -- the read loop has answered data that found no stream; but this one is in use
    rcases hs.written.unknown r hr d (List.mem_of_getElem? hd) hdata
      (hdid.symm.trans (hfid.trans hid.symm)) with hclosed | hno
    · rw [hopen] at hclosed
      cases hclosed
    · exact absurd (Or.inl (Or.inl howned)) hno

/-- **Two carried streams and a copy between them.** -/
theorem carriedThrough_of_copied {near inner outer far : Session} {a b c d : Ref}
    (hin : Carried near a inner b) (hcopy : Session.Copied inner b outer c)
    (hout : Carried outer c far d)
    (hend : (far.obj d).gotEOF = true → (outer.obj c).closed = false →
      (outer.obj c).owned = true → (outer.obj c).localEOF = true) :
    CarriedThrough near a inner b outer c far d := by
  refine ⟨hout.1.trans (hcopy.moved.trans hin.1), ?_⟩
  intro heof hnear hinner hrunning hfar howned hfailed
  have houter : (outer.obj c).closed = false :=
    Bool.eq_false_of_not_eq_true fun hclosed => hrunning (Or.inl hclosed)
  rcases hcopy.ended (Or.inr (hend heof houter howned)) with h | h | h | ⟨heof', hall⟩
  · exact absurd h hrunning
  · exact absurd hfailed h
  · rw [hinner] at h
    cases h
  · rw [hout.2 heof houter hfar, hall, hin.2 heof' hnear hinner]

/-! ## The relays of a server -/

namespace Hub

variable {json : Codec} {h h' : Hub} {l : Hub.Label}

/-- A stream that nobody has written to, and nobody is about to. -/
def untouched (s : Session) (q : Ref) : Bool :=
  decide (s.threads (.writer q) = [] ∧ (s.obj q).written = [] ∧ (s.obj q).localEOF = false)

/-- The relay of a forwarded stream: `ok` at the pair of streams it joins. -/
def eachRelay (h : Hub) (ok : Nat → Ref → Ref → Bool) : Bool :=
  (List.range h.exit.opener.count).all fun r =>
    match h.origin r with
    | some (c, q) => ok c q r
    | none => true

/-- What `session.Relay` does at the server: `copyDirection(exitStream, stream)` writes to the exit's
    stream what it reads from the client's, and `copyDirection(stream, exitStream)` the other way
    round. `forwardOpen` is the first to work on a client's stream. -/
def relaying (h : Hub) : Hub.Label → Bool
  | .client c (.acceptor l) =>
    h.eachRelay fun c' q r => decide (c' ≠ c) ||
      (Session.copyWrites h.exit.opener r (h.clients c).acceptor q l &&
        Session.copyReads (h.clients c).acceptor q h.exit.opener r l)
  | .exit (.opener l) =>
    h.eachRelay fun c q r =>
      Session.copyWrites (h.clients c).acceptor q h.exit.opener r l &&
        Session.copyReads h.exit.opener r (h.clients c).acceptor q l
  | .forwardOpen c q _ => untouched (h.clients c).acceptor q
  | _ => true

/-- The stream `r₁` of client `c` is forwarded: the server has it as `q` and has opened `r` for it,
    which the exit has as `q₂`. -/
structure Joined (h : Hub) (c : Nat) (r₁ q r q₂ : Ref) : Prop where
  client : r₁ < (h.clients c).opener.count
  accepted : q < (h.clients c).acceptor.count
  clientID : ((h.clients c).opener.obj r₁).id = ((h.clients c).acceptor.obj q).id
  opened : r < h.exit.opener.count
  origin : h.origin r = some (c, q)
  exit : q₂ < h.exit.acceptor.count
  exitID : (h.exit.opener.obj r).id = (h.exit.acceptor.obj q₂).id

/-- Every stream of the exit serves exactly one stream of one client, and carries its bytes in both
    directions. -/
structure Faithful (h : Hub) : Prop where
  served : ∀ q₂ < h.exit.acceptor.count, ∃ c r₁ q r, h.Joined c r₁ q r q₂
  single : ∀ {c c' : Nat} {r₁ r₁' q q' r r' q₂ q₂' : Ref}, h.Joined c r₁ q r q₂ →
    h.Joined c' r₁' q' r' q₂' → (q₂ = q₂' ↔ c = c' ∧ r₁ = r₁')
  outward : ∀ {c : Nat} {r₁ q r q₂ : Ref}, h.Joined c r₁ q r q₂ →
    CarriedThrough (h.clients c).opener r₁ (h.clients c).acceptor q h.exit.opener r
      h.exit.acceptor q₂
  inward : ∀ {c : Nat} {r₁ q r q₂ : Ref}, h.Joined c r₁ q r q₂ →
    CarriedThrough h.exit.acceptor q₂ h.exit.opener r (h.clients c).acceptor q
      (h.clients c).opener r₁

/-! ## The invariant -/

structure Relayed (json : Codec) (h : Hub) : Prop where
  hub : h.Inv json
  clients : ∀ c, (h.clients c).Inv json ∧ Link.Numbered (h.clients c).opener
  handled : ∀ c, ∀ q ∈ (h.clients c).acceptor.handled, q < (h.clients c).acceptor.count
  copied : ∀ r < h.exit.opener.count, ∀ c q, h.origin r = some (c, q) →
    q < (h.clients c).acceptor.count ∧
      Session.Copied (h.clients c).acceptor q h.exit.opener r ∧
      Session.Copied h.exit.opener r (h.clients c).acceptor q

theorem Relayed.faithful (hr : h.Relayed json) : h.Faithful where
  served q₂ hq₂ := by
    obtain ⟨r, hlt, hid, -⟩ := hr.hub.exit.peer hq₂
    obtain ⟨c, q, horigin⟩ := hr.hub.opened r hlt
    obtain ⟨hq, -⟩ := hr.copied r hlt c q horigin
    obtain ⟨r₁, hr₁, hid₁, -⟩ := (hr.clients c).1.peer hq
    exact ⟨c, r₁, q, r, hr₁, hq, hid₁, hlt, horigin, hq₂, hid⟩
  single := by
    intro c c' r₁ r₁' q q' r r' q₂ q₂' hj hj'
    constructor
    · rintro rfl
      obtain rfl : r = r' :=
        hr.hub.exit.opener.owned.ids r hj.opened r' hj'.opened (hj.exitID.trans hj'.exitID.symm)
      have horigin := hj.origin.symm.trans hj'.origin
      obtain ⟨rfl, rfl⟩ : c = c' ∧ q = q' := by simpa using horigin
      exact ⟨rfl, (hr.clients c).1.opener.owned.ids r₁ hj.client r₁' hj'.client
        (hj.clientID.trans hj'.clientID.symm)⟩
    · rintro ⟨rfl, rfl⟩
      obtain rfl : q = q' := (hr.clients c).1.acceptor.owned.ids q hj.accepted q' hj'.accepted
        (hj.clientID.symm.trans hj'.clientID)
      obtain rfl : r = r' :=
        hr.hub.apart r hj.opened r' hj'.opened (hj.origin.trans hj'.origin.symm)
      exact hr.hub.exit.acceptor.owned.ids q₂ hj.exit q₂' hj'.exit
        (hj.exitID.symm.trans hj'.exitID)
  outward := by
    intro c r₁ q r q₂ hj
    have hk := (hr.clients c).1
    have hx := hr.hub.exit
    refine carriedThrough_of_copied ?_ (hr.copied r hj.opened c q hj.origin).2.1 ?_ ?_
    · exact carried_of_initial hk.opener hk.acceptor hk.forward_prefix hj.client hj.accepted
        hj.clientID
    · exact carried_of_initial hx.opener hx.acceptor hx.forward_prefix hj.opened hj.exit hj.exitID
    · exact localEOF_of_eof hx.opener hx.acceptor hx.forward_prefix hj.opened hj.exit hj.exitID
  inward := by
    intro c r₁ q r q₂ hj
    have hk := (hr.clients c).1
    have hx := hr.hub.exit
    refine carriedThrough_of_copied ?_ (hr.copied r hj.opened c q hj.origin).2.2 ?_ ?_
    · exact carried_of_initial hx.acceptor hx.opener hx.backward_prefix hj.exit hj.opened
        hj.exitID.symm
    · exact carried_of_initial hk.acceptor hk.opener hk.backward_prefix hj.accepted hj.client
        hj.clientID.symm
    · exact localEOF_of_eof hk.acceptor hk.opener hk.backward_prefix hj.accepted hj.client
        hj.clientID.symm

/-- The pairs of streams whose relays a condition is about. -/
theorem eachRelay_apply {ok : Nat → Ref → Ref → Bool} (hall : h.eachRelay ok = true) {r : Ref}
    (hr : r < h.exit.opener.count) {c : Nat} {q : Ref} (horigin : h.origin r = some (c, q)) :
    ok c q r = true := by
  have := List.all_eq_true.1 hall r (List.mem_range.2 hr)
  rwa [horigin] at this

/-- A step of a link is a step of its opener, or leaves it alone. -/
theorem opener_steps {k k' : Link} {l : Link.Label} (hstep : k.step json l = some k') :
    k'.opener = k.opener ∨ ∃ l', l = .opener l' ∧ Session.Steps json k.opener l' k'.opener := by
  cases l with
  | opener l =>
    obtain ⟨c, s, -, hs, rfl⟩ := Link.step_opener hstep
    exact Or.inr ⟨l, rfl, (Session.step_steps hs).2⟩
  | acceptor l =>
    obtain ⟨c, s, -, -, rfl⟩ := Link.step_acceptor hstep
    exact Or.inl rfl
  | hangup side => cases side <;> cases hstep <;> exact Or.inl rfl

theorem acceptor_steps {k k' : Link} {l : Link.Label} (hstep : k.step json l = some k') :
    k'.acceptor = k.acceptor ∨
      ∃ l', l = .acceptor l' ∧ Session.Steps json k.acceptor l' k'.acceptor := by
  cases l with
  | acceptor l =>
    obtain ⟨c, s, -, hs, rfl⟩ := Link.step_acceptor hstep
    exact Or.inr ⟨l, rfl, (Session.step_steps hs).2⟩
  | opener l =>
    obtain ⟨c, s, -, -, rfl⟩ := Link.step_opener hstep
    exact Or.inl rfl
  | hangup side => cases side <;> cases hstep <;> exact Or.inl rfl

theorem handled_lt {s s' : Session} {l : LnProxy.Label} (hw : s.Wf)
    (hlt : ∀ q ∈ s.handled, q < s.count) (hsteps : Session.Steps json s l s') :
    ∀ q ∈ s'.handled, q < s'.count := by
  intro q hq
  refine Nat.lt_of_lt_of_le ?_ hsteps.count_le
  cases hsteps with
  | call hcalls hidle hcalled => exact hlt q (hcalled.handled_eq ▸ hq)
  | run hthread hran => exact (hran.handled_mem hq).elim (hlt q) (hw.incoming q)

theorem new_relayed (json : Codec) : Hub.new.Relayed json where
  hub := new_inv json
  clients _ := ⟨Link.new_inv json 0 0, Link.new_numbered 0⟩
  handled _ _ hq := absurd hq List.not_mem_nil
  copied r hr := absurd hr (Nat.not_lt_zero r)

/-- What the relay of one pair keeps to in a step of the client's session. -/
theorem relaying_client {c : Nat} {l : LnProxy.Label}
    (hrelay : h.relaying (.client c (.acceptor l)) = true) {r : Ref}
    (hr : r < h.exit.opener.count) {q : Ref} (horigin : h.origin r = some (c, q)) :
    Session.copyWrites h.exit.opener r (h.clients c).acceptor q l = true := by
  have hpair := eachRelay_apply hrelay hr horigin
  simp only [ne_eq, not_true_eq_false, decide_false, Bool.false_or, Bool.and_eq_true] at hpair
  exact hpair.1

theorem relaying_exit {l : LnProxy.Label} (hrelay : h.relaying (.exit (.opener l)) = true) {r : Ref}
    (hr : r < h.exit.opener.count) {c : Nat} {q : Ref} (horigin : h.origin r = some (c, q)) :
    Session.copyWrites (h.clients c).acceptor q h.exit.opener r l = true := by
  have hpair := eachRelay_apply hrelay hr horigin
  rw [Bool.and_eq_true] at hpair
  exact hpair.1

/-- **A step on a client's link keeps the relays.** -/
theorem Relayed.client_step (hr : h.Relayed json) (hinv : h'.Inv json) {c : Nat} {l : Link.Label}
    {k : Link} (hcounted : (h.clients c).counted l = true)
    (hrelay : h.relaying (.client c l) = true) (hlink : (h.clients c).step json l = some k)
    (hh' : h' = { h with clients := Function.update h.clients c k }) : h'.Relayed json := by
  have hk := (hr.clients c).1
  have hsame : ∀ c', c' ≠ c → h'.clients c' = h.clients c' := by
    intro c' hc'
    rw [hh']
    exact Function.update_of_ne hc' ..
  have hnew : h'.clients c = k := by
    rw [hh']
    exact Function.update_self ..
  have hexit : h'.exit = h.exit := by rw [hh']
  have horigins : h'.origin = h.origin := by rw [hh']
  refine ⟨hinv, fun c' => ?_, fun c' => ?_, fun r hlt c' q horigin => ?_⟩
  · by_cases hc' : c' = c
    · subst hc'
      rw [hnew]
      exact Link.numbered_step (hr.clients c') hcounted hlink
    · rw [hsame c' hc']
      exact hr.clients c'
  · by_cases hc' : c' = c
    · subst hc'
      rw [hnew]
      rcases acceptor_steps hlink with heq | ⟨l', -, hsteps⟩
      · rw [heq]
        exact hr.handled c'
      · exact handled_lt hk.acceptor.wf (hr.handled c') hsteps
    · rw [hsame c' hc']
      exact hr.handled c'
  · rw [hexit] at hlt ⊢
    rw [horigins] at horigin
    obtain ⟨hq, hout, hin⟩ := hr.copied r hlt c' q horigin
    by_cases hc' : c' = c
    · subst hc'
      rw [hnew]
      rcases acceptor_steps hlink with heq | ⟨l', rfl, hsteps⟩
      · rw [heq]
        exact ⟨hq, hout, hin⟩
      · exact ⟨Nat.lt_of_lt_of_le hq hsteps.count_le,
          hout.steps hin hk.acceptor hq (relaying_client hrelay hlt horigin) hsteps⟩
    · rw [hsame c' hc']
      exact ⟨hq, hout, hin⟩

/-- A step of the exit session that keeps to what the relays do, keeps them. -/
theorem Relayed.exit_copied (hr : h.Relayed json) {l : LnProxy.Label} {s' : Session}
    (hsteps : Session.Steps json h.exit.opener l s') {r : Ref} (hlt : r < h.exit.opener.count)
    {c : Nat} {q : Ref} (horigin : h.origin r = some (c, q))
    (hok : Session.copyWrites (h.clients c).acceptor q h.exit.opener r l = true) :
    q < (h.clients c).acceptor.count ∧ Session.Copied (h.clients c).acceptor q s' r ∧
      Session.Copied s' r (h.clients c).acceptor q := by
  obtain ⟨hq, hout, hin⟩ := hr.copied r hlt c q horigin
  exact ⟨hq, (hin.steps hout hr.hub.exit.opener hlt hok hsteps).symm⟩

/-- A relay that has just begun has copied nothing. -/
theorem copied_new (hr : h.Relayed json) {c : Nat} {q : Ref} {s' : Session}
    (huntouched : untouched (h.clients c).acceptor q = true) {t : Tid} {request : OpenRequest}
    (hsteps : Session.Steps json h.exit.opener (.call t (.open request)) s') :
    Session.Copied (h.clients c).acceptor q s' h.exit.opener.count ∧
      Session.Copied s' h.exit.opener.count (h.clients c).acceptor q := by
  obtain ⟨hidle, hwritten, hlocal⟩ := of_decide_eq_true huntouched
  have hobj : (s'.obj h.exit.opener.count).written = [] ∧
      (s'.obj h.exit.opener.count).localEOF = false := by
    cases hsteps with
    | call hcalls hidle' hcalled =>
      cases hcalled with
      | «open» => simp [Session.alloc, newStream]
  -- no goroutine knows the new stream, except the one that opens it
  have hfresh : .closeWrite h.exit.opener.count ∉ s'.threads (.writer h.exit.opener.count) := by
    intro hmem
    cases hsteps with
    | call hcalls hidle' hcalled =>
      rcases hcalled.mem_threads hmem with hold | ⟨-, hnew⟩ | ⟨-, heq⟩ | ⟨-, heq⟩
      · have := hr.hub.exit.opener.wf.refs _ _ hold h.exit.opener.count (by simp [Act.refs])
        exact absurd this (Nat.lt_irrefl _)
      · cases hcalled with
        | «open» => simp at hnew
      · cases heq
      · cases heq
  refine ⟨⟨?_, ?_⟩, ⟨?_, ?_⟩⟩
  · rw [hobj.1]
    exact List.nil_prefix
  · rintro (hmem | hend)
    · exact absurd hmem hfresh
    · rw [hobj.2] at hend
      cases hend
  · rw [hwritten]
    exact List.nil_prefix
  · rintro (hmem | hend)
    · rw [hidle] at hmem
      cases hmem
    · rw [hlocal] at hend
      cases hend

/-- A step is one on a client's link, or leaves the clients alone. -/
theorem step_client (hstep : h.step json l = some h') :
    (∃ c l' k, l = .client c l' ∧ (h.clients c).step json l' = some k ∧
      h' = { h with clients := Function.update h.clients c k }) ∨
      h.onExit l ≠ none ∧ h'.clients = h.clients := by
  unfold step at hstep
  split at hstep
  · cases l with
    | client c l' =>
      obtain ⟨k, hk, rfl⟩ := Option.map_eq_some_iff.1 hstep
      exact Or.inl ⟨c, l', k, rfl, hk, rfl⟩
    | exit _ | forwardOpen _ _ _ =>
      obtain ⟨k, -, rfl⟩ := Option.map_eq_some_iff.1 hstep
      exact Or.inr ⟨by simp [onExit], rfl⟩
  · cases hstep

/-- **Every step keeps the relays.** -/
theorem Relayed.step (hr : h.Relayed json) (hproper : h.proper l = true)
    (hids : h.distinctIDs l = true) (hrelay : h.relaying l = true)
    (hstep : h.step json l = some h') : h'.Relayed json := by
  have hinv := hr.hub.step hproper hids hstep
  rcases step_client hstep with ⟨c, l', k, rfl, hlink, hh'⟩ | ⟨hexit, hclients⟩
  · exact hr.client_step hinv hproper hrelay hlink hh'
  · refine ⟨hinv, ?_, ?_, ?_⟩
    · rw [hclients]
      exact hr.clients
    · rw [hclients]
      exact hr.handled
    · rw [hclients]
      obtain ⟨henabled, ⟨hnone, -⟩ | ⟨l', rfl, hlink, horigins⟩ | ⟨c, q, t, rfl, hlink, horigins⟩⟩ :=
        step_cases hstep
      · exact absurd hnone hexit
      · rw [horigins]
        intro r hlt c q horigin
        rcases opener_steps hlink with heq | ⟨l, rfl, hsteps⟩
        · rw [heq] at hlt ⊢
          exact hr.copied r hlt c q horigin
        · have hcount : h'.exit.opener.count = h.exit.opener.count := by
            refine opener_count_eq hr.hub.exit hlink ?_
            rintro t request heq
            cases heq
            cases henabled
          rw [hcount] at hlt
          exact hr.exit_copied hsteps hlt horigin (relaying_exit hrelay hlt horigin)
      · rcases opener_steps hlink with heq | ⟨l, hl, hsteps⟩
        · have hcount := opener_count_open hlink
          rw [heq] at hcount
          omega
        · cases hl
          intro r hlt c' q' horigin
          rcases Nat.lt_succ_iff_lt_or_eq.1 (opener_count_open hlink ▸ hlt) with hlt | rfl
          · rw [horigins, Function.update_of_ne (Nat.ne_of_lt hlt)] at horigin
            exact hr.exit_copied hsteps hlt horigin rfl
          · rw [horigins, Function.update_self] at horigin
            obtain ⟨rfl, rfl⟩ : c = c' ∧ q = q' := by simpa using horigin
            refine ⟨hr.handled c q ?_, copied_new hr hrelay hsteps⟩
            simp only [enabled, Bool.and_eq_true, decide_eq_true_eq] at henabled
            exact henabled.1

/-- **End to end.** In every state of every run of a server, its clients and an exit in which the
    forwarded requests have different ids and the server relays as `session.Relay` does, every stream
    of the exit serves exactly one stream of one client, and carries its bytes in both directions. -/
theorem faithful_of_relaying {as : List Hub.Label}
    (hproper : Along (Hub.step json) (fun h l => h.proper l = true) Hub.new as)
    (hids : Along (Hub.step json) (fun h l => h.distinctIDs l = true) Hub.new as)
    (hrelay : Along (Hub.step json) (fun h l => h.relaying l = true) Hub.new as)
    (hrun : exec (Hub.step json) Hub.new as = some h) : h.Faithful :=
  (exec_invariant (Hub.Relayed json)
    (fun _ _ _ hr hl hstep => hr.step hl.1.1 hl.1.2 hl.2 hstep) (new_relayed json)
    ((hproper.and hids).and hrelay) hrun).faithful

/-! ## A connection -/

/-- The server accepts the first stream of client 0, and starts the two goroutines of `Relay`. -/
def acceptAndRelay : List Hub.Label :=
  byClient 0 (accepts 0 1) ++
    [.client 0 (.acceptor (.call (.writer 0) (.relay 0))),
      .exit (.opener (.call (.writer 0) (.relay 0)))]

/-- The acceptor of a link handles two bytes and the end, and reads from its stream. -/
def takesTwo : List Link.Label :=
  Link.byAcceptor (turns .readLoop [.frame (dataFrame 1 [1, 2]), .go, .go, .frame (closeFrame 1), .go,
    .go, .go] ++ calling (.reader 0) (.read 0 8) [.go, .go, .go])

/-- It reads the end. -/
def takesEnd : List Link.Label := Link.byAcceptor (calling (.reader 0) (.read 0 8) [.go, .go])

/-- The client writes two bytes and ends its side; the exit reads them and the end. -/
def sendOutward : List Hub.Label :=
  byClient 0 (Link.byOpener (calling (.writer 0) (.write 0 [1, 2]) [.go, .go, .go, .wrote] ++
      calling (.writer 0) (.closeWrite 0) [.go, .go, .wrote]) ++ takesTwo) ++
    byExit (Link.byOpener (turns (.writer 0) [.source [1, 2], .go, .go, .go, .wrote])) ++
    byClient 0 takesEnd ++
    byExit (Link.byOpener (turns (.writer 0) [.sourceEnd none, .go, .go, .wrote]) ++ takesTwo ++
      takesEnd)

/-- The exit sends one byte back, which the client reads. -/
def sendInward : List Hub.Label :=
  send 0 1 9 ++ receive 0 ++
    byClient 0 (Link.byAcceptor (turns (.writer 0) [.source [9], .go, .go, .go, .wrote]) ++
      Link.byOpener (turns .readLoop [.frame (dataFrame 1 [9]), .go, .go] ++
        calling (.reader 0) (.read 0 8) [.go, .go, .go]))

def relayed : Hub :=
  after (Hub.step sampleCodec) Hub.new
    (connectExit ++ connect 0 ++ request 0 0 ++ forward 0 0 0 ++ acceptAndRelay ++ sendOutward ++
      sendInward)

theorem relayed_faithful : relayed.Faithful ∧ relayed.Joined 0 0 0 0 0 ∧
    (relayed.exit.acceptor.obj 0).got = [1, 2] ∧ (relayed.exit.acceptor.obj 0).gotEOF = true ∧
    ((relayed.clients 0).opener.obj 0).got = [9] := by
  refine ⟨?_, ⟨by decide +kernel, by decide +kernel, by decide +kernel, by decide +kernel,
    by decide +kernel, by decide +kernel, by decide +kernel⟩, by decide +kernel, by decide +kernel,
    by decide +kernel⟩
  exact faithful_of_relaying (by decide +kernel) (by decide +kernel) (by decide +kernel)
    (exec_after (by decide +kernel))

end Hub

end LnProxy
