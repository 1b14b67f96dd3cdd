import LnProxy.Node.Capacity
import LnProxy.Node.Selection
import LnProxy.Protocol.Frame
import LnProxy.Text

set_option autoImplicit false

/-! # The exit that a user has chosen (`Runtime.SetExit`, `managerDialer.Dial`)

A user chooses an exit from the catalog of the server, or `auto`, and says whether streams may fall back
to another exit. The proxies of the client dial through `managerDialer.Dial`: it reads the exit and
sends an open request for it, and when this fails, it reads whether it may fall back and sends a second
one for `auto`. The two are read at different times, and the user may have chosen anew in between. The
server selects an exit when a request arrives, and exits come and go.

Any number of clients and their dials run on one server here, in any order of their steps. -/

namespace LnProxy.Routing

open Transition Protocol

/-! ## Clients -/

structure Client where
  exitID : String
  fallback : Bool
  /-- `m.catalog` -/
  catalog : List ExitInfo
  /-- What the calls of `SetExit` have found that are about to store it. -/
  setting : List (String × Bool)
  /-- *History*: what was chosen, the last choice first. -/
  choices : List (String × Bool)
  /-- *History*: the exits in the catalogs so far. -/
  offered : List String

/-- `NewRuntime` -/
def Client.new : Client := ⟨"auto", false, [], [], [("auto", false)], []⟩

/-- The choices in force from the moment on when there were `since` of them. -/
def Client.inForce (client : Client) (since : Nat) : List (String × Bool) :=
  client.choices.take (client.choices.length - since + 1)

/-- `SetExit` up to the store: the exit it has found, or its error. -/
def setExit (catalog : List ExitInfo) (exitID : String) : Except String String :=
  let exitID := String.ofList (trim isSpace exitID.toList)
  if exitID = "" then .error "exit ID is required"
  else if exitID ≠ "auto" ∧ catalog.any (fun exit => exit.id = exitID) = false then
    .error ("unknown exit " ++ quoted exitID)
  else .ok exitID

/-- The request of a `Dial`. -/
def openRequest (host : String) (port : UInt16) (exitID : String) : OpenRequest :=
  ⟨0, exitID, host, port, protocolTCP, false⟩

/-! ## Dials -/

inductive Stage where
  /-- In `manager.Dial`, before the server has the request. -/
  | requesting (request : OpenRequest)
  | waiting (request : OpenRequest)
  /-- `manager.Dial` has returned an error for the exit that was chosen. -/
  | failed (request : OpenRequest)
  | returned
  deriving DecidableEq, Repr

/-- The request the dial is about. -/
def Stage.request : Stage → Option OpenRequest
  | .requesting request => some request
  | .waiting request => some request
  | .failed request => some request
  | .returned => none

/-- A run of `managerDialer.Dial`. -/
structure Dial where
  client : Nat
  host : String
  port : UInt16
  stage : Stage
  /-- It is the second request. -/
  retried : Bool
  /-- *History*: the exit it has read, and how many choices there had been then. -/
  chosen : String
  since : Nat
  /-- *History*: its requests, and the streams the server has opened for them. -/
  streams : List (OpenRequest × Nat)
  deriving DecidableEq, Repr

structure Network where
  server : Forwarding
  clients : List Client
  dials : List Dial

namespace Network

def new (config : NodeConfig) (now : Time) : Network := ⟨.new config now, [], []⟩

inductive Label where
  | join
  /-- The client gets a catalog. -/
  | catalog (c : Nat) (exits : List ExitInfo)
  | setExit (c : Nat) (exitID : String) (fallback : Bool)
  /-- The `i`-th of the calls of `SetExit` stores what it has found. -/
  | store (c i : Nat)
  | dial (c : Nat) (host : String) (port : UInt16)
  /-- The server processes the request of a dial. -/
  | request (d : Nat) (order : List String)
  /-- `manager.Dial` returns a stream, or an error. -/
  | answer (d : Nat) (ok : Bool)
  /-- After the error: the test of `Fallback()`. -/
  | fallBack (d : Nat)
  /-- A step of the server: of an exit's connection, or of `forwardOpen` behind the selection. -/
  | server (l : Forwarding.Label)

def putClient (s : Network) (c : Nat) (client : Client) : Network :=
  { s with clients := s.clients.set c client }

def putDial (s : Network) (d : Nat) (dial : Dial) : Network := { s with dials := s.dials.set d dial }

def runRequest (s : Network) (d : Nat) (dial : Dial) (order : List String) : Option Network :=
  match dial.stage with
  | .requesting request =>
    (s.server.step (.select request.exitID order)).map fun server =>
      { s with server := server }.putDial d { dial with
        stage := .waiting request, streams := (request, s.server.opened) :: dial.streams }
  | _ => none

def runAnswer (s : Network) (d : Nat) (dial : Dial) (ok : Bool) : Option Network :=
  match dial.stage, ok with
  | .waiting _, true => some (s.putDial d { dial with stage := .returned })
  | .requesting request, false =>
    some (s.putDial d { dial with stage := if dial.retried then .returned else .failed request })
  | .waiting request, false =>
    some (s.putDial d { dial with stage := if dial.retried then .returned else .failed request })
  | _, _ => none

def runFallBack (s : Network) (d : Nat) (dial : Dial) : Option Network :=
  match dial.stage with
  | .failed request => (s.clients[dial.client]?).map fun client =>
    if client.fallback = true ∧ request.exitID ≠ "auto" then
      s.putDial d { dial with
        stage := .requesting { request with exitID := "auto" }, retried := true }
    else s.putDial d { dial with stage := .returned }
  | _ => none

def step (s : Network) : Label → Option Network
  | .join => some { s with clients := s.clients ++ [.new] }
  | .catalog c exits => (s.clients[c]?).map fun client =>
    s.putClient c { client with
      catalog := exits, offered := exits.map ExitInfo.id ++ client.offered }
  | .setExit c exitID fallback => (s.clients[c]?).bind fun client =>
    match Routing.setExit client.catalog exitID with
    | .error _ => some s
    | .ok exitID =>
      some (s.putClient c { client with setting := (exitID, fallback) :: client.setting })
  | .store c i => (s.clients[c]?).bind fun client => (client.setting[i]?).map fun choice =>
    s.putClient c { client with
      exitID := choice.1, fallback := choice.2, setting := client.setting.eraseIdx i,
      choices := choice :: client.choices }
  | .dial c host port => (s.clients[c]?).map fun client =>
    { s with dials := s.dials ++
      [⟨c, host, port, .requesting (openRequest host port client.exitID), false, client.exitID,
        client.choices.length, []⟩] }
  | .request d order => (s.dials[d]?).bind fun dial => s.runRequest d dial order
  | .answer d ok => (s.dials[d]?).bind fun dial => s.runAnswer d dial ok
  | .fallBack d => (s.dials[d]?).bind fun dial => s.runFallBack d dial
  | .server l =>
    match l with
    | .select _ _ => none
    | l => (s.server.step l).map fun server => { s with server := server }

variable {s s' : Network} {l : Label} {c d : Nat} {client : Client} {dial : Dial}
  {server server' : Forwarding}

/-! ## What the server does with a request -/

theorem keyed_step {l : Forwarding.Label}
    (h : server.step l = some server') (hkeyed : server.exits.registry.Keyed) :
    server'.exits.registry.Keyed := by
  cases Forwarding.step_steps h with
  | exit hexits => exact Forwarding.keyed_exits hexits hkeyed
  | opens _ => exact hkeyed
  | moves _ => exact hkeyed

/-- A stream for a request that names an exit goes through this exit, or nowhere. -/
structure Routed (server : Forwarding) (request : OpenRequest) (k : Nat) : Prop where
  opened : k < server.opened
  through : request.exitID ≠ "" → request.exitID ≠ "auto" →
    ∀ id, (server.route k).through = some id → id = request.exitID

theorem Routed.step {request : OpenRequest} {k : Nat}
    {l : Forwarding.Label} (h : Routed server request k) (hstep : server.step l = some server') :
    Routed server' request k := by
  cases Forwarding.step_steps hstep with
  | exit hexits => exact ⟨h.opened, h.through⟩
  | opens route =>
    refine ⟨Nat.lt_succ_of_lt h.opened, fun hsome hnamed id hid => h.through hsome hnamed id ?_⟩
    simpa only [Forwarding.openStream, Function.update_of_ne (Nat.ne_of_lt h.opened)] using hid
  | @moves _ j route hroute =>
    refine ⟨h.opened, fun hsome hnamed id hid => h.through hsome hnamed id ?_⟩
    by_cases hk : k = j
    · subst hk
      simp only [Forwarding.goto, Function.update_self] at hid
      rcases hroute with hnone | hsame
      · exact absurd (hnone.symm.trans hid) (by simp)
      · exact hsame.symm.trans hid
    · simpa only [Forwarding.goto, Function.update_of_ne hk] using hid

/-- What `Select` returns for the id of an exit is this exit. -/
theorem select_id {r : Registry} {order : List String} {exitID : String} {info : ExitInfo}
    (hkeyed : r.Keyed) (hsome : exitID ≠ "") (hnamed : exitID ≠ "auto")
    (h : r.select order exitID false = .ok info) : info.id = exitID := by
  obtain ⟨entry, hentry, rfl, -⟩ := Registry.entry_of_select (not_or.2 ⟨hsome, hnamed⟩) h
  exact hkeyed exitID entry hentry

theorem routed_select {request : OpenRequest} {order : List String}
    (hkeyed : server.exits.registry.Keyed)
    (h : server.step (.select request.exitID order) = some server') :
    Routed server' request server.opened := by
  simp only [Forwarding.step] at h
  split at h
  · cases h
    refine ⟨Nat.lt_succ_self _, fun _ _ id hid => ?_⟩
    simp only [Forwarding.openStream, Function.update_self] at hid
    cases hid
  · next info hselect =>
    cases h
    refine ⟨Nat.lt_succ_self _, fun hsome hnamed id hid => ?_⟩
    simp only [Forwarding.openStream, Function.update_self, Forwarding.firstRoute] at hid
    have hinfo := select_id hkeyed hsome hnamed hselect
    split at hid
    · cases hid
      exact hinfo
    · cases hid
      exact hinfo

/-! ## What a dial asks for -/

/-- The exit of a choice was offered. -/
def Offered (offered : List String) (exitID : String) : Prop :=
  exitID ≠ "" ∧ (exitID = "auto" ∨ exitID ∈ offered)

structure Client.Sound (client : Client) : Prop where
  current : client.choices.head? = some (client.exitID, client.fallback)
  catalog : ∀ exit ∈ client.catalog, exit.id ∈ client.offered
  setting : ∀ choice ∈ client.setting, Offered client.offered choice.1
  choices : ∀ choice ∈ client.choices, Offered client.offered choice.1

theorem Offered.mono {offered more : List String} {exitID : String} (h : Offered offered exitID) :
    Offered (more ++ offered) exitID :=
  ⟨h.1, h.2.imp id fun hmem => List.mem_append_right _ hmem⟩

theorem offered_of_setExit {catalog : List ExitInfo} {offered : List String} {exitID found : String}
    (hcatalog : ∀ exit ∈ catalog, exit.id ∈ offered)
    (h : Routing.setExit catalog exitID = .ok found) : Offered offered found := by
  unfold Routing.setExit at h
  simp only at h
  split at h
  · cases h
  · next hsome =>
    split at h
    · cases h
    · next hknown =>
      cases h
      refine ⟨hsome, ?_⟩
      by_cases hauto : String.ofList (trim isSpace exitID.toList) = "auto"
      · exact Or.inl hauto
      · have hany := Bool.eq_true_of_not_eq_false fun hnone => hknown ⟨hauto, hnone⟩
        obtain ⟨exit, hmem, hexit⟩ := List.any_eq_true.1 hany
        exact Or.inr (of_decide_eq_true hexit ▸ hcatalog exit hmem)

theorem new_sound : Client.Sound .new where
  current := rfl
  catalog := by simp [Client.new]
  setting := by simp [Client.new]
  choices := by simp [Client.new, Offered]

/-- The exit a dial may ask for: the one it has read or, if it may fall back, any. -/
def Allowed (client : Client) (dial : Dial) (exitID : String) : Prop :=
  exitID = dial.chosen ∨ exitID = "auto" ∧ ∃ choice ∈ client.inForce dial.since, choice.2 = true

/-- A request of the dial. -/
structure Asks (client : Client) (dial : Dial) (request : OpenRequest) : Prop where
  made : request = openRequest dial.host dial.port request.exitID
  allowed : Allowed client dial request.exitID

structure Dial.Sound (server : Forwarding) (client : Client) (dial : Dial) : Prop where
  since : 1 ≤ dial.since ∧ dial.since ≤ client.choices.length
  chosen : ∃ fallback, (client.choices.drop (client.choices.length - dial.since)).head? =
    some (dial.chosen, fallback)
  stage : ∀ request, dial.stage.request = some request → Asks client dial request
  streams : ∀ request k, (request, k) ∈ dial.streams →
    Asks client dial request ∧ Routed server request k

structure Inv (s : Network) : Prop where
  keyed : s.server.exits.registry.Keyed
  clients : ∀ client ∈ s.clients, Client.Sound client
  dials : ∀ dial ∈ s.dials, ∃ client, s.clients[dial.client]? = some client ∧
    Dial.Sound s.server client dial

theorem new_inv (config : NodeConfig) (now : Time) : Inv (new config now) where
  keyed := (Forwarding.new_inv config now).keyed
  clients _ h := absurd h List.not_mem_nil
  dials _ h := absurd h List.not_mem_nil

/-- What a dial may ask for grows with the choices. -/
theorem Asks.mono {client' : Client} {request : OpenRequest} (h : Asks client dial request)
    (hforce : ∀ choice ∈ client.inForce dial.since, choice ∈ client'.inForce dial.since) :
    Asks client' dial request := by
  refine ⟨h.made, h.allowed.imp id ?_⟩
  rintro ⟨hauto, choice, hmem, hfallback⟩
  exact ⟨hauto, choice, hforce choice hmem, hfallback⟩

theorem Dial.Sound.same {server : Forwarding} {client' : Client} (h : Dial.Sound server client dial)
    (hchoices : client'.choices = client.choices) : Dial.Sound server client' dial := by
  have hforce : ∀ choice ∈ client.inForce dial.since, choice ∈ client'.inForce dial.since := by
    intro choice hmem
    rwa [Client.inForce, hchoices]
  refine ⟨?_, ?_, fun request hrequest => (h.stage request hrequest).mono hforce, fun request k hmem =>
    ⟨(h.streams request k hmem).1.mono hforce, (h.streams request k hmem).2⟩⟩
  · rw [hchoices]
    exact h.since
  · rw [hchoices]
    exact h.chosen

/-- The user chooses anew. -/
theorem Dial.Sound.chooses {server : Forwarding} {client' : Client} {choice : String × Bool}
    (h : Dial.Sound server client dial) (hchoices : client'.choices = choice :: client.choices) :
    Dial.Sound server client' dial := by
  have hlength : client'.choices.length - dial.since =
      client.choices.length - dial.since + 1 := by
    rw [hchoices, List.length_cons]
    have := h.since.2
    omega
  have hforce : ∀ old ∈ client.inForce dial.since, old ∈ client'.inForce dial.since := by
    intro old hmem
    rw [Client.inForce, hlength, hchoices, List.take_succ_cons]
    exact List.mem_cons_of_mem _ hmem
  refine ⟨⟨h.since.1, ?_⟩, ?_, fun request hrequest => (h.stage request hrequest).mono hforce,
    fun request k hmem => ⟨(h.streams request k hmem).1.mono hforce, (h.streams request k hmem).2⟩⟩
  · rw [hchoices, List.length_cons]
    exact Nat.le_succ_of_le h.since.2
  · rw [hlength, hchoices, List.drop_succ_cons]
    exact h.chosen

theorem Dial.Sound.served {l : Forwarding.Label}
    (h : Dial.Sound server client dial) (hstep : server.step l = some server') :
    Dial.Sound server' client dial :=
  ⟨h.since, h.chosen, h.stage, fun request k hmem =>
    ⟨(h.streams request k hmem).1, (h.streams request k hmem).2.step hstep⟩⟩

/-- The dial goes on with the requests it may make. -/
theorem Dial.Sound.moves {server : Forwarding} {stage : Stage} {retried : Bool}
    (h : Dial.Sound server client dial)
    (hstage : ∀ request, stage.request = some request → Asks client dial request) :
    Dial.Sound server client { dial with stage := stage, retried := retried } :=
  ⟨h.since, h.chosen, fun request hrequest =>
    ⟨(hstage request hrequest).made, (hstage request hrequest).allowed⟩,
    fun request k hmem => ⟨⟨(h.streams request k hmem).1.made, (h.streams request k hmem).1.allowed⟩,
      (h.streams request k hmem).2⟩⟩

theorem Inv.putClient {client' : Client} (hinv : Inv s) (hclient : s.clients[c]? = some client)
    (hsound : Client.Sound client')
    (hdials : ∀ dial, Dial.Sound s.server client dial → Dial.Sound s.server client' dial) :
    Inv (s.putClient c client') where
  keyed := hinv.keyed
  clients other hmem := by
    rcases List.mem_or_eq_of_mem_set hmem with hmem | rfl
    · exact hinv.clients other hmem
    · exact hsound
  dials dial hmem := by
    obtain ⟨owner, howner, hdial⟩ := hinv.dials dial hmem
    by_cases hc : dial.client = c
    · rw [hc] at howner ⊢
      obtain rfl : client = owner := Option.some.inj (hclient.symm.trans howner)
      refine ⟨client', ?_, hdials dial hdial⟩
      exact List.getElem?_set_self (List.getElem?_eq_some_iff.1 hclient).1
    · refine ⟨owner, ?_, hdial⟩
      rw [Network.putClient, List.getElem?_set_ne (Ne.symm hc)]
      exact howner

theorem Inv.putDial {dial' : Dial} (hinv : Inv s) (hdial : s.dials[d]? = some dial)
    (howner : dial'.client = dial.client)
    (hsound : ∀ client, Dial.Sound s.server client dial → s.clients[dial.client]? = some client →
      Dial.Sound s.server client dial') : Inv (s.putDial d dial') where
  keyed := hinv.keyed
  clients := hinv.clients
  dials other hmem := by
    rcases List.mem_or_eq_of_mem_set hmem with hmem | rfl
    · exact hinv.dials other hmem
    · obtain ⟨client, hclient, hold⟩ := hinv.dials dial (List.mem_of_getElem? hdial)
      exact ⟨client, by rw [howner]; exact hclient, hsound client hold hclient⟩

theorem Inv.serve {server : Forwarding} {l : Forwarding.Label} (hinv : Inv s)
    (hstep : s.server.step l = some server) : Inv { s with server := server } where
  keyed := keyed_step hstep hinv.keyed
  clients := hinv.clients
  dials dial hmem := by
    obtain ⟨client, hclient, hdial⟩ := hinv.dials dial hmem
    exact ⟨client, hclient, hdial.served hstep⟩

theorem Inv.join (hinv : Inv s) : Inv { s with clients := s.clients ++ [.new] } := by
  refine ⟨hinv.keyed, fun client hmem => ?_, fun dial hmem => ?_⟩
  · rcases List.mem_append.1 hmem with hmem | hmem
    · exact hinv.clients client hmem
    · rw [List.mem_singleton.1 hmem]
      exact new_sound
  · obtain ⟨client, hclient, hdial⟩ := hinv.dials dial hmem
    refine ⟨client, ?_, hdial⟩
    rw [List.getElem?_append_left (List.getElem?_eq_some_iff.1 hclient).1, hclient]

/-- A dial begins. -/
theorem Inv.dials_begin {host : String} {port : UInt16} (hinv : Inv s)
    (hclient : s.clients[c]? = some client) :
    Inv { s with dials := s.dials ++ [⟨c, host, port, .requesting (openRequest host port client.exitID),
      false, client.exitID, client.choices.length, []⟩] } := by
  have hsound := hinv.clients client (List.mem_of_getElem? hclient)
  refine ⟨hinv.keyed, hinv.clients, fun dial hmem => ?_⟩
  rcases List.mem_append.1 hmem with hmem | hmem
  · exact hinv.dials dial hmem
  · rw [List.mem_singleton.1 hmem]
    refine ⟨client, hclient, ⟨?_, Nat.le_refl _⟩, ⟨client.fallback, ?_⟩, fun request hrequest => ?_,
      fun _ _ h => absurd h List.not_mem_nil⟩
    · refine List.length_pos_iff.2 fun hnil => ?_
      have hcurrent := hsound.current
      rw [hnil] at hcurrent
      cases hcurrent
    · rw [Nat.sub_self, List.drop_zero]
      exact hsound.current
    · cases hrequest
      exact ⟨rfl, Or.inl rfl⟩

theorem Inv.request {order : List String} (hinv : Inv s) (hdial : s.dials[d]? = some dial)
    (h : s.runRequest d dial order = some s') : Inv s' := by
  unfold runRequest at h
  split at h
  · next request hstage =>
    obtain ⟨server, hserver, rfl⟩ := Option.map_eq_some_iff.1 h
    refine (hinv.serve hserver).putDial hdial rfl fun client hold _ => ?_
    have hasks := hold.stage request (by rw [hstage]; rfl)
    refine ⟨hold.since, hold.chosen, fun other hother => ?_, fun other k hmem => ?_⟩
    · cases hother
      exact ⟨hasks.made, hasks.allowed⟩
    · rcases List.mem_cons.1 hmem with heq | hmem
      · cases heq
        exact ⟨⟨hasks.made, hasks.allowed⟩, routed_select hinv.keyed hserver⟩
      · have hstream := hold.streams other k hmem
        exact ⟨⟨hstream.1.made, hstream.1.allowed⟩, hstream.2⟩
  · cases h

/-- The dial returns. -/
theorem Inv.returned (hinv : Inv s) (hdial : s.dials[d]? = some dial) :
    Inv (s.putDial d { dial with stage := .returned }) :=
  hinv.putDial hdial rfl fun _ hold _ => hold.moves (by simp [Stage.request])

theorem Inv.answer {ok : Bool} (hinv : Inv s) (hdial : s.dials[d]? = some dial)
    (h : s.runAnswer d dial ok = some s') : Inv s' := by
  have hfailed : ∀ {request}, dial.stage.request = some request →
      Inv (s.putDial d { dial with stage := if dial.retried then .returned else .failed request }) := by
    intro request hrequest
    split
    · exact hinv.returned hdial
    · refine hinv.putDial hdial rfl fun client hold _ => hold.moves fun other hother => ?_
      cases hother
      exact hold.stage request hrequest
  unfold runAnswer at h
  split at h
  · cases h
    exact hinv.returned hdial
  · next hstage =>
    cases h
    exact hfailed (by rw [hstage]; rfl)
  · next hstage =>
    cases h
    exact hfailed (by rw [hstage]; rfl)
  · cases h

theorem Inv.fallBack (hinv : Inv s) (hdial : s.dials[d]? = some dial)
    (h : s.runFallBack d dial = some s') : Inv s' := by
  unfold runFallBack at h
  split at h
  · next request hstage =>
    obtain ⟨client, hclient, rfl⟩ := Option.map_eq_some_iff.1 h
    split
    · next hfallback =>
      refine hinv.putDial hdial rfl fun owner hold howner => hold.moves fun other hother => ?_
      obtain rfl : client = owner := Option.some.inj (hclient.symm.trans howner)
      have hasks := hold.stage request (by rw [hstage]; rfl)
      cases hother
      refine ⟨?_, Or.inr ⟨rfl, (client.exitID, true), ?_, rfl⟩⟩
      · rw [hasks.made]
        rfl
      · -- the present choice is in force
        have hcurrent := (hinv.clients client (List.mem_of_getElem? hclient)).current
        rw [hfallback.1] at hcurrent
        obtain ⟨rest, hrest⟩ := List.head?_eq_some_iff.1 hcurrent
        rw [Client.inForce, hrest, List.take_succ_cons]
        exact List.mem_cons_self
    · exact hinv.returned hdial
  · cases h

theorem Inv.step (hinv : Inv s) (h : s.step l = some s') : Inv s' := by
  cases l with
  | join =>
    cases h
    exact hinv.join
  | catalog c exits =>
    obtain ⟨client, hclient, rfl⟩ := Option.map_eq_some_iff.1 h
    have hsound := hinv.clients client (List.mem_of_getElem? hclient)
    refine hinv.putClient hclient ⟨hsound.current, fun exit hmem => ?_, fun choice hsetting =>
      (hsound.setting choice hsetting).mono, fun choice hmem => (hsound.choices choice hmem).mono⟩
      fun _ hdial => hdial.same rfl
    exact List.mem_append_left _ (List.mem_map_of_mem hmem)
  | setExit c exitID fallback =>
    obtain ⟨client, hclient, h⟩ := Option.bind_eq_some_iff.1 h
    split at h
    · cases h
      exact hinv
    · next hfound =>
      cases h
      have hsound := hinv.clients client (List.mem_of_getElem? hclient)
      refine hinv.putClient hclient ⟨hsound.current, hsound.catalog, fun choice hsetting => ?_,
        hsound.choices⟩ fun _ hdial => hdial.same rfl
      rcases List.mem_cons.1 hsetting with rfl | hold
      · exact offered_of_setExit hsound.catalog hfound
      · exact hsound.setting choice hold
  | store c i =>
    obtain ⟨client, hclient, h⟩ := Option.bind_eq_some_iff.1 h
    obtain ⟨choice, hsetting, rfl⟩ := Option.map_eq_some_iff.1 h
    have hsound := hinv.clients client (List.mem_of_getElem? hclient)
    refine hinv.putClient hclient ⟨rfl, hsound.catalog, fun other hmem => ?_, fun other hmem => ?_⟩
      fun _ hdial => hdial.chooses rfl
    · exact hsound.setting other (List.mem_of_mem_eraseIdx hmem)
    rcases List.mem_cons.1 hmem with rfl | hmem
    · exact hsound.setting other (List.mem_of_getElem? hsetting)
    · exact hsound.choices other hmem
  | dial c host port =>
    obtain ⟨client, hclient, rfl⟩ := Option.map_eq_some_iff.1 h
    exact hinv.dials_begin hclient
  | request d order =>
    obtain ⟨dial, hdial, h⟩ := Option.bind_eq_some_iff.1 h
    exact hinv.request hdial h
  | answer d ok =>
    obtain ⟨dial, hdial, h⟩ := Option.bind_eq_some_iff.1 h
    exact hinv.answer hdial h
  | fallBack d =>
    obtain ⟨dial, hdial, h⟩ := Option.bind_eq_some_iff.1 h
    exact hinv.fallBack hdial h
  | server l =>
    cases l with
    | select exitID order => cases h
    | _ =>
      obtain ⟨server, hserver, rfl⟩ := Option.map_eq_some_iff.1 h
      exact hinv.serve hserver

/-! ## The result -/

/-- **Streams go where the user has sent them.** Let any number of clients dial through one server, while
    their users choose exits and exits come and go. The exit a dial has chosen is the one that was in
    force when it began, and the user had it from a catalog, or it is `auto`. All requests of the dial
    are for its host and port. And if it has chosen an exit by its id, and the user has not allowed it
    to fall back since it began, the server sends none of its streams through another exit, or directly
    to the destination. -/
theorem routed_as_chosen {config : NodeConfig} {now : Time} {as : List Label}
    (hrun : exec step (new config now) as = some s) (hdial : dial ∈ s.dials) :
    ∃ client, s.clients[dial.client]? = some client ∧
      (∃ fallback, (client.choices.drop (client.choices.length - dial.since)).head? =
        some (dial.chosen, fallback)) ∧
      Offered client.offered dial.chosen ∧
      (∀ request k, (request, k) ∈ dial.streams →
        request = openRequest dial.host dial.port request.exitID) ∧
      (dial.chosen ≠ "auto" → (∀ choice ∈ client.inForce dial.since, choice.2 = false) →
        ∀ request k id, (request, k) ∈ dial.streams → (s.server.route k).through = some id →
          id = dial.chosen) := by
  have hinv : Inv s := Reachable.invariant Inv (fun _ _ _ hm hstep => hm.step hstep)
    (new_inv config now) ⟨as, hrun⟩
  obtain ⟨client, hclient, hsound⟩ := hinv.dials dial hdial
  obtain ⟨fallback, hchosen⟩ := hsound.chosen
  have hoffered : Offered client.offered dial.chosen :=
    (hinv.clients client (List.mem_of_getElem? hclient)).choices _
      (List.mem_of_mem_drop (List.mem_of_head? hchosen))
  refine ⟨client, hclient, ⟨fallback, hchosen⟩, hoffered, fun request k hmem =>
    (hsound.streams request k hmem).1.made, fun hnamed hnever request k id hmem hthrough => ?_⟩
  obtain ⟨hasks, hrouted⟩ := hsound.streams request k hmem
  rcases hasks.allowed with hexit | ⟨-, choice, hforce, hfallback⟩
  · rw [← hexit]
    exact hrouted.through (hexit ▸ hoffered.1) (hexit ▸ hnamed) id hthrough
  · exact absurd ((hnever choice hforce).symm.trans hfallback) (by simp)

/-- A user takes the exit `home`, which has joined, while another call is about to allow `auto` to fall
    back, and a stream is dialled through it. -/
def viaHome : List Label :=
  (Forwarding.homeJoins 8).map .server ++
    [.join, .catalog 0 [⟨"home", "home", "exit", "healthy", 10, 0, 8, [], 0⟩],
      .setExit 0 " home " false, .setExit 0 "auto" true, .store 0 1, .dial 0 "example.org" 443,
      .request 0 ["direct", "home"], .server (.lookup 0), .server (.dial 0 true),
      .server (.accept 0 true), .answer 0 true]

theorem viaHome_routed :
    ∃ s dial client, exec step (new Forwarding.narrowConfig 0) viaHome = some s ∧ dial ∈ s.dials ∧
      dial.chosen = "home" ∧ (openRequest "example.org" 443 "home", 0) ∈ dial.streams ∧
      s.clients[dial.client]? = some client ∧ Offered client.offered dial.chosen ∧
      (s.server.route 0).through = some "home" ∧
      ∀ id, (s.server.route 0).through = some id → id = dial.chosen := by
  have hrun : exec step (new Forwarding.narrowConfig 0) viaHome =
      some (after step (new Forwarding.narrowConfig 0) viaHome) := exec_after (by decide +kernel)
  have hdials : (after step (new Forwarding.narrowConfig 0) viaHome).dials =
      [⟨0, "example.org", 443, .returned, false, "home", 2,
        [(openRequest "example.org" 443 "home", 0)]⟩] := by decide +kernel
  have hdial := hdials ▸ List.mem_singleton_self _
  have hforce : ∀ client, (after step (new Forwarding.narrowConfig 0) viaHome).clients[0]? =
      some client → ∀ choice ∈ client.inForce 2, choice.2 = false := by
    decide +kernel
  obtain ⟨client, hclient, -, hoffered, -, hthrough⟩ := routed_as_chosen hrun hdial
  refine ⟨_, _, client, hrun, hdial, rfl, List.mem_singleton_self _, hclient, hoffered,
    by decide +kernel, fun id hid => ?_⟩
  exact hthrough (by decide) (hforce client hclient) _ 0 id (List.mem_singleton_self _) hid

end Network

end LnProxy.Routing
