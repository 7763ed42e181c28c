import UhfReader18.Hwvx.Tap
import UhfReader18.Records

/-!
# The sockets of a device

Any network, with a record of the calls made of it. A device opens a socket when it is made
and closes it at the end of its `with` block; `save_config` and `change_network` open another
one in between. Calls of the network may raise at any point. Where setting an option of a new
socket raises, the socket is open, but the object that would close it is never made.

Results:
1. `Enlarges.withDevice`: the record changes nothing.
2. `KeptBy.pushNetwork`, `KeptBy.sendConfigPass`: what keeps sending and receiving on a socket
   keeps all that is done on it.
3. `withDevice_sockets`: at the end of a block all sockets are closed, each once, but those
   with an option that could not be set; only the last one opened was ever used.
-/

namespace UhfReader18.Hwvx

open Stateful

variable {σ τ : Type} {α : Type}

/-! ## The block -/

namespace HwVxDevice

variable (api : UdpApi σ)

def close (self : HwVxDevice) : EStateM PyError σ Unit :=
  self.net.close api

/-- `__exit__`, which lets exceptions through. -/
def exit : EStateM PyError (HwVxDevice × σ) Unit := do
  let (self, _) ← get
  onNet (self.close api)

/-- `with HwVxDevice(...) as device: ...`. The device is closed, also when the body raises. -/
def withOpen (ipAddress : IPv4Address) (macAddress : Text) (broadcast : Bool)
    (broadcastIp : IPv4Address) (body : EStateM PyError (HwVxDevice × σ) α) :
    EStateM PyError σ α := do
  let device ← init api ipAddress macAddress broadcast broadcastIp
  fun s => viewed Prod.snd ((tryFinally body (exit api)) (device, s))

end HwVxDevice

/-- A call, under `try` or not. -/
def Operation.attempt (api : UdpApi σ) (operation : Operation) (caught : Bool) :
    EStateM PyError (HwVxDevice × σ) Unit := do
  if caught then
    try operation.program api catch _ => pure ()
  else operation.program api

/-- The body of a block: calls one after another, each under `try` or not. -/
def Operation.calls (api : UdpApi σ) :
    List (Operation × Bool) → EStateM PyError (HwVxDevice × σ) Unit
  | [] => return
  | (operation, caught) :: rest => do
    operation.attempt api caught
    calls api rest

/-! ## Larger networks -/

/-- The network `api'` does what `api` does, and keeps more. -/
structure Enlarges (view : τ → σ) (api' : UdpApi τ) (api : UdpApi σ) : Prop where
  socket : Lifts view api'.socket api.socket
  setsockopt : ∀ sock, Lifts view (api'.setsockopt sock) (api.setsockopt sock)
  settimeout : ∀ sock seconds,
    Lifts view (api'.settimeout sock seconds) (api.settimeout sock seconds)
  sendto : ∀ sock data target,
    Lifts view (api'.sendto sock data target) (api.sendto sock data target)
  recvfrom : ∀ sock size, Lifts view (api'.recvfrom sock size) (api.recvfrom sock size)
  close : ∀ sock, Lifts view (api'.close sock) (api.close sock)

namespace Enlarges

variable {view : τ → σ} {api' : UdpApi τ} {api : UdpApi σ} (h : Enlarges view api' api)
include h

section

variable (net : HwVxNetworking)

theorem send (command : Text) : Lifts view (net.send api' command) (net.send api command) :=
  (Lifts.ofExcept _).bind fun data => h.sendto net.sock data net.target

theorem receive : Lifts view (net.receive api') (net.receive api) := by
  intro t
  have hread := h.recvfrom net.sock recvBuffer t
  cases hrun : api'.recvfrom net.sock recvBuffer t with
  | ok datagram t' =>
    rw [hrun] at hread
    rw [net.receive_of_data hrun, net.receive_of_data hread.symm]
    cases decodeAscii datagram.1 <;> rfl
  | error e t' =>
    rw [hrun] at hread
    by_cases hkind : e.kind = .timeoutError
    · rw [net.receive_of_timeout hrun hkind, net.receive_of_timeout hread.symm hkind]
      rfl
    · rw [net.receive_of_error hrun hkind, net.receive_of_error hread.symm hkind]
      rfl

theorem request (command : Text) (retries : ℕ) :
    Lifts view (net.request api' command retries) (net.request api command retries) := by
  induction retries with
  | zero => exact Lifts.throw _
  | succ retries ih =>
    refine (h.send net command).bind fun _ => (h.receive net).bind fun reply => ?_
    split
    · exact Lifts.pure _
    · exact ih

theorem requestSingle (command check : Text) :
    Lifts view (net.requestSingle api' command check) (net.requestSingle api command check) := by
  refine (h.request net _ 5).bind fun reply => ?_
  split
  · split
    · exact Lifts.pure _
    · exact Lifts.throw _
  · exact Lifts.throw _

theorem collectSearchResults (passes : ℕ) :
    Lifts view (net.collectSearchResults api' passes) (net.collectSearchResults api passes) := by
  induction passes with
  | zero => exact Lifts.pure _
  | succ passes ih =>
    refine Lifts.bind (Lifts.catch ((h.recvfrom net.sock recvBuffer).bind fun _ => Lifts.pure _)
      fun e => ?_) fun arrival => ?_
    · split
      · exact Lifts.pure _
      · exact Lifts.throw _
    split
    · exact Lifts.pure _
    · refine (Lifts.ofExcept _).bind fun reply => ?_
      split
      · exact (Lifts.ofExcept _).bind fun address => ih.bind fun _ => Lifts.pure _
      · exact Lifts.pure _

theorem search : Lifts view (net.search api') (net.search api) :=
  (h.send net ['X']).bind fun _ => h.collectSearchResults net 255

end

theorem init (ipAddress : Text) :
    Lifts view (HwVxNetworking.init api' ipAddress) (HwVxNetworking.init api ipAddress) :=
  h.socket.bind fun sock => (h.setsockopt sock).bind fun _ =>
    (h.settimeout sock recvTimeout).bind fun _ => Lifts.pure _

theorem withOpen {ipAddress : Text} {body : HwVxNetworking → EStateM PyError τ α}
    {body' : HwVxNetworking → EStateM PyError σ α}
    (hbody : ∀ net, Lifts view (body net) (body' net)) :
    Lifts view (HwVxNetworking.withOpen api' ipAddress body)
      (HwVxNetworking.withOpen api ipAddress body') :=
  (h.init ipAddress).bind fun net => Lifts.finalize (hbody net) (h.close net.sock)

theorem sendConfigPass (net : HwVxNetworking) (wire : String → Option Text) :
    Lifts view (HwVxDevice.sendConfigPass (net.send api') wire)
      (HwVxDevice.sendConfigPass (net.send api) wire) :=
  (h.send net ['L']).bind fun _ =>
    (Lifts.forM fun _ _ => (Lifts.ofExcept _).bind fun command => h.send net command).bind
      fun _ => h.send net ['E']

theorem pushNetwork (net : HwVxNetworking) (opener : Text)
    (newIp subnetMask gatewayIp : IPv4Address) :
    Lifts view (HwVxDevice.pushNetwork api' net opener newIp subnetMask gatewayIp)
      (HwVxDevice.pushNetwork api net opener newIp subnetMask gatewayIp) :=
  (h.send net _).bind fun _ => (h.send net _).bind fun _ => (h.receive net).bind fun _ =>
    (h.send net _).bind fun _ => (h.send net _).bind fun _ => (h.send net _).bind fun _ =>
      (h.receive net).bind fun _ => h.send net _

section

variable (self : HwVxDevice)

theorem getConfig : Lifts view (self.getConfig api') (self.getConfig api) :=
  (Lifts.mapM fun _ _ => (h.requestSingle self.net _ _).bind fun _ => Lifts.pure _).bind
    fun _ => Lifts.ofExcept _

theorem saveConfig (cfg : DeviceConfig) :
    Lifts view (self.saveConfig api' cfg) (self.saveConfig api cfg) := by
  refine (Lifts.ofExcept _).bind fun wire => (h.sendConfigPass self.net _).bind fun _ => ?_
  split
  · exact Lifts.pure _
  · exact h.withOpen fun net => (h.send net _).bind fun _ => h.sendConfigPass net _

theorem changeNetwork (newIp subnetMask gatewayIp : IPv4Address) :
    Lifts view (self.changeNetwork api' newIp subnetMask gatewayIp)
      (self.changeNetwork api newIp subnetMask gatewayIp) := by
  refine (h.pushNetwork self.net _ _ _ _).bind fun _ => ?_
  split
  · exact Lifts.pure _
  · exact h.withOpen fun net => h.pushNetwork net _ _ _ _

theorem setDhcp (enabled : Bool) :
    Lifts view (self.setDhcp api' enabled) (self.setDhcp api enabled) :=
  (h.send self.net _).bind fun _ => (h.send self.net _).bind fun _ => h.send self.net _

theorem reboot : Lifts view (self.reboot api') (self.reboot api) :=
  h.send self.net ['E']

end

omit h in
theorem onNet {larger : EStateM PyError τ α} {program : EStateM PyError σ α}
    (h : Lifts view larger program) :
    Lifts (Prod.map id view) (HwVxDevice.onNet larger) (HwVxDevice.onNet program) := by
  rintro ⟨self, t⟩
  have hrun := h t
  show viewed (Prod.map id view) (HwVxDevice.onNet larger (self, t)) =
    HwVxDevice.onNet program (self, view t)
  cases hlarger : larger t <;> rw [hlarger] at hrun
  · rw [HwVxDevice.onNet_ok hlarger, HwVxDevice.onNet_ok hrun.symm]
    rfl
  · rw [HwVxDevice.onNet_error hlarger, HwVxDevice.onNet_error hrun.symm]
    rfl

theorem chooseModule :
    Lifts (Prod.map id view) (HwVxDevice.chooseModule api') (HwVxDevice.chooseModule api) := by
  refine Lifts.get_bind fun ⟨self, t⟩ => ?_
  dsimp only [Prod.map, id]
  split
  · exact Lifts.pure _
  · refine Lifts.bind (onNet (h.search self.net)) fun results => ?_
    split
    · exact Lifts.throw _
    · exact Lifts.bind (fun _ => rfl) fun _ => Lifts.pure _

theorem connect : Lifts (Prod.map id view) (HwVxDevice.connect api') (HwVxDevice.connect api) :=
  h.chooseModule.bind fun r => Lifts.get_bind fun (self, _) =>
    (onNet (h.request self.net _ _)).bind fun _ => (onNet (h.request self.net _ _)).bind
      fun _ => Lifts.pure r

theorem program (operation : Operation) :
    Lifts (Prod.map id view) (operation.program api') (operation.program api) := by
  refine Lifts.get_bind fun ⟨self, t⟩ => ?_
  cases operation with
  | connect => exact h.connect.bind fun _ => Lifts.pure _
  | getConfig => exact (onNet (h.getConfig self)).bind fun _ => Lifts.pure _
  | saveConfig cfg => exact onNet (h.saveConfig self cfg)
  | changeNetwork newIp subnetMask gatewayIp => exact onNet (h.changeNetwork self _ _ _)
  | setDhcp enabled => exact onNet (h.setDhcp self enabled)
  | reboot => exact onNet (h.reboot self)

omit h in
theorem pair {larger : EStateM PyError (HwVxDevice × τ) α}
    {program : EStateM PyError (HwVxDevice × σ) α} (h : Lifts (Prod.map id view) larger program)
    (device : HwVxDevice) :
    Lifts view (fun t => viewed Prod.snd (larger (device, t)))
      (fun s => viewed Prod.snd (program (device, s))) := by
  intro t
  have hrun := h (device, t)
  show viewed view (viewed Prod.snd (larger (device, t))) =
    viewed Prod.snd (program (Prod.map id view (device, t)))
  rw [← hrun]
  cases larger (device, t) <;> rfl

theorem exit : Lifts (Prod.map id view) (HwVxDevice.exit api') (HwVxDevice.exit api) :=
  Lifts.get_bind fun (self, _) => onNet (h.close self.net.sock)

theorem calls (body : List (Operation × Bool)) :
    Lifts (Prod.map id view) (Operation.calls api' body) (Operation.calls api body) := by
  induction body with
  | nil => exact Lifts.pure _
  | cons call rest ih =>
    obtain ⟨operation, caught⟩ := call
    refine Lifts.bind ?_ fun _ => ih
    cases caught
    · exact h.program operation
    · exact Lifts.catch (h.program operation) fun _ => Lifts.pure _

/-- A whole block does the same on the larger network. -/
theorem withDevice (ipAddress : IPv4Address) (macAddress : Text) (broadcast : Bool)
    (broadcastIp : IPv4Address) {body : EStateM PyError (HwVxDevice × τ) α}
    {body' : EStateM PyError (HwVxDevice × σ) α} (hbody : Lifts (Prod.map id view) body body') :
    Lifts view (HwVxDevice.withOpen api' ipAddress macAddress broadcast broadcastIp body)
      (HwVxDevice.withOpen api ipAddress macAddress broadcast broadcastIp body') :=
  Lifts.bind ((h.init _).bind fun _ => Lifts.pure _) fun device =>
    pair (Lifts.finalize hbody h.exit) device

end Enlarges

/-! ## The record -/

/-- A call made of the network. -/
inductive Act
  | opened (sock : ℕ)
  | configured (sock : ℕ)
  /-- An option of the socket could not be set. -/
  | refused (sock : ℕ)
  | sent (datagram : Datagram)
  | received (sock : ℕ)
  | closed (sock : ℕ)
  deriving DecidableEq, Repr

/-- A call that is put on record: what it is if it returns, and what if it raises. -/
def note (returned raised : Act) (call : EStateM PyError σ α) :
    EStateM PyError (σ × List Act) α :=
  fun (s, acts) =>
    match call s with
    | .ok a s => .ok a (s, acts ++ [returned])
    | .error e s => .error e (s, acts ++ [raised])

/-- A call that is on record as one act, whether it returns or raises. -/
def noteAct (act : Act) (call : EStateM PyError σ α) : EStateM PyError (σ × List Act) α :=
  note act act call

/-- The network with a record of the calls. A socket that cannot be opened is not on record. -/
def noted (api : UdpApi σ) : UdpApi (σ × List Act) where
  socket := fun (s, acts) =>
    match api.socket s with
    | .ok sock s => .ok sock (s, acts ++ [.opened sock])
    | .error e s => .error e (s, acts)
  setsockopt sock := note (.configured sock) (.refused sock) (api.setsockopt sock)
  settimeout sock seconds :=
    note (.configured sock) (.refused sock) (api.settimeout sock seconds)
  sendto sock data target := noteAct (.sent ⟨sock, target, data⟩) (api.sendto sock data target)
  recvfrom sock size := noteAct (.received sock) (api.recvfrom sock size)
  close sock := noteAct (.closed sock) (api.close sock)

theorem lifts_note (returned raised : Act) (call : EStateM PyError σ α) :
    Lifts Prod.fst (note returned raised call) call := by
  rintro ⟨s, acts⟩
  simp only [note]
  cases call s <;> rfl

/-- The record changes nothing. -/
theorem enlarges_noted (api : UdpApi σ) : Enlarges Prod.fst (noted api) api where
  socket := by
    rintro ⟨s, acts⟩
    simp only [noted]
    cases api.socket s <;> rfl
  setsockopt sock := lifts_note _ _ _
  settimeout sock seconds := lifts_note _ _ _
  sendto sock data target := lifts_note _ _ _
  recvfrom sock size := lifts_note _ _ _
  close sock := lifts_note _ _ _

/-! ## Open sockets -/

/-- The sockets that are open: those somebody holds, the last one opened first, and those with
an option that could not be set, which nobody holds. -/
structure Sockets where
  held : List ℕ := []
  abandoned : List ℕ := []
  deriving DecidableEq, Repr

/-- The open sockets after a call. At most two are held, and only the last one may be set up,
used or closed. -/
def Act.next (sockets : Sockets) : Act → Option Sockets
  | opened sock =>
    if sockets.held.length < 2 then some { sockets with held := sock :: sockets.held } else none
  | configured sock => if sockets.held.head? = some sock then some sockets else none
  | refused sock =>
    if sockets.held.head? = some sock then
      some ⟨sockets.held.tail, sockets.abandoned ++ [sock]⟩
    else none
  | sent datagram => if sockets.held.head? = some datagram.sock then some sockets else none
  | received sock => if sockets.held.head? = some sock then some sockets else none
  | closed sock =>
    if sockets.held.head? = some sock then some { sockets with held := sockets.held.tail }
    else none

/-- The open sockets after these calls, if all of them were in order. -/
def openSockets (acts : List Act) : Option Sockets := acts.foldlM Act.next {}

/-- The sockets with an option that could not be set. -/
def refusals (acts : List Act) : List ℕ :=
  acts.filterMap fun
    | .refused sock => some sock
    | _ => none

/-- These sockets are held; of the others, those with an option that could not be set are
open. -/
def OpenNow (held : List ℕ) (state : σ × List Act) : Prop :=
  openSockets state.2 = some ⟨held, refusals state.2⟩

theorem openSockets_concat {acts : List Act} {sockets : Sockets}
    (h : openSockets acts = some sockets) (act : Act) :
    openSockets (acts ++ [act]) = act.next sockets := by
  rw [openSockets, List.foldlM_append, show acts.foldlM Act.next {} = some sockets from h]
  show ([act].foldlM Act.next sockets : Option Sockets) = act.next sockets
  rw [List.foldlM_cons]
  exact bind_pure (act.next sockets)

/-- After the act other sockets are held, and it abandons those it says it does. -/
def Act.Takes (held held' : List ℕ) (act : Act) : Prop :=
  ∀ abandoned, act.next ⟨held, abandoned⟩ = some ⟨held', abandoned ++ refusals [act]⟩

theorem Act.Takes.of_next {held held' : List ℕ} {act : Act} (hact : refusals [act] = [])
    (h : ∀ abandoned, act.next ⟨held, abandoned⟩ = some ⟨held', abandoned⟩) :
    act.Takes held held' := by
  intro abandoned
  rw [hact, List.append_nil]
  exact h abandoned

theorem OpenNow.concat {s s' : σ} {acts : List Act} {held held' : List ℕ} {act : Act}
    (h : OpenNow held (s, acts)) (hact : act.Takes held held') :
    OpenNow held' (s', acts ++ [act]) := by
  have hrefusals : refusals (acts ++ [act]) = refusals acts ++ refusals [act] :=
    List.filterMap_append
  show openSockets (acts ++ [act]) = some ⟨held', refusals (acts ++ [act])⟩
  rw [hrefusals]
  exact (openSockets_concat h act).trans (hact (refusals acts))

theorem note_triple {returned raised : Act} {call : EStateM PyError σ α}
    {held held' held'' : List ℕ} (hreturn : returned.Takes held held')
    (hraise : raised.Takes held held'') :
    Triple (OpenNow held) (note returned raised call) (fun _ => OpenNow held')
      (fun _ => OpenNow held'') := by
  rintro ⟨s, acts⟩ hopen
  simp only [note]
  cases call s with
  | ok a s' => exact hopen.concat hreturn
  | error e s' => exact hopen.concat hraise

theorem noteAct_triple {act : Act} {call : EStateM PyError σ α} {held held' : List ℕ}
    (hact : act.Takes held held') :
    Triple (OpenNow held) (noteAct act call) (fun _ => OpenNow held') (fun _ => OpenNow held') :=
  note_triple hact hact

/-- A new socket is held, unless it could not be set up. -/
theorem init_openNow (api : UdpApi σ) (ipAddress : Text) {held : List ℕ} (h : held.length < 2) :
    Triple (OpenNow held) (HwVxNetworking.init (noted api) ipAddress)
      (fun net => OpenNow (net.sock :: held)) (fun _ => OpenNow held) := by
  have hsocket : Triple (OpenNow held) (noted api).socket (fun sock => OpenNow (sock :: held))
      (fun _ => OpenNow held) := by
    rintro ⟨s, acts⟩ hopen
    simp only [noted]
    cases api.socket s with
    | ok sock s' => exact hopen.concat (.of_next rfl fun _ => if_pos h)
    | error e s' => exact hopen
  have hoption (sock : ℕ) (call : EStateM PyError σ Unit) :
      Triple (OpenNow (sock :: held)) (note (.configured sock) (.refused sock) call)
        (fun _ => OpenNow (sock :: held)) (fun _ => OpenNow held) :=
    note_triple (.of_next rfl fun _ => if_pos rfl) fun _ => if_pos rfl
  exact hsocket.bind fun sock => (hoption sock (api.setsockopt sock)).bind fun _ =>
    (hoption sock (api.settimeout sock recvTimeout)).bind fun _ => Triple.pure fun _ hs => hs

/-! ## What is done on one socket -/

section

variable {api : UdpApi σ} {I : σ → Prop} {net : HwVxNetworking}

theorem receive_preserves (h : ∀ size, Preserves I (api.recvfrom net.sock size)) :
    Preserves I (net.receive api) := by
  intro s hs
  have hend := h recvBuffer s hs
  cases hrun : api.recvfrom net.sock recvBuffer s with
  | ok datagram s' =>
    rw [hrun] at hend
    rw [net.receive_of_data hrun]
    cases decodeAscii datagram.1 <;> exact hend
  | error e s' =>
    rw [hrun] at hend
    by_cases hkind : e.kind = .timeoutError
    · rw [net.receive_of_timeout hrun hkind]
      exact hend
    · rw [net.receive_of_error hrun hkind]
      exact hend

theorem collect_preserves (h : ∀ size, Preserves I (api.recvfrom net.sock size)) (passes : ℕ) :
    Preserves I (net.collectSearchResults api passes) := by
  induction passes with
  | zero => exact Preserves.pure _
  | succ passes ih =>
    refine Preserves.bind (Preserves.catch ((h recvBuffer).bind fun _ => Preserves.pure _)
      fun e => ?_) fun arrival => ?_
    · split
      · exact Preserves.pure _
      · exact Preserves.throw _
    split
    · exact Preserves.pure _
    · refine (Preserves.ofExcept _).bind fun reply => ?_
      split
      · exact (Preserves.ofExcept _).bind fun address => ih.bind fun _ => Preserves.pure _
      · exact Preserves.pure _

end

/-- Sending and receiving on a socket keep an invariant. -/
structure KeptBy (api : UdpApi σ) (sock : ℕ) (I : σ → Prop) : Prop where
  sendto : ∀ data target, Preserves I (api.sendto sock data target)
  recvfrom : ∀ size, Preserves I (api.recvfrom sock size)

namespace KeptBy

variable {api : UdpApi σ} {I : σ → Prop} {net : HwVxNetworking} (h : KeptBy api net.sock I)
include h

theorem send (command : Text) : Preserves I (net.send api command) :=
  Preserves.ofExcept_bind fun data _ => h.sendto data net.target

theorem request (command : Text) (retries : ℕ) : Preserves I (net.request api command retries) := by
  induction retries with
  | zero => exact Preserves.throw _
  | succ retries ih =>
    refine (h.send command).bind fun _ => (receive_preserves h.recvfrom).bind fun reply => ?_
    split
    · exact Preserves.pure _
    · exact ih

theorem search : Preserves I (net.search api) :=
  (h.send ['X']).bind fun _ => collect_preserves h.recvfrom 255

theorem sendConfigPass (wire : String → Option Text) :
    Preserves I (HwVxDevice.sendConfigPass (net.send api) wire) :=
  (h.send ['L']).bind fun _ =>
    (Preserves.forM fun _ _ => (Preserves.ofExcept _).bind fun command => h.send command).bind
      fun _ => h.send ['E']

theorem pushNetwork (opener : Text) (newIp subnetMask gatewayIp : IPv4Address) :
    Preserves I (HwVxDevice.pushNetwork api net opener newIp subnetMask gatewayIp) :=
  (h.send _).bind fun _ => (h.send _).bind fun _ => (receive_preserves h.recvfrom).bind fun _ =>
    (h.send _).bind fun _ => (h.send _).bind fun _ => (h.send _).bind fun _ =>
      (receive_preserves h.recvfrom).bind fun _ => h.send _

end KeptBy

variable {api : UdpApi σ}

/-- The last socket opened may be used. -/
theorem keptBy_noted (api : UdpApi σ) (sock : ℕ) (sockets : List ℕ) :
    KeptBy (noted api) sock (OpenNow (sock :: sockets)) where
  sendto _ _ := noteAct_triple (.of_next rfl fun _ => if_pos rfl)
  recvfrom _ := noteAct_triple (.of_next rfl fun _ => if_pos rfl)

/-- A block around another socket leaves the sockets as they were. -/
theorem withOpen_openNow {ipAddress : Text} {sock : ℕ}
    {body : HwVxNetworking → EStateM PyError (σ × List Act) α}
    (hbody : ∀ net, Preserves (OpenNow [net.sock, sock]) (body net)) :
    Preserves (OpenNow [sock]) (HwVxNetworking.withOpen (noted api) ipAddress body) := by
  refine Triple.bind (init_openNow api ipAddress (Nat.lt_succ_self 1)) fun net => ?_
  have hclose : Triple (OpenNow [net.sock, sock]) (net.close (noted api)) (fun _ => OpenNow [sock])
      (fun _ => OpenNow [sock]) := noteAct_triple (.of_next rfl fun _ => if_pos rfl)
  exact Triple.finalize (hbody net) hclose hclose

theorem saveConfig_openNow (self : HwVxDevice) (cfg : DeviceConfig) :
    Preserves (OpenNow [self.net.sock]) (self.saveConfig (noted api) cfg) := by
  refine Preserves.ofExcept_bind fun wire _ =>
    ((keptBy_noted api self.net.sock []).sendConfigPass _).bind fun _ => ?_
  split
  · exact Preserves.pure _
  · refine withOpen_openNow fun net => ?_
    have hkept := keptBy_noted api net.sock [self.net.sock]
    exact (hkept.send _).bind fun _ => hkept.sendConfigPass _

theorem changeNetwork_openNow (self : HwVxDevice) (newIp subnetMask gatewayIp : IPv4Address) :
    Preserves (OpenNow [self.net.sock])
      (self.changeNetwork (noted api) newIp subnetMask gatewayIp) := by
  refine ((keptBy_noted api self.net.sock []).pushNetwork _ _ _ _).bind fun _ => ?_
  split
  · exact Preserves.pure _
  · exact withOpen_openNow fun net =>
      (keptBy_noted api net.sock [self.net.sock]).pushNetwork _ _ _ _

/-- The device with this socket, which is open and no other is. -/
def AtRest (sock : ℕ) (state : HwVxDevice × σ × List Act) : Prop :=
  state.1.net.sock = sock ∧ OpenNow [sock] state.2

theorem onNet_atRest {sock : ℕ} {program : EStateM PyError (σ × List Act) α}
    (h : Preserves (OpenNow [sock]) program) :
    Preserves (AtRest sock) (HwVxDevice.onNet program) :=
  HwVxDevice.onNet_preserves (D := fun self => self.net.sock = sock) h

theorem connect_atRest (sock : ℕ) : Preserves (AtRest sock) (HwVxDevice.connect (noted api)) := by
  have hkept (self : HwVxDevice) (hself : self.net.sock = sock) :
      KeptBy (noted api) self.net.sock (OpenNow [sock]) :=
    hself ▸ keptBy_noted api self.net.sock []
  exact HwVxDevice.connect_preserves (D := fun self => self.net.sock = sock)
    (fun _ _ h => h) (fun self h => (hkept self h).search)
    (fun self h => (hkept self h).request _ _)
    fun self h => (hkept self h).request _ _

theorem program_atRest (sock : ℕ) (operation : Operation) :
    Preserves (AtRest sock) (operation.program (noted api)) := by
  refine Preserves.get_bind fun ⟨self, s⟩ hself => ?_
  obtain ⟨rfl, _⟩ := hself
  have hkept := keptBy_noted api self.net.sock []
  cases operation with
  | connect => exact (connect_atRest self.net.sock).bind fun _ => Preserves.pure _
  | getConfig =>
    refine Preserves.bind (onNet_atRest (HwVxDevice.getConfig_preserves fun row _ => ?_)) fun _ =>
      Preserves.pure _
    exact self.net.requestSingle_preserves (hkept.request _ 5)
  | saveConfig cfg => exact onNet_atRest (saveConfig_openNow self cfg)
  | changeNetwork newIp subnetMask gatewayIp =>
    exact onNet_atRest (changeNetwork_openNow self newIp subnetMask gatewayIp)
  | setDhcp enabled =>
    exact onNet_atRest ((hkept.send _).bind fun _ => (hkept.send _).bind fun _ => hkept.send _)
  | reboot => exact onNet_atRest (hkept.send _)

theorem calls_atRest (sock : ℕ) (body : List (Operation × Bool)) :
    Preserves (AtRest sock) (Operation.calls (noted api) body) := by
  induction body with
  | nil => exact Preserves.pure _
  | cons call rest ih =>
    obtain ⟨operation, caught⟩ := call
    refine Preserves.bind ?_ fun _ => ih
    cases caught
    · exact program_atRest sock operation
    · exact Preserves.catch (program_atRest sock operation) fun _ => Preserves.pure _

theorem exit_triple (api : UdpApi σ) (sock : ℕ) :
    Triple (AtRest sock) (HwVxDevice.exit (noted api)) (fun _ state => OpenNow [] state.2)
      (fun _ state => OpenNow [] state.2) := by
  rintro ⟨self, s⟩ ⟨rfl, hopen⟩
  have hclosed : Triple (OpenNow [self.net.sock]) (self.close (noted api)) (fun _ => OpenNow [])
      (fun _ => OpenNow []) := noteAct_triple (.of_next rfl fun _ => if_pos rfl)
  have hend := hclosed s hopen
  have hexit : HwVxDevice.exit (noted api) (self, s) =
      HwVxDevice.onNet (self.close (noted api)) (self, s) := rfl
  rw [hexit]
  cases hrun : self.close (noted api) s <;> rw [hrun] at hend
  · rw [HwVxDevice.onNet_ok hrun]
    exact hend
  · rw [HwVxDevice.onNet_error hrun]
    exact hend

theorem init_triple (ipAddress : IPv4Address) (macAddress : Text) (broadcast : Bool)
    (broadcastIp : IPv4Address) :
    Triple (OpenNow [])
      (HwVxDevice.init (noted api) ipAddress macAddress broadcast broadcastIp)
      (fun device => OpenNow [device.net.sock]) (fun _ => OpenNow []) := by
  have hfirst : ([] : List ℕ).length < 2 := Nat.zero_lt_succ 1
  exact (init_openNow api _ hfirst).bind fun _ => Triple.pure fun _ hs => hs

theorem withDevice_openNow (ipAddress : IPv4Address) (macAddress : Text) (broadcast : Bool)
    (broadcastIp : IPv4Address) {body : EStateM PyError (HwVxDevice × σ × List Act) α}
    (hbody : ∀ sock, Preserves (AtRest sock) body) :
    Preserves (OpenNow [])
      (HwVxDevice.withOpen (noted api) ipAddress macAddress broadcast broadcastIp body) := by
  refine Triple.bind (init_triple ipAddress macAddress broadcast broadcastIp) fun device => ?_
  intro s hopen
  have hexit := exit_triple api device.net.sock
  have hblock := Triple.finalize (hbody device.net.sock) hexit hexit (device, s) ⟨rfl, hopen⟩
  dsimp only
  cases hrun : tryFinally body (HwVxDevice.exit (noted api)) (device, s) <;>
    rw [hrun] at hblock <;> exact hblock

/-- A block around any calls of `connect`, `get_config`, `save_config`, `change_network`,
`set_dhcp` and `reboot`, on any network, whatever of it raises: when it is left, every socket
that was opened has been closed, once, but those with an option that could not be set, which
stay open; no more than two were held at a time, and only the last one opened of these was
used. What the block does is what it does without the record. -/
theorem withDevice_sockets (api : UdpApi σ) (ipAddress : IPv4Address) (macAddress : Text)
    (broadcast : Bool) (broadcastIp : IPv4Address) (body : List (Operation × Bool)) (s : σ) :
    let block := HwVxDevice.withOpen (noted api) ipAddress macAddress broadcast broadcastIp
      (Operation.calls (noted api) body) (s, [])
    viewed Prod.fst block = HwVxDevice.withOpen api ipAddress macAddress broadcast broadcastIp
        (Operation.calls api body) s ∧
      openSockets (finalState block).2 = some ⟨[], refusals (finalState block).2⟩ := by
  refine ⟨(enlarges_noted api).withDevice ipAddress macAddress broadcast broadcastIp
    ((enlarges_noted api).calls body) (s, []), ?_⟩
  have hblock : Preserves (OpenNow []) (HwVxDevice.withOpen (noted api) ipAddress macAddress
      broadcast broadcastIp (Operation.calls (noted api) body)) :=
    withDevice_openNow ipAddress macAddress broadcast broadcastIp fun sock =>
      calls_atRest sock body
  exact hblock.finalState (s := (s, [])) rfl

end UhfReader18.Hwvx
