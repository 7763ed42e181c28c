import UhfReader18.Hwvx.Tap

/-!
# Which module a device connects to

A device without a MAC searches first. `connect` goes on with the first module that answers,
whatever its address is.

Results:
1. `connect_tap`: what `connect` makes of the coming arrivals.
2. `connect_selects_own_iff`: it selects the module at the device's address exactly if that
   module's reply is the first to come. `connect_selects_other`: otherwise it selects another.
-/

namespace UhfReader18.Hwvx

open Stateful HwVxDevice

/-- A reply to a search that comes from the address and announces the MAC. -/
def Announces (arrival : Arrival) (address : IPv4Address) (mac : Text) : Prop :=
  ∃ data body port rest, arrival = some (data, address) ∧ received data = .ok ('A' :: body) ∧
    body.splitOn '/' = mac :: port :: rest

/-! ## Replies to a search -/

theorem ipAddress_searchResult (address : IPv4Address) (body : Text) :
    (searchResult address body).ipAddress = some address := by
  simp only [searchResult]
  split <;> split <;> rfl

/-- The MAC is what comes before the first slash. -/
theorem macAddress_searchResult (address : IPv4Address) (body : Text) :
    (searchResult address body).macAddress =
      match body.splitOn '/' with
      | mac :: _ :: _ => mac
      | _ => [] := by
  simp only [searchResult]
  rcases body.splitOn '/' with _ | ⟨mac, _ | ⟨port, rest⟩⟩
  · rfl
  · rfl
  · simp only
    split <;> rfl

theorem prefix_of_splitOn {text first : Text} {c : Char} {rest : List Text}
    (h : text.splitOn c = first :: rest) : first <+: text := by
  have hjoin : [c].intercalate (text.splitOn c) = text := List.intercalate_splitOn c
  rw [h] at hjoin
  cases rest with
  | nil =>
    rw [List.intercalate_singleton] at hjoin
    exact ⟨[], by rw [List.append_nil, hjoin]⟩
  | cons second rest =>
    rw [List.intercalate_cons_cons] at hjoin
    exact ⟨_, by rw [← hjoin, List.append_assoc]⟩

theorem isAscii_macAddress {address : IPv4Address} {body : Text} (h : isAscii body) :
    isAscii (searchResult address body).macAddress := by
  rw [macAddress_searchResult]
  split
  · next hsplit => exact fun c hc => h c ((prefix_of_splitOn hsplit).subset hc)
  · exact fun c hc => absurd hc List.not_mem_nil

theorem eq_of_replyBody {text body : Text} (h : replyBody text = some body) :
    text = 'A' :: body := by
  unfold replyBody at h
  split at h
  · cases h
    rfl
  · cases h

/-- The first module found is the one whose reply comes first. -/
theorem head_of_collected {passes : ℕ} {arrivals rest : List Arrival} {r : SearchResult}
    {more : List SearchResult} (h : collected passes arrivals = some (r :: more, rest)) :
    ∃ data address body, arrivals.head? = some (some (data, address)) ∧
      received data = .ok ('A' :: body) ∧ r = searchResult address body := by
  unfold collected at h
  split at h
  · cases h
  · cases h
  · cases h
  · next data address arrivals =>
    refine ⟨data, address, ?_⟩
    split at h
    · next text hreceived =>
      split at h
      · next body hbody =>
        obtain ⟨found, -, hfound⟩ := Option.map_eq_some_iff.mp h
        cases hfound
        exact ⟨body, rfl, by rw [hreceived, eq_of_replyBody hbody], rfl⟩
      · cases h
    · cases h

/-! ## Connecting -/

/-- The module `connect` goes on with; `none` where none is found, a datagram is no ASCII, or
nothing answers the `W` or the `L` in time. -/
def connected (arrivals : List Arrival) : Option SearchResult :=
  match collected 255 arrivals with
  | some (r :: _, rest) =>
    match answered 3 rest with
    | some (_, rest) => (answered 3 rest).map fun _ => r
    | none => none
  | _ => none

/-- What a device without a MAC sends until it is connected: an echo, and then the two
requests, each of them once or more. -/
def selection (net : HwVxNetworking) (mac : Text) (selects logins : ℕ) : List Datagram :=
  net.datagram ['X'] :: (List.replicate (selects + 1) (net.datagram ('W' :: mac)) ++
    List.replicate (logins + 1) (net.datagram ['L']))

/-- How `connect` may end. -/
def Connected (self : HwVxDevice) (tap : Tap) : Option SearchResult → Prop
  | some r =>
    ∃ rest selects logins, connect tapApi (self, tap) =
      .ok r ({ self with mac := r.macAddress },
        { tap with
          arrivals := rest
          sent := tap.sent ++ selection self.net r.macAddress selects logins })
  | none => ∃ e after, connect tapApi (self, tap) = .error e after

section

variable {σ : Type} (api : UdpApi σ) {self : HwVxDevice} {s s' : σ}

/-- Without a MAC, the module is the first one found. -/
theorem chooseModule_search (hmac : self.mac = []) (s : σ) :
    chooseModule api (self, s) =
      match self.net.search api s with
      | .ok [] s =>
        .error ⟨.connectionError, s!"No reader found at {String.ofList self.ip.text}"⟩ (self, s)
      | .ok (r :: _) s => .ok r ({ self with mac := r.macAddress }, s)
      | .error e s => .error e (self, s) := by
  unfold chooseModule
  rw [get_bind]
  simp only [hmac, ne_eq, not_true_eq_false, if_false]
  cases hsearch : self.net.search api s with
  | error e s' => rw [bind_of_error (onNet_error hsearch)]
  | ok results s' =>
    rw [bind_of_ok (onNet_ok hsearch)]
    cases results <;> rfl

variable {api}

theorem connect_of_error {e : PyError} {after : HwVxDevice × σ}
    (h : chooseModule api (self, s) = .error e after) : connect api (self, s) = .error e after :=
  bind_of_error h _

variable {self' : HwVxDevice} {r : SearchResult}

/-- With the module chosen, `connect` is two requests. -/
theorem connect_of_ok (h : chooseModule api (self, s) = .ok r (self', s')) :
    connect api (self, s) =
      (do
        let _ ← onNet (self'.net.request api ('W' :: self'.mac) 3)
        let _ ← onNet (self'.net.request api ['L'] 3)
        return r : EStateM PyError (HwVxDevice × σ) SearchResult) (self', s') := by
  unfold connect
  rw [bind_of_ok h, get_bind]

end

/-- A device without a MAC goes on with the first module found. -/
theorem connect_tap {self : HwVxDevice} (hmac : self.mac = []) (tap : Tap) :
    Connected self tap (connected tap.arrivals) := by
  have hchoose := chooseModule_search tapApi hmac tap
  unfold connected
  rcases hcollected : collected 255 tap.arrivals with _ | ⟨_ | ⟨r, more⟩, rest⟩
  · -- a datagram is no ASCII
    obtain ⟨e, after, hsearch⟩ := search_tap_error self.net hcollected
    rw [hsearch] at hchoose
    exact ⟨e, _, connect_of_error hchoose⟩
  · -- nobody answers
    rw [search_tap self.net hcollected] at hchoose
    exact ⟨_, _, connect_of_error hchoose⟩
  · dsimp only
    rw [search_tap self.net hcollected] at hchoose
    have hconnect := connect_of_ok hchoose
    obtain ⟨data, address, body, -, hreceived, hr⟩ := head_of_collected hcollected
    have hascii : isAscii ('W' :: r.macAddress) := by
      have hbody := isAscii_cons.mp (encode_of_decodeAscii hreceived).1
      rw [hr, isAscii_cons]
      exact ⟨by decide, isAscii_macAddress hbody.2⟩
    have hselect := request_tap self.net hascii 3 (tap.after self.net 1 ['X'] rest)
    rw [Tap.arrivals_after] at hselect
    rcases hselected : answered 3 rest with _ | ⟨body, rest'⟩
    · rw [hselected] at hselect
      obtain ⟨e, after, hselect⟩ := hselect
      rw [bind_of_error (onNet_error hselect)] at hconnect
      exact ⟨e, _, hconnect⟩
    · dsimp only
      rw [hselected] at hselect
      obtain ⟨selects, hselect⟩ := hselect
      rw [bind_of_ok (onNet_ok hselect)] at hconnect
      have hlogin := request_tap self.net (by decide : isAscii ['L']) 3
        ((tap.after self.net 1 ['X'] rest).after self.net (selects + 1) ('W' :: r.macAddress) rest')
      rw [Tap.arrivals_after] at hlogin
      rcases hloggedIn : answered 3 rest' with _ | ⟨body', rest''⟩
      · rw [hloggedIn] at hlogin
        obtain ⟨e, after, hlogin⟩ := hlogin
        rw [bind_of_error (onNet_error hlogin)] at hconnect
        exact ⟨e, _, hconnect⟩
      · rw [hloggedIn] at hlogin
        obtain ⟨logins, hlogin⟩ := hlogin
        rw [bind_of_ok (onNet_ok hlogin)] at hconnect
        refine ⟨rest'', selects, logins, hconnect.trans ?_⟩
        simp [Tap.after, selection, pure, EStateM.pure]

/-! ## Whose module it is -/

/-- The module is the one at the address: it announced the MAC from there. -/
structure IsOwn (address : IPv4Address) (arrivals : List Arrival) (r : SearchResult) : Prop where
  ipAddress : r.ipAddress = some address
  nonempty : r.macAddress ≠ []
  announced : ∃ arrival ∈ arrivals, Announces arrival address r.macAddress

/-- `connect` has returned the device's own module, and has kept and selected its MAC. -/
structure SelectsOwn (device : HwVxDevice) (tap : Tap) (r : SearchResult) (device' : HwVxDevice)
    (tap' : Tap) : Prop where
  own : IsOwn device.ip tap.arrivals r
  stored : device'.mac = r.macAddress
  selected : ∃ selects logins,
    tap'.sent = tap.sent ++ selection device.net r.macAddress selects logins

/-- The first arrival comes from the address and announces a MAC. -/
def FirstIsOwn (address : IPv4Address) (arrivals : List Arrival) : Prop :=
  ∃ arrival ∈ arrivals.head?, ∃ mac, mac ≠ [] ∧ Announces arrival address mac

theorem head_of_connected {arrivals : List Arrival} {r : SearchResult}
    (h : connected arrivals = some r) :
    ∃ data address body, arrivals.head? = some (some (data, address)) ∧
      received data = .ok ('A' :: body) ∧ r = searchResult address body := by
  unfold connected at h
  split at h
  · next r' more rest hcollected =>
    have hr : r' = r := by
      split at h
      · exact (Option.map_eq_some_iff.mp h).elim fun _ hmap => hmap.2
      · cases h
    rw [← hr]
    exact head_of_collected hcollected
  · cases h

/-- The module chosen is the device's own exactly if its reply comes first. -/
theorem isOwn_iff_first {address : IPv4Address} {arrivals : List Arrival} {r : SearchResult}
    (h : connected arrivals = some r) : IsOwn address arrivals r ↔ FirstIsOwn address arrivals := by
  obtain ⟨data, address', body, hhead, hreceived, rfl⟩ := head_of_connected h
  constructor
  · rintro ⟨hip, hmac, -⟩
    rw [ipAddress_searchResult, Option.some_inj] at hip
    rw [macAddress_searchResult] at hmac
    refine ⟨_, hhead, ?_⟩
    split at hmac
    · next mac port rest hsplit =>
      exact ⟨mac, hmac, data, body, port, rest, by rw [hip], hreceived, hsplit⟩
    · exact absurd rfl hmac
  · rintro ⟨arrival, harrival, mac, hmac, data', body', port, rest, rfl, hreceived', hsplit⟩
    rw [hhead, Option.mem_some_iff] at harrival
    cases harrival
    rw [hreceived] at hreceived'
    cases hreceived'
    have hannounced : (searchResult address body).macAddress = mac := by
      rw [macAddress_searchResult, hsplit]
    refine ⟨ipAddress_searchResult address body, by rwa [hannounced], _,
      List.mem_of_head? hhead, ?_⟩
    rw [hannounced]
    exact ⟨data, body, port, rest, rfl, hreceived, hsplit⟩

/-- A device without a MAC selects its own module exactly if that module's reply is the first
arrival, or the arrivals do not let `connect` finish. -/
theorem connect_selects_own_iff (device : HwVxDevice) (hmac : device.mac = []) (tap : Tap) :
    (∀ r device' tap', connect tapApi (device, tap) = .ok r (device', tap') →
        SelectsOwn device tap r device' tap') ↔
      ((connected tap.arrivals).isSome → FirstIsOwn device.ip tap.arrivals) := by
  have hconnected := connect_tap hmac tap
  cases hchosen : connected tap.arrivals with
  | none =>
    rw [hchosen] at hconnected
    obtain ⟨e, after, hrun⟩ := hconnected
    refine ⟨fun _ hsome => absurd hsome Bool.false_ne_true, fun _ r device' tap' hok => ?_⟩
    rw [hrun] at hok
    cases hok
  | some r =>
    rw [hchosen] at hconnected
    obtain ⟨rest, selects, logins, hrun⟩ := hconnected
    constructor
    · intro hselects _
      exact (isOwn_iff_first hchosen).mp (hselects _ _ _ hrun).own
    · intro hfirst r' device' tap' hok
      rw [hrun] at hok
      cases hok
      exact ⟨(isOwn_iff_first hchosen).mpr (hfirst rfl), rfl, selects, logins, rfl⟩

/-- A device that asks the whole network for the module at 10.0.0.2. -/
def askingDevice : HwVxDevice :=
  ⟨⟨10, 0, 0, 2⟩, true, lanBroadcast, ⟨0, (lanBroadcast.text, udpPort)⟩, []⟩

/-- What the module at 10.0.0.2 answers to a search. -/
def ownReply : Arrival := some ("A02/4196/".toList.map asciiByte, ⟨10, 0, 0, 2⟩)

/-- What a module at 10.0.0.9 answers. -/
def otherReply : Arrival := some ("A09/4196/".toList.map asciiByte, ⟨10, 0, 0, 9⟩)

/-- The end of the search, and replies to the select and the login. -/
def acknowledged : List Arrival :=
  [none, some ([asciiByte 'A'], ⟨10, 0, 0, 2⟩), some ([asciiByte 'A'], ⟨10, 0, 0, 2⟩)]

/-- With the device's own module first, it is returned, kept and selected. -/
theorem connect_selects_own_first :
    let tap : Tap := { arrivals := ownReply :: otherReply :: acknowledged }
    ∃ r device' tap', connect tapApi (askingDevice, tap) = .ok r (device', tap') ∧
      SelectsOwn askingDevice tap r device' tap' ∧ device'.mac = "02".toList := by
  intro tap
  have hconnected := connect_tap (rfl : askingDevice.mac = []) tap
  have hchosen : connected tap.arrivals =
      some (searchResult ⟨10, 0, 0, 2⟩ "02/4196/".toList) := by decide +kernel
  have hfirst : FirstIsOwn askingDevice.ip tap.arrivals := by
    refine ⟨ownReply, rfl, "02".toList, by decide, ?_⟩
    exact ⟨_, "02/4196/".toList, "4196".toList, [[]], rfl, by decide +kernel, by decide +kernel⟩
  rw [hchosen] at hconnected
  obtain ⟨rest, selects, logins, hrun⟩ := hconnected
  refine ⟨_, _, _, hrun, ?_, by decide +kernel⟩
  exact (connect_selects_own_iff askingDevice rfl tap).mpr (fun _ => hfirst) _ _ _ hrun

/-- With the other module first, that one is returned, kept and selected. -/
theorem connect_selects_other :
    (∃ tap, HwVxDevice.init tapApi ⟨10, 0, 0, 2⟩ [] true lanBroadcast
        { arrivals := otherReply :: ownReply :: acknowledged } = .ok askingDevice tap ∧
      ∃ r device' tap', connect tapApi (askingDevice, tap) = .ok r (device', tap') ∧
        r.ipAddress = some ⟨10, 0, 0, 9⟩ ∧ device'.mac = "09".toList ∧
        askingDevice.net.datagram "W09".toList ∈ tap'.sent) := by
  refine ⟨_, rfl, ?_⟩
  have hconnected : Connected askingDevice _ _ :=
    connect_tap rfl { arrivals := otherReply :: ownReply :: acknowledged, sockets := 1 }
  have hchosen : connected (otherReply :: ownReply :: acknowledged) =
      some (searchResult ⟨10, 0, 0, 9⟩ "09/4196/".toList) := by decide +kernel
  rw [hchosen] at hconnected
  obtain ⟨rest, selects, logins, hrun⟩ := hconnected
  refine ⟨_, _, _, hrun, by decide +kernel, by decide +kernel, ?_⟩
  have hmac : (searchResult ⟨10, 0, 0, 9⟩ "09/4196/".toList).macAddress = "09".toList := by
    decide +kernel
  rw [hmac]
  simp [selection, List.replicate_succ]

end UhfReader18.Hwvx
