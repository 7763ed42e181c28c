import UhfReader18.Hwvx.Choice

/-!
# What a search finds

A search should find every module that answers before the receive timeout, up to the first
datagram that is no reply, and a quirk in a reply should cost no more than the field it
affects. A port that is no number becomes zero for this reason. But a reply is decoded as
strict ASCII, and so is the datagram that ends the search, and the exception leaves the search
with everything that was found.

Results:
1. `collected_describes`, `collected_eq_none`: what the loop makes of the arrivals.
2. `discovers_iff`: a search finds all modules exactly if there are at most 255 and every
   datagram it looks at is ASCII.
-/

namespace UhfReader18.Hwvx

open Stateful

/-! ## What there is to find -/

/-- The datagrams that come before the first timeout. -/
def heard : List Arrival → List (Bytes × IPv4Address)
  | some datagram :: arrivals => datagram :: heard arrivals
  | _ => []

/-- The datagram begins with `A`. -/
def isReply (datagram : Bytes × IPv4Address) : Bool :=
  datagram.1.head? = some (asciiByte 'A')

/-- The replies before the first other datagram. -/
def replies (arrivals : List Arrival) : List (Bytes × IPv4Address) :=
  (heard arrivals).takeWhile isReply

/-- The body of a received reply, byte for byte. -/
def replyText (data : Bytes) : Text :=
  (data.take recvBuffer).tail.map fun b => Char.ofNat b.toNat

/-- What should be known of the module that sent a reply: its address in any case, and the
rest as far as the reply has the parts. -/
structure Describes (datagram : Bytes × IPv4Address) (result : SearchResult) : Prop where
  ipAddress : result.ipAddress = some datagram.2
  macAndPort : ∀ mac port rest, (replyText datagram.1).splitOn '/' = mac :: port :: rest →
    result.macAddress = mac ∧ result.portNumber = (pyInt port).getD 0
  names : ∀ mac port third fourth username deviceName rest,
    (replyText datagram.1).splitOn '/' =
        mac :: port :: third :: fourth :: username :: deviceName :: rest →
      result.username = username ∧ result.deviceName = deviceName

/-- The search returns, with one result for each reply, in the order in which they come. -/
def Discovers (search : EStateM PyError Tap (List SearchResult)) (tap : Tap) : Prop :=
  ∃ results after, search tap = .ok results after ∧
    List.Forall₂ Describes (replies tap.arrivals) results

/-! ## What the loop looks at -/

/-- What is received of the datagram is ASCII. -/
def isAsciiData (datagram : Bytes × IPv4Address) : Bool :=
  (datagram.1.take recvBuffer).all (· < 128)

/-- The datagrams that a loop of so many passes looks at: the replies and the first other
one. -/
def examined (passes : ℕ) (arrivals : List Arrival) : List (Bytes × IPv4Address) :=
  ((heard arrivals).take ((replies arrivals).length + 1)).take passes

/-- The modules can all be found. -/
def Discoverable (arrivals : List Arrival) : Prop :=
  (replies arrivals).length ≤ 255 ∧ ∀ datagram ∈ examined 255 arrivals, isAsciiData datagram

section Loop

variable {datagram : Bytes × IPv4Address} {arrivals : List Arrival}

theorem replies_of_reply (h : isReply datagram = true) :
    replies (some datagram :: arrivals) = datagram :: replies arrivals := by
  rw [replies, heard, List.takeWhile_cons_of_pos h, replies]

theorem replies_of_other (h : isReply datagram = false) :
    replies (some datagram :: arrivals) = [] := by
  rw [replies, heard, List.takeWhile_cons_of_neg (by simp [h])]

theorem examined_of_reply (h : isReply datagram = true) (passes : ℕ) :
    examined (passes + 1) (some datagram :: arrivals) =
      datagram :: examined passes arrivals := by
  rw [examined, replies_of_reply h, heard, List.length_cons, List.take_succ_cons,
    List.take_succ_cons, examined]

theorem examined_of_other (h : isReply datagram = false) (passes : ℕ) :
    examined (passes + 1) (some datagram :: arrivals) = [datagram] := by
  rw [examined, replies_of_other h, heard, List.length_nil, List.take_succ_cons,
    List.take_succ_cons, List.take_zero, List.take_nil]

/-- A datagram is read as it is, unless it is no ASCII. -/
theorem received_of_ascii (h : isAsciiData datagram = true) :
    received datagram.1 =
      .ok ((datagram.1.take recvBuffer).map fun b => Char.ofNat b.toNat) :=
  if_pos h

theorem received_of_not_ascii (h : isAsciiData datagram = false) :
    ∃ e, received datagram.1 = .error e :=
  ⟨_, if_neg (by simpa [isAsciiData] using h)⟩

theorem replyBody_of_reply (h : isReply datagram = true) :
    replyBody ((datagram.1.take recvBuffer).map fun b => Char.ofNat b.toNat) =
      some (replyText datagram.1) := by
  obtain ⟨data, address⟩ := datagram
  cases data with
  | nil => cases h
  | cons first tail =>
    obtain rfl : first = asciiByte 'A' := Option.some.inj (of_decide_eq_true h)
    rfl

theorem replyBody_of_other (hascii : isAsciiData datagram = true)
    (h : isReply datagram = false) :
    replyBody ((datagram.1.take recvBuffer).map fun b => Char.ofNat b.toNat) = none := by
  refine replyBody_of_ne fun body htext => ?_
  have hread := received_of_ascii hascii
  rw [htext] at hread
  have hdata : datagram.1.take recvBuffer = asciiByte 'A' :: body.map asciiByte :=
    (encode_of_decodeAscii hread).2.symm
  have hhead : datagram.1.head? = some (asciiByte 'A') := by
    have htake : (datagram.1.take recvBuffer).head? = datagram.1.head? := List.head?_take
    rw [← htake, hdata]
    rfl
  rw [isReply, hhead] at h
  cases h

end Loop

theorem describes_searchResult (datagram : Bytes × IPv4Address) :
    Describes datagram (searchResult datagram.2 (replyText datagram.1)) := by
  constructor
  · exact ipAddress_searchResult _ _
  · intro mac port rest hparts
    unfold searchResult
    rw [hparts]
    simp only
    split
    · exact ⟨rfl, rfl⟩
    · exact ⟨rfl, rfl⟩
  · intro mac port third fourth username deviceName rest hparts
    unfold searchResult
    rw [hparts]
    exact ⟨rfl, rfl⟩

theorem collected_describes {passes : ℕ} {arrivals : List Arrival}
    (h : ∀ datagram ∈ examined passes arrivals, isAsciiData datagram = true) :
    ∃ results rest, collected passes arrivals = some (results, rest) ∧
      List.Forall₂ Describes ((replies arrivals).take passes) results := by
  induction passes generalizing arrivals with
  | zero => exact ⟨[], arrivals, rfl, .nil⟩
  | succ passes ih =>
    rcases arrivals with _ | ⟨_ | datagram, arrivals⟩
    · exact ⟨[], [], rfl, .nil⟩
    · exact ⟨[], arrivals, rfl, .nil⟩
    cases hreply : isReply datagram with
    | true =>
      rw [examined_of_reply hreply, List.forall_mem_cons] at h
      obtain ⟨results, rest, hcollected, hall⟩ := ih h.2
      refine ⟨searchResult datagram.2 (replyText datagram.1) :: results, rest, ?_, ?_⟩
      · simp only [collected, received_of_ascii h.1, replyBody_of_reply hreply, hcollected,
          Option.map_some]
      · rw [replies_of_reply hreply, List.take_succ_cons]
        exact .cons (describes_searchResult datagram) hall
    | false =>
      rw [examined_of_other hreply, List.forall_mem_singleton] at h
      refine ⟨[], arrivals, ?_, ?_⟩
      · simp only [collected, received_of_ascii h, replyBody_of_other h hreply]
      · rw [replies_of_other hreply]
        exact .nil

/-- One datagram that is no ASCII is enough to lose everything. -/
theorem collected_eq_none {passes : ℕ} {arrivals : List Arrival}
    (h : ∃ datagram ∈ examined passes arrivals, isAsciiData datagram = false) :
    collected passes arrivals = none := by
  obtain ⟨bad, hbad, hascii⟩ := h
  induction passes generalizing arrivals with
  | zero => cases hbad
  | succ passes ih =>
    rcases arrivals with _ | ⟨_ | datagram, arrivals⟩
    · cases hbad
    · cases hbad
    cases hread : isAsciiData datagram with
    | false =>
      obtain ⟨e, hreceived⟩ := received_of_not_ascii hread
      simp only [collected, hreceived]
    | true =>
      have hother : datagram ≠ bad := by
        rintro rfl
        rw [hread] at hascii
        cases hascii
      cases hreply : isReply datagram with
      | true =>
        rw [examined_of_reply hreply] at hbad
        have hrest : bad ∈ examined passes arrivals :=
          (List.mem_cons.mp hbad).resolve_left hother.symm
        simp only [collected, received_of_ascii hread, replyBody_of_reply hreply, ih hrest,
          Option.map_none]
      | false =>
        rw [examined_of_other hreply, List.mem_singleton] at hbad
        exact absurd hbad.symm hother

/-! ## Searches -/

/-- Sending reaches nothing that is still to come. -/
theorem sendto_all (net : HwVxNetworking) (ipAddresses : List Text) (tap : Tap) :
    ∃ tap', (forM ipAddresses fun ipAddress =>
        tapApi.sendto net.sock [asciiByte 'X'] (ipAddress, udpPort) : EStateM PyError Tap Unit)
          tap = .ok () tap' ∧ tap'.arrivals = tap.arrivals := by
  induction ipAddresses generalizing tap with
  | nil => exact ⟨tap, rfl, rfl⟩
  | cons ipAddress ipAddresses ih =>
    obtain ⟨tap', hrun, harrivals⟩ := ih
      { tap with sent := tap.sent ++ [⟨net.sock, (ipAddress, udpPort), [asciiByte 'X']⟩] }
    exact ⟨tap', hrun, harrivals⟩

/-- A program that ends with the loop finds all modules exactly if they can be found. -/
theorem discovers_of_collect {net : HwVxNetworking} {tap tap' : Tap}
    {search : EStateM PyError Tap (List SearchResult)}
    (hsearch : search tap = net.collectSearchResults tapApi 255 tap')
    (harrivals : tap'.arrivals = tap.arrivals) :
    Discovers search tap ↔ Discoverable tap.arrivals := by
  have hsearched := collect_tap net 255 tap'
  rw [harrivals] at hsearched
  constructor
  · rintro ⟨results, after, hrun, hall⟩
    rw [hsearch] at hrun
    have hascii : ∀ datagram ∈ examined 255 tap.arrivals, isAsciiData datagram = true := by
      intro datagram hmem
      by_contra hbad
      rw [collected_eq_none ⟨datagram, hmem, Bool.eq_false_of_not_eq_true hbad⟩] at hsearched
      obtain ⟨e, after', hraise⟩ := hsearched
      rw [hrun] at hraise
      cases hraise
    obtain ⟨results', rest, hcollected, hall'⟩ := collected_describes hascii
    rw [hcollected] at hsearched
    have hsame : results' = results := by
      have hresults := hsearched.symm.trans hrun
      cases hresults
      rfl
    have hlength := hall'.length_eq
    rw [hsame, ← hall.length_eq, List.length_take] at hlength
    exact ⟨min_eq_right_iff.mp hlength, hascii⟩
  · rintro ⟨hfew, hascii⟩
    obtain ⟨results, rest, hcollected, hall⟩ := collected_describes hascii
    rw [hcollected] at hsearched
    rw [List.take_of_length_le hfew] at hall
    exact ⟨results, _, hsearch.trans hsearched, hall⟩

/-- A search, with a broadcast or with targets, returns all modules that answer exactly if
there are at most 255 of them and everything the loop looks at, their replies and the first
other datagram, is ASCII. -/
theorem discovers_iff (net : HwVxNetworking) (ipAddresses : List Text) (tap : Tap) :
    (Discovers (net.search tapApi) tap ↔ Discoverable tap.arrivals) ∧
    (Discovers (net.searchTargets tapApi ipAddresses) tap ↔ Discoverable tap.arrivals) := by
  refine ⟨discovers_of_collect (bind_of_ok (send_tap net (by decide) tap) _) rfl, ?_⟩
  obtain ⟨tap', hrun, harrivals⟩ := sendto_all net ipAddresses tap
  exact discovers_of_collect (bind_of_ok hrun _) harrivals

/-- Two modules answer, the second one with an `é` in its device name. -/
def accented : Tap where
  arrivals :=
    [some ("A0.0.0.0.0.1/6000/0/0/user/one".toList.map asciiByte, ⟨10, 0, 0, 1⟩),
     some ("A0.0.0.0.0.2/6000/0/0/user/caf".toList.map asciiByte ++ [0xE9], ⟨10, 0, 0, 2⟩)]

/-- Neither module is found: the search raises. -/
theorem not_discovers_accented :
    ¬ Discovers (HwVxNetworking.search tapApi ⟨0, "255.255.255.255".toList, udpPort⟩)
      accented := by
  rintro ⟨results, after, hrun, -⟩
  have hnone : collected 255 accented.arrivals = none := by decide
  obtain ⟨e, after', hraise⟩ :=
    search_tap_error ⟨0, "255.255.255.255".toList, udpPort⟩ hnone
  rw [hrun] at hraise
  cases hraise

end UhfReader18.Hwvx
