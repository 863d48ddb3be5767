import Socks.FirstMessage
import Socks.Grammar

/-!
# What the server's parsers accept

The two parsers of CONNECT requests see a buffer of the size the read has ended with. Whatever the
read has ended for, the SOCKS5 parser goes on to connect or resolve exactly on the requests that
are complete; the sizes it compares are those of the format.

The SOCKS4 parser asks for eight bytes and no more. Whether they are followed by a user id, and
whether that has been terminated, is left to the read.

## Main definitions

* `Socks.CompleteRequest`, `Socks.CompleteRequestV4` — one complete CONNECT request
* `Socks.ConnectCase`, `Socks.ConnectCaseV4` — what the parsers can go on with

## Main results

* `Socks.completeRequest_iff`, `Socks.completeRequestV4_iff` — what they are, byte by byte
* `Socks.parseSocksConnect_cases`, `Socks.parseSocksConnectV4_cases` — the parsers
-/

namespace Socks

open Asio SocksConnection

variable {bs : Bytes}

/-! ### Complete requests -/

/-- `05 01 00`, then ATYP 01 with 10 bytes, ATYP 04 with 22, or ATYP 03 with 7 + LEN. -/
def CompleteRequest (bs : Bytes) : Prop :=
  byteAt bs 0 = 0x05 ∧ byteAt bs 1 = 0x01 ∧ byteAt bs 2 = 0x00 ∧
    (byteAt bs 3 = 0x01 ∧ bs.length = 10 ∨ byteAt bs 3 = 0x04 ∧ bs.length = 22 ∨
      byteAt bs 3 = 0x03 ∧ bs.length = 7 + (byteAt bs 4).toNat)

instance (bs : Bytes) : Decidable (CompleteRequest bs) := inferInstanceAs (Decidable (_ ∧ _))

/-- `04 01`, a port, an address, a user id and the zero that ends it. -/
def CompleteRequestV4 (bs : Bytes) : Prop :=
  ∃ targetHost socksUser, decodeRequestV4 bs = some ((targetHost, socksUser), [])

theorem CompleteRequest.seven_le (h : CompleteRequest bs) : 7 ≤ bs.length := by
  obtain ⟨-, -, -, ⟨-, h⟩ | ⟨-, h⟩ | ⟨-, h⟩⟩ := h <;> omega

/-- The first `n` bytes, one by one. -/
theorem take_eq_ofFn {n : ℕ} (h : n ≤ bs.length) :
    bs.take n = List.ofFn fun i : Fin n => byteAt bs i := by
  have hlen : (bs.take n).length = n := List.length_take_of_le h
  have hbyte : ∀ i : Fin n, byteAt (bs.take n) i = byteAt bs i := fun i =>
    byteAt_of_prefix_lt (List.take_prefix n bs) (Nat.lt_of_lt_of_eq i.isLt hlen.symm)
  have htake : List.ofFn (fun i : Fin n => byteAt (bs.take n) i) = bs.take n := ofFn_byteAt hlen
  simp only [hbyte] at htake
  exact htake.symm

/-- A SOCKS4 request is complete when the first zero from byte 8 on is its last byte. -/
theorem completeRequestV4_iff : CompleteRequestV4 bs ↔
    byteAt bs 0 = 0x04 ∧ byteAt bs 1 = 0x01 ∧ Terminated bs bs.length ∧
      ¬Terminated bs (bs.length - 1) := by
  constructor
  · rintro ⟨targetHost, socksUser, h⟩
    obtain ⟨huser, hbs⟩ := decodeRequestV4_eq_some_iff.mp h
    obtain rfl : bs = requestV4Bytes targetHost socksUser := by
      rw [hbs]
      simp [requestV4Bytes]
    refine ⟨rfl, rfl, (terminated_iff huser List.prefix_rfl).mpr rfl, ?_⟩
    rintro ⟨i, h8, hi, hzero⟩
    obtain ⟨j, rfl⟩ := Nat.exists_eq_add_of_le h8
    rw [length_requestV4Bytes] at hi
    have hj : j < socksUser.length := by omega
    rw [byteAt_requestV4Bytes, byteAt_append _ hj, byteAt_eq_getElem hj] at hzero
    exact huser (hzero ▸ List.getElem_mem hj)
  · rintro ⟨h0, h1, ⟨i, h8, hi, hzero⟩, hearly⟩
    have hlast : i + 1 = bs.length := by
      by_contra hne
      exact hearly ⟨i, h8, by omega, hzero⟩
    have hdrop : bs.drop 8 = (bs.drop 8).dropLast ++ [0x00] := by
      have hne : bs.drop 8 ≠ [] := by
        rw [ne_eq, List.drop_eq_nil_iff]
        omega
      have hgetLast : (bs.drop 8).getLast hne = 0x00 := by
        rw [List.getLast_drop, List.getLast_eq_getElem, ← byteAt_eq_getElem, ← hlast]
        exact hzero
      conv_lhs => rw [← List.dropLast_append_getLast hne, hgetLast]
    have huser : 0x00 ∉ (bs.drop 8).dropLast := by
      intro hmem
      obtain ⟨j, hj, hget⟩ := List.getElem_of_mem hmem
      rw [List.length_dropLast, List.length_drop] at hj
      rw [List.getElem_dropLast, List.getElem_drop] at hget
      exact hearly ⟨8 + j, by omega, by omega, by rw [byteAt_eq_getElem (by omega), hget]⟩
    refine ⟨⟨⟨![byteAt bs 4, byteAt bs 5, byteAt bs 6, byteAt bs 7]⟩,
      (byteAt bs 2).toUInt16 <<< 8 ||| (byteAt bs 3).toUInt16⟩, (bs.drop 8).dropLast,
      decodeRequestV4_eq_some_iff.mpr ⟨huser, ?_⟩⟩
    rw [← hdrop, portBytes_join]
    conv_lhs => rw [← List.take_append_drop 8 bs, take_eq_ofFn (show 8 ≤ bs.length by omega)]
    simp [AddressV4.toBytes, List.ofFn_succ, h0, h1]

/-- A message of `n + 6` bytes: VER, CMD, RSV and ATYP, `n` bytes, and a port. -/
theorem request_split {n : ℕ} (hlen : bs.length = n + 6) :
    bs = byteAt bs 0 :: byteAt bs 1 :: byteAt bs 2 :: byteAt bs 3 ::
      (List.ofFn (fun i : Fin n => byteAt bs (4 + i)) ++
        [byteAt bs (4 + n), byteAt bs (5 + n)]) := by
  match bs, hlen with
  | b0 :: b1 :: b2 :: b3 :: rest, hlen =>
    have hrest : rest.length = n + 2 :=
      Nat.add_right_cancel (show rest.length + 4 = n + 2 + 4 from hlen)
    have hbyte : ∀ i, byteAt (b0 :: b1 :: b2 :: b3 :: rest) (4 + i) = byteAt rest i := by
      intro i
      rw [Nat.add_comm]
      rfl
    have hsplit : rest = List.ofFn (fun i : Fin n => byteAt rest i) ++
        [byteAt rest n, byteAt rest (n + 1)] := by
      conv_lhs => rw [← ofFn_byteAt hrest, List.ofFn_add]
      rfl
    rw [show 5 + n = 4 + (n + 1) by omega]
    simp only [hbyte]
    rw [← hsplit]
    rfl

/-- A SOCKS5 request is complete when it is the request for a target. -/
theorem completeRequest_iff : CompleteRequest bs ↔
    ∃ target : Target, target.Short ∧ bs = requestBytes target := by
  constructor
  · rintro ⟨h0, h1, h2, ⟨h3, hlen⟩ | ⟨h3, hlen⟩ | ⟨h3, hlen⟩⟩
    · have hsplit : bs = _ := request_split hlen
      rw [h0, h1, h2, h3] at hsplit
      refine ⟨.endpoint ⟨.v4 ⟨fun i => byteAt bs (4 + i)⟩,
        (byteAt bs 8).toUInt16 <<< 8 ||| (byteAt bs 9).toUInt16⟩, by rintro _ ⟨⟩, ?_⟩
      rw [requestBytes, targetHostBytes, portBytes_join]
      exact hsplit
    · have hsplit : bs = _ := request_split hlen
      rw [h0, h1, h2, h3] at hsplit
      refine ⟨.endpoint ⟨.v6 ⟨fun i => byteAt bs (4 + i), 0⟩,
        (byteAt bs 20).toUInt16 <<< 8 ||| (byteAt bs 21).toUInt16⟩, by rintro _ ⟨⟩, ?_⟩
      rw [requestBytes, targetHostBytes, portBytes_join]
      exact hsplit
    · have hlt := (byteAt bs 4).toNat_lt
      have hsplit : bs = _ :=
        request_split (show bs.length = ((byteAt bs 4).toNat + 1) + 6 by omega)
      rw [h0, h1, h2, h3, List.ofFn_succ] at hsplit
      refine ⟨.domain ⟨List.ofFn fun i : Fin (byteAt bs 4).toNat => byteAt bs (4 + i.succ),
        (byteAt bs (4 + ((byteAt bs 4).toNat + 1))).toUInt16 <<< 8 |||
          (byteAt bs (5 + ((byteAt bs 4).toNat + 1))).toUInt16⟩, ?_, ?_⟩
      · rintro _ ⟨⟩
        rw [List.length_ofFn]
        omega
      · rw [requestBytes, targetHostBytes, portBytes_join, List.length_ofFn, UInt8.ofNat_toNat]
        exact hsplit
  · rintro ⟨⟨a | a, port⟩ | ⟨domain, port⟩, hshort, rfl⟩
    · exact ⟨rfl, rfl, rfl, Or.inl ⟨rfl, length_requestBytes _⟩⟩
    · exact ⟨rfl, rfl, rfl, Or.inr (Or.inl ⟨rfl, length_requestBytes _⟩)⟩
    · refine ⟨rfl, rfl, rfl, Or.inr (Or.inr ⟨rfl, ?_⟩)⟩
      have hle : domain.length ≤ 255 := hshort _ rfl
      change _ = 7 + (UInt8.ofNat domain.length).toNat
      rw [length_requestBytes, UInt8.toNat_ofNat_of_lt' (Nat.lt_of_le_of_lt hle (by decide))]
      simp only [dstAddrSize]
      omega

/-! ### The parsers -/

/-- After VER, CMD and RSV, what is left to see. -/
theorem completeRequest_of_header (h0 : byteAt bs 0 = 0x05) (h1 : byteAt bs 1 = 0x01)
    (h2 : byteAt bs 2 = 0x00) : CompleteRequest bs ↔
      byteAt bs 3 = 0x01 ∧ bs.length = 10 ∨ byteAt bs 3 = 0x04 ∧ bs.length = 22 ∨
        byteAt bs 3 = 0x03 ∧ bs.length = 7 + (byteAt bs 4).toNat := by
  rw [CompleteRequest, and_iff_right h0, and_iff_right h1, and_iff_right h2]

/-- What `parse_socks_connect` can go on with: it has found nothing, or a request that is not
complete and is rejected, or one for an address, or one for a name. -/
inductive ConnectCase (self : SocksConnection) : Server → Prop
  | empty (hnil : self.buffer = []) :
    ConnectCase self (returnFail messageSize "Empty SOCKS connect")
  | reject (hne : self.buffer ≠ []) (h : ¬CompleteRequest self.buffer) (ec : ErrorCode)
    (what : String) (rep : UInt8) : ConnectCase self (self.rejectConnect ec what rep)
  | address (h : CompleteRequest self.buffer) (target : Endpoint) :
    ConnectCase self (doTargetConnect { self with target := target })
  | name (h : CompleteRequest self.buffer) (host : Bytes) (service : String) :
    ConnectCase self (.call (.resolve host service) fun answer =>
      if answer.ec.failed then
        fail answer.ec "Cannot resolve domain name" (some (.host host)) (self.doConnectReply 0x04)
      else doTargetConnect { self with target := answer.endpoint })

section Header

variable {self : SocksConnection} (hne : self.buffer ≠ []) (h0 : byteAt self.buffer 0 = 0x05)
  (h1 : byteAt self.buffer 1 = 0x01) (h2 : byteAt self.buffer 2 = 0x00)

include hne h0 h1 h2

theorem parseConnectIpV4_cases (h3 : byteAt self.buffer 3 = 0x01) :
    ConnectCase self (parseConnectIpV4 self) := by
  have hcomplete : CompleteRequest self.buffer ↔ self.buffer.length = 10 := by
    rw [completeRequest_of_header h0 h1 h2, h3]
    simp
  rw [parseConnectIpV4]
  split_ifs with hlen
  · exact .address (hcomplete.mpr hlen) _
  · exact .reject hne (fun h => hlen (hcomplete.mp h)) _ _ _

theorem parseConnectIpV6_cases (h3 : byteAt self.buffer 3 = 0x04) :
    ConnectCase self (parseConnectIpV6 self) := by
  have hcomplete : CompleteRequest self.buffer ↔ self.buffer.length = 22 := by
    rw [completeRequest_of_header h0 h1 h2, h3]
    simp
  rw [parseConnectIpV6]
  split_ifs with hlen
  · exact .address (hcomplete.mpr hlen) _
  · exact .reject hne (fun h => hlen (hcomplete.mp h)) _ _ _

theorem parseConnectDomain_cases (h3 : byteAt self.buffer 3 = 0x03) :
    ConnectCase self (parseConnectDomain self) := by
  have hcomplete : CompleteRequest self.buffer ↔
      self.buffer.length = 7 + (byteAt self.buffer 4).toNat := by
    rw [completeRequest_of_header h0 h1 h2, h3]
    simp
  rw [parseConnectDomain]
  split_ifs with hlen
  · exact .name (hcomplete.mpr hlen) _ _
  · exact .reject hne (fun h => hlen (hcomplete.mp h)) _ _ _

end Header

/-- **The SOCKS5 parser connects, or resolves, exactly on complete requests.** -/
theorem parseSocksConnect_cases (self : SocksConnection) :
    ConnectCase self (parseSocksConnect self) := by
  have hshort : ∀ {i}, self.buffer.length = i → i < 7 → ¬CompleteRequest self.buffer := by
    intro i hlen hi hcomplete
    have := hcomplete.seven_le
    omega
  rw [parseSocksConnect]
  -- one step for each check of the parser, in its order
  refine iteInduction (motive := ConnectCase self) (fun hnil => .empty hnil) fun hne => ?_
  refine iteInduction (motive := ConnectCase self)
    (fun hver => .reject hne (fun h => hver h.1) _ _ _) fun hver => ?_
  refine iteInduction (motive := ConnectCase self)
    (fun hlen => .reject hne (hshort hlen (by decide)) _ _ _) fun _ => ?_
  refine iteInduction (motive := ConnectCase self)
    (fun hcmd => .reject hne (fun h => hcmd h.2.1) _ _ _) fun hcmd => ?_
  refine iteInduction (motive := ConnectCase self)
    (fun hlen => .reject hne (hshort hlen (by decide)) _ _ _) fun _ => ?_
  refine iteInduction (motive := ConnectCase self)
    (fun hrsv => .reject hne (fun h => hrsv h.2.2.1) _ _ _) fun hrsv => ?_
  refine iteInduction (motive := ConnectCase self)
    (fun hlen => .reject hne (hshort hlen (by decide)) _ _ _) fun _ => ?_
  have h0 := not_not.mp hver
  have h1 := not_not.mp hcmd
  have h2 := not_not.mp hrsv
  refine iteInduction (motive := ConnectCase self) (fun hatyp => ?_) fun hatyp => ?_
  · refine .reject hne (fun h => ?_) _ _ _
    rcases h.2.2.2 with h | h | h
    · exact hatyp.1 h.1
    · exact hatyp.2.2 h.1
    · exact hatyp.2.1 h.1
  refine iteInduction (motive := ConnectCase self)
    (fun h3 => parseConnectIpV4_cases hne h0 h1 h2 h3) fun hv4 => ?_
  refine iteInduction (motive := ConnectCase self)
    (fun h3 => parseConnectIpV6_cases hne h0 h1 h2 h3) fun hv6 => ?_
  have h3 : byteAt self.buffer 3 = 0x03 := by tauto
  exact parseConnectDomain_cases hne h0 h1 h2 h3

/-- What `parse_socks_connect_v4` asks of a request. -/
def AcceptedV4 (bs : Bytes) : Prop := byteAt bs 0 = 0x04 ∧ byteAt bs 1 = 0x01 ∧ 8 ≤ bs.length

instance (bs : Bytes) : Decidable (AcceptedV4 bs) := inferInstanceAs (Decidable (_ ∧ _))

/-- What `parse_socks_connect_v4` can go on with. -/
inductive ConnectCaseV4 (self : SocksConnection) : Server → Prop
  | empty (hnil : self.buffer = []) :
    ConnectCaseV4 self (returnFail messageSize "Empty SOCKS connect")
  | reject (hne : self.buffer ≠ []) (h : ¬AcceptedV4 self.buffer) (ec : ErrorCode)
    (what : String) : ConnectCaseV4 self (self.rejectConnectV4 ec what)
  | address (h : AcceptedV4 self.buffer) (target : Endpoint) :
    ConnectCaseV4 self (doTargetConnectV4 { self with target := target })

/-- **The SOCKS4 parser connects exactly on eight bytes of a request**, with anything behind
them. -/
theorem parseSocksConnectV4_cases (self : SocksConnection) :
    ConnectCaseV4 self (parseSocksConnectV4 self) := by
  rw [parseSocksConnectV4]
  refine iteInduction (motive := ConnectCaseV4 self) (fun hnil => .empty hnil) fun hne => ?_
  refine iteInduction (motive := ConnectCaseV4 self)
    (fun hver => .reject hne (fun h => hver h.1) _ _) fun hver => ?_
  refine iteInduction (motive := ConnectCaseV4 self)
    (fun hlen => .reject hne (fun h => by have := h.2.2; omega) _ _) fun _ => ?_
  refine iteInduction (motive := ConnectCaseV4 self)
    (fun hcmd => .reject hne (fun h => hcmd h.2.1) _ _) fun hcmd => ?_
  refine iteInduction (motive := ConnectCaseV4 self)
    (fun hlen => .address ⟨not_not.mp hver, not_not.mp hcmd, hlen⟩ _) fun hlen => ?_
  exact .reject hne (fun h => hlen h.2.2) _ _

end Socks
