import Opte.Parser

/-!
The VPC network of `oxide-vpc` (`engine/mod.rs`). The port calls `handle_pkt` for the
packets its layers leave undecided: the network answers ARP requests for the addresses the
port owns and denies everything else. A Rust panic (an `unwrap` of `None`) is the `none`
outcome of the handlers.
-/

namespace Opte

structure SNat4Cfg where
  externalIp : Ipv4Addr
  deriving DecidableEq

structure Ipv4Cfg where
  gatewayIp : Ipv4Addr
  externalIps : Option Ipv4Addr
  snat : Option SNat4Cfg
  deriving DecidableEq

/-- Modelled from the spec: `VpcCfg` of `oxide-vpc`'s api, with what the network reads of
it; `ipv4Cfg` is what `ipv4_cfg()` returns, `None` for a port without IPv4. -/
structure VpcCfg where
  gatewayMac : MacAddr
  guestMac : MacAddr
  proxyArpEnable : Bool
  ipv4Cfg : Option Ipv4Cfg
  deriving DecidableEq

structure VpcNetwork where
  cfg : VpcCfg

def htypeEther : UInt16 := 1

def etherTypeIpv4 : UInt16 := 0x0800

def isArpReq (arp : ArpEthIpv4) : Bool :=
  arp.htype == htypeEther && arp.ptype == etherTypeIpv4 && arp.op == .request

def isArpReqForTpa (tpa : Ipv4Addr) (arp : ArpEthIpv4) : Bool :=
  if isArpReq arp then
    if arp.tpa = tpa then true else false
  else false

inductive HdlPktAction
  | allow
  | deny
  | hairpin (pkt : List UInt8)
  deriving DecidableEq

structure HdlPktError where
  msg : String
  deriving DecidableEq

structure ParsedPacket where
  bytes : List UInt8
  info : PacketInfo
  deriving DecidableEq

def VpcNetwork.parser (self : VpcNetwork) : VpcParser :=
  ⟨self.cfg.proxyArpEnable⟩

section Handle

variable (e : Engine)

/-- Modelled from the spec: opte's `Packet::parse`, as the network sees it: the network's
parser for the direction, from the start of the packet. -/
def VpcParser.parse (parser : VpcParser) (dir : Direction) (bytes : List UInt8) :
    Except ParseError ParsedPacket :=
  let rdr := PacketReaderMut.new bytes
  let parsed := match dir with
    | .out => parser.parseOutbound e rdr
    | .in => parser.parseInbound e rdr
  parsed.map fun info => ⟨bytes, info⟩

def VpcNetwork.handleArpOut (self : VpcNetwork) (pkt : ParsedPacket) :
    Option (Except HdlPktError HdlPktAction) :=
  match (PacketReaderMut.new pkt.bytes).seek pkt.info.offsets.inner.ether.hdrLen with
  | none => none
  | some rdr =>
      match e.arpParse (rdr.bytes.drop rdr.pos) with
      | none => some (.error ⟨"outbound ARP"⟩)
      | some arp =>
          self.cfg.ipv4Cfg.map fun ipCfg =>
            let gwIp := ipCfg.gatewayIp
            if isArpReqForTpa gwIp arp then
              .ok (.hairpin (e.genArpReply self.cfg.gatewayMac gwIp arp.sha arp.spa))
            else .ok .deny

def proxyArpReply (proxyArp : Bool) (guestMac : MacAddr) (ip : Option Ipv4Addr)
    (arp : ArpEthIpv4) : Option (List UInt8) :=
  match ip with
  | some ip =>
      if proxyArp && isArpReqForTpa ip arp then some (e.genArpReply guestMac ip arp.sha arp.spa)
      else none
  | none => none

def VpcNetwork.handleArpIn (self : VpcNetwork) (pkt : ParsedPacket) :
    Option (Except HdlPktError HdlPktAction) :=
  match (PacketReaderMut.new pkt.bytes).seek pkt.info.offsets.inner.ether.hdrLen with
  | none => none
  | some rdr =>
      match e.arpParse (rdr.bytes.drop rdr.pos) with
      | none => some (.error ⟨"inbound ARP"⟩)
      | some arp =>
          let proxyArp := self.cfg.proxyArpEnable
          let guestMac := self.cfg.guestMac
          self.cfg.ipv4Cfg.map fun ipCfg =>
            let viaExternalIp := proxyArpReply e proxyArp guestMac ipCfg.externalIps arp
            let viaSnat := proxyArpReply e proxyArp guestMac (ipCfg.snat.map (·.externalIp)) arp
            match viaExternalIp.or viaSnat with
            | some hp => .ok (.hairpin hp)
            | none => .ok .deny

def VpcNetwork.handlePkt (self : VpcNetwork) (dir : Direction) (pkt : ParsedPacket) :
    Option (Except HdlPktError HdlPktAction) :=
  match dir, pkt.info.meta.inner.ether.etherType with
  | .out, .arp => self.handleArpOut e pkt
  | .in, .arp => self.handleArpIn e pkt
  | _, _ => some (.ok .deny)

end Handle

def ParsedPacket.arpPayload (e : Engine) (pkt : ParsedPacket) : Option ArpEthIpv4 :=
  e.arpParse (pkt.bytes.drop
    (pkt.info.offsets.inner.ether.pktPos + pkt.info.offsets.inner.ether.hdrLen))

theorem VpcParser.parse_ok {e : Engine} {parser : VpcParser} {dir : Direction}
    {bytes : List UInt8} {pkt : ParsedPacket} (parsed : parser.parse e dir bytes = .ok pkt) :
    pkt.bytes = bytes ∧ pkt.info.InnerWellFormed ∧
      (pkt.info.meta.inner.ether.etherType = .arp →
        pkt.info.offsets.inner.ether.pktPos = 0 ∧
        pkt.info.offsets.inner.ether.hdrLen ≤ bytes.length ∧
        (dir = .in → parser.proxyArpEnable = true)) := by
  obtain ⟨info, parsedInfo, rfl⟩ := exceptMap_eq_ok.mp parsed
  refine ⟨rfl, ?_⟩
  cases dir
  · obtain ⟨meta, offsets, guest, fresh, freshAt, -, fromStart, guestParsed⟩ :=
      VpcParser.parseInbound_inv parsedInfo
    obtain ⟨-, -, wellFormed, arpOk, start, within⟩ := parseInner_ok fresh freshAt guestParsed
    refine ⟨wellFormed, fun isArp => ?_⟩
    have proxy := arpOk isArp
    cases fromStart proxy
    exact ⟨start, by simpa [PacketReaderMut.new] using within, fun _ => proxy⟩
  · obtain ⟨-, -, wellFormed, -, start, within⟩ := parseInner_ok rfl rfl parsedInfo
    exact ⟨wellFormed, fun _ => ⟨start, by simpa [PacketReaderMut.new] using within, nofun⟩⟩

theorem ParsedPacket.seek_arpPayload {e : Engine} {parser : VpcParser} {dir : Direction}
    {bytes : List UInt8} {pkt : ParsedPacket} (parsed : parser.parse e dir bytes = .ok pkt)
    (isArp : pkt.info.meta.inner.ether.etherType = .arp) :
    ∃ rdr, (PacketReaderMut.new pkt.bytes).seek pkt.info.offsets.inner.ether.hdrLen = some rdr ∧
      e.arpParse (rdr.bytes.drop rdr.pos) = pkt.arpPayload e := by
  obtain ⟨rfl, -, arpShape⟩ := VpcParser.parse_ok parsed
  obtain ⟨start, within, -⟩ := arpShape isArp
  refine ⟨⟨pkt.bytes, pkt.info.offsets.inner.ether.hdrLen, within⟩, ?_, ?_⟩
  · simp [PacketReaderMut.seek, PacketReaderMut.new, within]
  · simp [ParsedPacket.arpPayload, start]

theorem VpcNetwork.handlePkt_of_not_arp {e : Engine} {net : VpcNetwork} {dir : Direction}
    {pkt : ParsedPacket} (notArp : pkt.info.meta.inner.ether.etherType ≠ .arp) :
    net.handlePkt e dir pkt = some (.ok .deny) := by
  unfold VpcNetwork.handlePkt
  split
  · rename_i isArp
    exact absurd isArp notArp
  · rename_i isArp
    exact absurd isArp notArp
  · rfl

section ParsedArp

variable {e : Engine} {net : VpcNetwork} {dir : Direction} {bytes : List UInt8}
  {pkt : ParsedPacket} (parsed : net.parser.parse e dir bytes = .ok pkt)
  (isArp : pkt.info.meta.inner.ether.etherType = .arp)

include parsed isArp

theorem VpcNetwork.handlePkt_arp_refused (payload : pkt.arpPayload e = none) :
    net.handlePkt e dir pkt =
      some (.error ⟨match dir with | .out => "outbound ARP" | .in => "inbound ARP"⟩) := by
  obtain ⟨rdr, seeked, payloadAt⟩ := ParsedPacket.seek_arpPayload parsed isArp
  cases dir <;> simp [VpcNetwork.handlePkt, isArp, VpcNetwork.handleArpOut,
    VpcNetwork.handleArpIn, seeked, payloadAt, payload]

theorem VpcNetwork.handlePkt_arp_out {arp : ArpEthIpv4} (payload : pkt.arpPayload e = some arp) :
    net.handlePkt e .out pkt = net.cfg.ipv4Cfg.map fun ipCfg =>
      if isArpReqForTpa ipCfg.gatewayIp arp then
        .ok (.hairpin (e.genArpReply net.cfg.gatewayMac ipCfg.gatewayIp arp.sha arp.spa))
      else .ok .deny := by
  obtain ⟨rdr, seeked, payloadAt⟩ := ParsedPacket.seek_arpPayload parsed isArp
  simp [VpcNetwork.handlePkt, isArp, VpcNetwork.handleArpOut, seeked, payloadAt, payload]

theorem VpcNetwork.handlePkt_arp_in {arp : ArpEthIpv4} (payload : pkt.arpPayload e = some arp) :
    net.handlePkt e .in pkt = net.cfg.ipv4Cfg.map fun ipCfg =>
      match (proxyArpReply e net.cfg.proxyArpEnable net.cfg.guestMac ipCfg.externalIps arp).or
          (proxyArpReply e net.cfg.proxyArpEnable net.cfg.guestMac
            (ipCfg.snat.map (·.externalIp)) arp) with
      | some hp => .ok (.hairpin hp)
      | none => .ok .deny := by
  obtain ⟨rdr, seeked, payloadAt⟩ := ParsedPacket.seek_arpPayload parsed isArp
  simp [VpcNetwork.handlePkt, isArp, VpcNetwork.handleArpIn, seeked, payloadAt, payload]

end ParsedArp

/-- `handle_pkt` panics on a parsed packet exactly when the port has no IPv4 configuration
and the packet is ARP with a payload that parses: the seek to the payload never fails, and
`ipv4_cfg().unwrap()` fails there. -/
theorem handlePkt_panics_iff (e : Engine) (net : VpcNetwork) (dir : Direction)
    (bytes : List UInt8) (pkt : ParsedPacket) (parsed : net.parser.parse e dir bytes = .ok pkt) :
    net.handlePkt e dir pkt = none ↔
      net.cfg.ipv4Cfg = none ∧ pkt.info.meta.inner.ether.etherType = .arp ∧
        (pkt.arpPayload e).isSome := by
  by_cases isArp : pkt.info.meta.inner.ether.etherType = .arp
  · rcases payload : pkt.arpPayload e with _ | arp
    · simp [VpcNetwork.handlePkt_arp_refused parsed isArp payload]
    · cases dir
      · simp [VpcNetwork.handlePkt_arp_in parsed isArp payload, isArp]
      · simp [VpcNetwork.handlePkt_arp_out parsed isArp payload, isArp]
  · simp [VpcNetwork.handlePkt_of_not_arp isArp, isArp]

def ipv6OnlyNetwork : VpcNetwork :=
  ⟨⟨⟨0xa84025000001⟩, ⟨0xa84025ff7777⟩, false, none⟩⟩

theorem handlePkt_panics_onIpv6OnlyPort :
    ∃ pkt, ipv6OnlyNetwork.parser.parse Wire.engine .out Wire.gatewayRequest = .ok pkt ∧
      ipv6OnlyNetwork.handlePkt Wire.engine .out pkt = none :=
  ⟨_, rfl, (handlePkt_panics_iff Wire.engine ipv6OnlyNetwork .out Wire.gatewayRequest _ rfl).mpr
    ⟨rfl, rfl, rfl⟩⟩

theorem isArpReqForTpa_iff {tpa : Ipv4Addr} {arp : ArpEthIpv4} :
    isArpReqForTpa tpa arp = true ↔ isArpReq arp = true ∧ arp.tpa = tpa := by
  unfold isArpReqForTpa
  split_ifs <;> simp_all

theorem proxyArpReply_eq_some {e : Engine} {proxyArp : Bool} {guestMac : MacAddr}
    {ip : Option Ipv4Addr} {arp : ArpEthIpv4} {hp : List UInt8} :
    proxyArpReply e proxyArp guestMac ip arp = some hp ↔
      proxyArp = true ∧ isArpReq arp = true ∧ ip = some arp.tpa ∧
        hp = e.genArpReply guestMac arp.tpa arp.sha arp.spa := by
  unfold proxyArpReply
  rcases ip with _ | ip
  · simp
  · simp only [Bool.and_eq_true, isArpReqForTpa_iff, Option.some.injEq]
    split_ifs with asked
    · obtain ⟨proxy, req, rfl⟩ := asked
      simp only [proxy, req, true_and, Option.some.injEq]
      exact eq_comm
    · refine ⟨nofun, ?_⟩
      rintro ⟨proxy, req, rfl, -⟩
      exact absurd ⟨proxy, req, rfl⟩ asked

theorem proxyArpReply_eq_none {e : Engine} {proxyArp : Bool} {guestMac : MacAddr}
    {ip : Option Ipv4Addr} {arp : ArpEthIpv4} :
    proxyArpReply e proxyArp guestMac ip arp = none ↔
      ¬(proxyArp = true ∧ isArpReq arp = true ∧ ip = some arp.tpa) := by
  rw [← not_iff_not, not_not, ← ne_eq, Option.ne_none_iff_exists']
  simp only [proxyArpReply_eq_some]
  exact ⟨fun ⟨_, proxy, req, ip, _⟩ => ⟨proxy, req, ip⟩, fun ⟨proxy, req, ip⟩ => ⟨_, proxy, req, ip, rfl⟩⟩

theorem proxyArpReplies_eq_some {e : Engine} {guestMac : MacAddr}
    {external snat : Option Ipv4Addr} {arp : ArpEthIpv4} {hp : List UInt8} :
    (proxyArpReply e true guestMac external arp).or (proxyArpReply e true guestMac snat arp) =
        some hp ↔
      isArpReq arp = true ∧ (external = some arp.tpa ∨ snat = some arp.tpa) ∧
        hp = e.genArpReply guestMac arp.tpa arp.sha arp.spa := by
  simp only [Option.or_eq_some, proxyArpReply_eq_some, proxyArpReply_eq_none, true_and]
  tauto

/-- The ARP responder answers only for the addresses the port owns: on a port with IPv4, a
parsed packet is sent back exactly when it is an ARP request for the gateway going out, or,
under proxy ARP, for the external or SNAT address coming in, with the reply from the
gateway's or the guest's MAC address; it is refused exactly when its ARP payload does not
parse; everything else is denied. -/
theorem handlePkt_arpResponder (e : Engine) (net : VpcNetwork) (ipCfg : Ipv4Cfg)
    (hasIpv4 : net.cfg.ipv4Cfg = some ipCfg) (dir : Direction) (bytes : List UInt8)
    (pkt : ParsedPacket) (parsed : net.parser.parse e dir bytes = .ok pkt) :
    (∀ r, net.handlePkt e dir pkt = some (.ok (.hairpin r)) ↔
      pkt.info.meta.inner.ether.etherType = .arp ∧ ∃ arp, pkt.arpPayload e = some arp ∧
        isArpReq arp = true ∧
        (dir = .out ∧ arp.tpa = ipCfg.gatewayIp ∧
            r = e.genArpReply net.cfg.gatewayMac ipCfg.gatewayIp arp.sha arp.spa ∨
          dir = .in ∧ net.cfg.proxyArpEnable = true ∧
            (ipCfg.externalIps = some arp.tpa ∨ ipCfg.snat.map (·.externalIp) = some arp.tpa) ∧
            r = e.genArpReply net.cfg.guestMac arp.tpa arp.sha arp.spa)) ∧
    ((∃ err, net.handlePkt e dir pkt = some (.error err)) ↔
      pkt.info.meta.inner.ether.etherType = .arp ∧ pkt.arpPayload e = none) ∧
    (net.handlePkt e dir pkt = some (.ok .deny) ∨
      (∃ r, net.handlePkt e dir pkt = some (.ok (.hairpin r))) ∨
      ∃ err, net.handlePkt e dir pkt = some (.error err)) := by
  by_cases isArp : pkt.info.meta.inner.ether.etherType = .arp
  swap
  · simp only [VpcNetwork.handlePkt_of_not_arp isArp, isArp, Option.some.injEq, Except.ok.injEq,
      reduceCtorEq, false_and, exists_false, exists_const, or_false, and_self, implies_true]
  rcases payload : pkt.arpPayload e with _ | arp
  · simp only [VpcNetwork.handlePkt_arp_refused parsed isArp payload, isArp, Option.some.injEq,
      reduceCtorEq, Option.map_eq_some', false_and, exists_false, and_false, implies_true,
      Except.error.injEq, exists_eq', and_self, exists_const, or_true]
  cases dir
  · have proxy : net.cfg.proxyArpEnable = true := ((VpcParser.parse_ok parsed).2.2 isArp).2.2 rfl
    rw [VpcNetwork.handlePkt_arp_in parsed isArp payload, hasIpv4, proxy]
    refine ⟨fun r => ?_, by simp only [Option.map_some']; split <;> simp,
      by simp only [Option.map_some']; split <;> simp⟩
    simp only [Option.map_some', isArp, Option.some.injEq, exists_eq_left', true_and,
      reduceCtorEq, false_and, false_or]
    split
    · rename_i hp reply
      obtain ⟨req, owned, rfl⟩ := proxyArpReplies_eq_some.mp reply
      simp only [Except.ok.injEq, HdlPktAction.hairpin.injEq, req, owned, true_and]
      exact eq_comm
    · rename_i reply
      simp only [Except.ok.injEq, reduceCtorEq, false_iff, not_and]
      intro req owned
      exact absurd (proxyArpReplies_eq_some.mpr ⟨req, owned, rfl⟩) (by rw [reply]; nofun)
  · rw [VpcNetwork.handlePkt_arp_out parsed isArp payload, hasIpv4]
    refine ⟨fun r => ?_, by simp only [Option.map_some']; split <;> simp,
      by simp only [Option.map_some']; split <;> simp⟩
    simp only [Option.map_some', isArp, Option.some.injEq, exists_eq_left', true_and,
      reduceCtorEq, false_and, or_false]
    split
    · rename_i asked
      obtain ⟨req, tpa⟩ := isArpReqForTpa_iff.mp asked
      simp only [Except.ok.injEq, HdlPktAction.hairpin.injEq, req, tpa, true_and]
      exact eq_comm
    · rename_i asked
      simp only [Except.ok.injEq, reduceCtorEq, false_iff, not_and]
      exact fun req tpa _ => asked (isArpReqForTpa_iff.mpr ⟨req, tpa⟩)

def ipv4Network : VpcNetwork :=
  ⟨⟨⟨0xa84025000001⟩, ⟨0xa84025ff7777⟩, false, some ⟨⟨0x0a000001⟩, none, none⟩⟩⟩

theorem handlePkt_hairpins_gatewayRequest :
    ∃ pkt, ipv4Network.parser.parse Wire.engine .out Wire.gatewayRequest = .ok pkt ∧
      ipv4Network.handlePkt Wire.engine .out pkt = some (.ok (.hairpin
        (Wire.genArpReply ⟨0xa84025000001⟩ ⟨0x0a000001⟩ ⟨0xa84025ff7777⟩ ⟨0x0a000005⟩))) :=
  ⟨_, rfl, ((handlePkt_arpResponder Wire.engine ipv4Network _ rfl .out Wire.gatewayRequest _ rfl).1
    _).mpr ⟨rfl, _, rfl, rfl, .inl ⟨rfl, rfl, rfl⟩⟩⟩

end Opte
