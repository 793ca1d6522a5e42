import Opte.Packet
import Opte.Wire

/-!
The VPC parser of `oxide-vpc` (`engine/mod.rs`): `parse_outbound` reads a guest frame,
`parse_inbound` an underlay packet, Ethernet, IPv6, UDP and Geneve around a guest frame,
unless proxy ARP is on and the packet arrives on the guest's own network. Both directions
read the guest frame alike, so that part is one definition with a flag for whether an ARP
frame ends the parse. The results are the grammar each direction accepts and the shape of
every `PacketInfo` it returns.
-/

namespace Opte

structure VpcParser where
  proxyArpEnable : Bool
  deriving DecidableEq

def VpcParser.new : VpcParser :=
  ⟨false⟩

section Parse

variable (e : Engine)

def ulpHeader (proto : Protocol) (rdr : PacketReaderMut) :
    Except ParseError (Option (HdrInfo UlpMeta × UlpHdr)) :=
  match proto with
  | .icmp => .ok none
  | .icmpv6 => .ok none
  | .tcp =>
      match Packet.parseTcp e rdr with
      | .error err => .error err
      | .ok (ulpHi, ulpHdr, _) => .ok (some (ulpHi, ulpHdr))
  | .udp =>
      match Packet.parseUdp e rdr with
      | .error err => .error err
      | .ok (ulpHi, ulpHdr, _) => .ok (some (ulpHi, ulpHdr))
  | proto => .error (.unexpectedProtocol proto)

def parseUlp (meta : PacketMeta) (offsets : HeaderOffsets) (ipHi : HdrInfo IpMeta)
    (pseudoCsum : Checksum) (rdr : PacketReaderMut) : Except ParseError PacketInfo :=
  let meta := { meta with inner := { meta.inner with ip := some ipHi.meta } }
  let offsets := { offsets with inner := { offsets.inner with ip := some ipHi.offset } }
  match ulpHeader e ipHi.meta.proto rdr with
  | .error err => .error err
  | .ok none => .ok ⟨meta, offsets, none⟩
  | .ok (some (ulpHi, ulpHdr)) =>
      .ok ⟨{ meta with inner := { meta.inner with ulp := some ulpHi.meta } },
        { offsets with inner := { offsets.inner with ulp := some ulpHi.offset } },
        ulpHdr.csumMinusHdr.map fun csum => e.csumSub csum pseudoCsum⟩

def parseInner (arpOk : Bool) (meta : PacketMeta) (offsets : HeaderOffsets)
    (rdr : PacketReaderMut) : Except ParseError PacketInfo :=
  match Packet.parseEther e rdr with
  | .error err => .error err
  | .ok (etherHi, _, rdr) =>
      let meta := { meta with inner := { meta.inner with ether := etherHi.meta } }
      let offsets := { offsets with inner := { offsets.inner with ether := etherHi.offset } }
      match etherHi.meta.etherType with
      | .arp =>
          if arpOk then .ok ⟨meta, offsets, none⟩ else .error (.unexpectedEtherType .arp)
      | .ipv4 =>
          match Packet.parseIp4 e rdr with
          | .error err => .error err
          | .ok (ipHi, hdr, rdr) => parseUlp e meta offsets ipHi hdr.pseudoCsum rdr
      | .ipv6 =>
          match Packet.parseIp6 e rdr with
          | .error err => .error err
          | .ok (ipHi, hdr, rdr) => parseUlp e meta offsets ipHi hdr.pseudoCsum rdr
      | etherType => .error (.unexpectedEtherType etherType)

def parseOuter (rdr : PacketReaderMut) :
    Except ParseError (PacketMeta × HeaderOffsets × PacketReaderMut) :=
  match Packet.parseEther e rdr with
  | .error err => .error err
  | .ok (outerEtherHi, _, rdr) =>
      let meta : PacketMeta := { outer := { ether := some outerEtherHi.meta } }
      let offsets : HeaderOffsets := { outer := { ether := some outerEtherHi.offset } }
      match outerEtherHi.meta.etherType with
      | .ipv6 =>
          match Packet.parseIp6 e rdr with
          | .error err => .error err
          | .ok (outerIpHi, _, rdr) =>
              let meta := { meta with outer := { meta.outer with ip := some outerIpHi.meta } }
              let offsets :=
                { offsets with outer := { offsets.outer with ip := some outerIpHi.offset } }
              match outerIpHi.meta.proto with
              | .udp =>
                  match Packet.parseGeneve e rdr with
                  | .error err => .error err
                  | .ok (geneveHi, _, rdr) =>
                      .ok ({ meta with outer := { meta.outer with
                              encap := some (.geneve geneveHi.meta) } },
                        { offsets with outer := { offsets.outer with
                              encap := some geneveHi.offset } }, rdr)
              | proto => .error (.unexpectedProtocol proto)
      | outerEt => .error (.unexpectedEtherType outerEt)

def VpcParser.parseOutbound (_self : VpcParser) (rdr : PacketReaderMut) :
    Except ParseError PacketInfo :=
  parseInner e true {} {} rdr

def VpcParser.parseInbound (self : VpcParser) (rdr : PacketReaderMut) :
    Except ParseError PacketInfo :=
  if !self.proxyArpEnable then
    match parseOuter e rdr with
    | .error err => .error err
    | .ok (meta, offsets, rdr) => parseInner e self.proxyArpEnable meta offsets rdr
  else parseInner e self.proxyArpEnable {} {} rdr

end Parse

end Opte

namespace Opte

section Grammar

variable (e : Engine)

def verdict {α : Type} (result : Except ParseError α) : Except ParseError Unit :=
  result.map fun _ => ()

def transportProbe (proto : Protocol) (rdr : PacketReaderMut) : Except ParseError Unit :=
  match proto with
  | .tcp => verdict (Packet.parseTcp e rdr)
  | .udp => verdict (Packet.parseUdp e rdr)
  | _ => .ok ()

def innerHeaders (rdr : PacketReaderMut) : Except ParseError (EtherType × Option Protocol) :=
  match Packet.parseEther e rdr with
  | .error err => .error err
  | .ok (etherHi, _, rdr) =>
      let readIp := fun (ip : Except ParseError (HdrInfo IpMeta × IpHdr × PacketReaderMut)) =>
        match ip with
        | .error err => .error err
        | .ok (ipHi, _, rdr) =>
            (transportProbe e ipHi.meta.proto rdr).map fun _ =>
              (etherHi.meta.etherType, some ipHi.meta.proto)
      match etherHi.meta.etherType with
      | .ipv4 => readIp (Packet.parseIp4 e rdr)
      | .ipv6 => readIp (Packet.parseIp6 e rdr)
      | etherType => .ok (etherType, none)

def outerHeaders (rdr : PacketReaderMut) :
    Except ParseError (EtherType × Option (Protocol × Option PacketReaderMut)) :=
  match Packet.parseEther e rdr with
  | .error err => .error err
  | .ok (etherHi, _, rdr) =>
      match etherHi.meta.etherType with
      | .ipv6 =>
          match Packet.parseIp6 e rdr with
          | .error err => .error err
          | .ok (ipHi, _, rdr) =>
              match ipHi.meta.proto with
              | .udp =>
                  match Packet.parseGeneve e rdr with
                  | .error err => .error err
                  | .ok (_, _, rdr) => .ok (.ipv6, some (.udp, some rdr))
              | proto => .ok (.ipv6, some (proto, none))
      | etherType => .ok (etherType, none)

end Grammar

def transportGrammar : Protocol → Except ParseError Unit
  | .icmp | .icmpv6 | .tcp | .udp => .ok ()
  | proto => .error (.unexpectedProtocol proto)

def innerGrammar (arpOk : Bool) : EtherType × Option Protocol → Except ParseError Unit
  | (.arp, _) => if arpOk then .ok () else .error (.unexpectedEtherType .arp)
  | (.ipv4, some proto) => transportGrammar proto
  | (.ipv6, some proto) => transportGrammar proto
  | (etherType, _) => .error (.unexpectedEtherType etherType)

def outerGrammar :
    EtherType × Option (Protocol × Option PacketReaderMut) → Except ParseError PacketReaderMut
  | (.ipv6, some (.udp, some rdr)) => .ok rdr
  | (.ipv6, some (proto, _)) => .error (.unexpectedProtocol proto)
  | (etherType, _) => .error (.unexpectedEtherType etherType)

theorem verdict_parseUlp (e : Engine) (meta : PacketMeta) (offsets : HeaderOffsets)
    (ipHi : HdrInfo IpMeta) (pseudoCsum : Checksum) (rdr : PacketReaderMut) :
    verdict (parseUlp e meta offsets ipHi pseudoCsum rdr) =
      (transportProbe e ipHi.meta.proto rdr).bind fun _ => transportGrammar ipHi.meta.proto := by
  unfold parseUlp ulpHeader transportProbe
  generalize ipHi.meta.proto = proto
  rcases proto with _ | _ | _ | _ | proto
  · rfl
  · rcases Packet.parseTcp e rdr with _ | ⟨_, _, _⟩ <;> rfl
  · rcases Packet.parseUdp e rdr with _ | ⟨_, _, _⟩ <;> rfl
  · rfl
  · rfl

theorem verdict_parseInner (e : Engine) (arpOk : Bool) (meta : PacketMeta)
    (offsets : HeaderOffsets) (rdr : PacketReaderMut) :
    verdict (parseInner e arpOk meta offsets rdr) = (innerHeaders e rdr).bind (innerGrammar arpOk) := by
  unfold parseInner innerHeaders
  rcases Packet.parseEther e rdr with _ | ⟨etherHi, _, rdr⟩
  · rfl
  · dsimp only
    rcases etherHi.meta.etherType with _ | _ | _ | etherType
    · rcases Packet.parseIp4 e rdr with _ | ⟨ipHi, hdr, rdr⟩
      · rfl
      · dsimp only
        rw [verdict_parseUlp]
        rcases transportProbe e ipHi.meta.proto rdr with _ | _ <;> rfl
    · cases arpOk <;> rfl
    · rcases Packet.parseIp6 e rdr with _ | ⟨ipHi, hdr, rdr⟩
      · rfl
      · dsimp only
        rw [verdict_parseUlp]
        rcases transportProbe e ipHi.meta.proto rdr with _ | _ <;> rfl
    · rfl

theorem parseOuter_reader (e : Engine) (rdr : PacketReaderMut) :
    (parseOuter e rdr).map (·.2.2) = (outerHeaders e rdr).bind outerGrammar := by
  unfold parseOuter outerHeaders
  rcases Packet.parseEther e rdr with _ | ⟨etherHi, _, rdr⟩
  · rfl
  · dsimp only
    rcases etherHi.meta.etherType with _ | _ | _ | _
    · rfl
    · rfl
    · rcases Packet.parseIp6 e rdr with _ | ⟨ipHi, _, rdr⟩
      · rfl
      · dsimp only
        rcases ipHi.meta.proto with _ | _ | _ | _ | _
        · rfl
        · rfl
        · rcases Packet.parseGeneve e rdr with _ | ⟨_, _, _⟩ <;> rfl
        · rfl
        · rfl
    · rfl

/-- The VPC parser accepts exactly its header grammar. Whether a parse fails, and with what
error, is what the opte parsers read, then the spec's grammar on it: a sub-parser's error
comes back unchanged, and a refusal names the first value off the grammar. With proxy ARP
on, an inbound packet is read as an outbound one. -/
theorem vpcParser_grammar (e : Engine) :
    (∀ (parser : VpcParser) (rdr : PacketReaderMut),
      verdict (parser.parseOutbound e rdr) = (innerHeaders e rdr).bind (innerGrammar true)) ∧
    (∀ rdr : PacketReaderMut,
      (VpcParser.mk true).parseInbound e rdr = (VpcParser.mk true).parseOutbound e rdr) ∧
    ∀ rdr : PacketReaderMut, verdict ((VpcParser.mk false).parseInbound e rdr) =
      ((outerHeaders e rdr).bind outerGrammar).bind fun rdr =>
        (innerHeaders e rdr).bind (innerGrammar false) := by
  refine ⟨fun _ rdr => verdict_parseInner e true {} {} rdr, fun _ => rfl, fun rdr => ?_⟩
  rw [← parseOuter_reader]
  unfold VpcParser.parseInbound
  dsimp only [Bool.not_false, if_true]
  rcases parseOuter e rdr with _ | ⟨meta, offsets, rdr⟩
  · rfl
  · exact verdict_parseInner e false meta offsets rdr

/-! The shape of every parsed packet. -/

structure PacketInfo.InnerWellFormed (info : PacketInfo) : Prop where
  ip : info.meta.inner.ip.isSome = info.offsets.inner.ip.isSome
  ulp : info.meta.inner.ulp.isSome = info.offsets.inner.ulp.isSome
  ipIffNotArp : info.meta.inner.ip = none ↔ info.meta.inner.ether.etherType = .arp
  ulpIffTcpUdp : info.meta.inner.ulp.isSome ↔
    ∃ ip, info.meta.inner.ip = some ip ∧ (ip.proto = .tcp ∨ ip.proto = .udp)
  csum : info.bodyCsum.isSome → info.meta.inner.ulp.isSome

def PacketInfo.OuterTier (info : PacketInfo) (encapped : Bool) : Prop :=
  if encapped then
    ∃ ether ip6 encap etherAt ipAt encapAt,
      info.meta.outer = ⟨some ether, some (.ip6 ip6), some encap⟩ ∧
      info.offsets.outer = ⟨some etherAt, some ipAt, some encapAt⟩
  else info.meta.outer = {} ∧ info.offsets.outer = {}

theorem ulpHeader_ok {e : Engine} {proto : Protocol} {rdr : PacketReaderMut}
    {result : Option (HdrInfo UlpMeta × UlpHdr)} (found : ulpHeader e proto rdr = .ok result) :
    (result = none ∧ (proto = .icmp ∨ proto = .icmpv6)) ∨
      (result.isSome ∧ (proto = .tcp ∨ proto = .udp)) := by
  unfold ulpHeader at found
  split at found <;> (try split at found) <;> cases found <;> simp

theorem parseUlp_ok {e : Engine} {meta : PacketMeta} {offsets : HeaderOffsets}
    {ipHi : HdrInfo IpMeta} {pseudoCsum : Checksum} {rdr : PacketReaderMut} {info : PacketInfo}
    (fresh : meta.inner.ulp = none) (freshAt : offsets.inner.ulp = none)
    (notArp : meta.inner.ether.etherType ≠ .arp)
    (parsed : parseUlp e meta offsets ipHi pseudoCsum rdr = .ok info) :
    info.meta.outer = meta.outer ∧ info.offsets.outer = offsets.outer ∧
      info.meta.inner.ether = meta.inner.ether ∧ info.offsets.inner.ether = offsets.inner.ether ∧
      info.InnerWellFormed := by
  unfold parseUlp at parsed
  split at parsed
  · cases parsed
  · rename_i found
    cases parsed
    rcases ulpHeader_ok found with ⟨-, proto⟩ | ⟨bad, -⟩
    · refine ⟨rfl, rfl, rfl, rfl, ⟨by simp, by simp [fresh, freshAt], by simpa using notArp, ?_,
        by simp⟩⟩
      rcases proto with proto | proto <;> simp [proto, fresh]
    · cases bad
  · rename_i found
    cases parsed
    rcases ulpHeader_ok found with ⟨bad, -⟩ | ⟨-, proto⟩
    · cases bad
    · exact ⟨rfl, rfl, rfl, rfl, ⟨by simp, by simp, by simpa using notArp, by simp [proto], by simp⟩⟩

theorem parseInner_ok {e : Engine} {arpOk : Bool} {meta : PacketMeta} {offsets : HeaderOffsets}
    {rdr : PacketReaderMut} {info : PacketInfo} (fresh : meta.inner = {})
    (freshAt : offsets.inner = {}) (parsed : parseInner e arpOk meta offsets rdr = .ok info) :
    info.meta.outer = meta.outer ∧ info.offsets.outer = offsets.outer ∧ info.InnerWellFormed ∧
      (info.meta.inner.ether.etherType = .arp → arpOk = true) ∧
      info.offsets.inner.ether.pktPos = rdr.pos ∧
      rdr.pos + info.offsets.inner.ether.hdrLen ≤ rdr.bytes.length := by
  unfold parseInner at parsed
  split at parsed
  · cases parsed
  rename_i etherHi _ next etherParsed
  obtain ⟨etherAt, sameBytes, nextPos⟩ := PacketReaderMut.parseHdr_ok etherParsed
  have within := next.posLe
  rw [sameBytes, nextPos] at within
  split at parsed
  · split at parsed
    · rename_i arpAllowed
      cases parsed
      exact ⟨rfl, rfl, ⟨by simp [fresh, freshAt], by simp [fresh, freshAt], by simpa [fresh],
        by simp [fresh], by simp⟩, fun _ => arpAllowed, etherAt, within⟩
    · cases parsed
  -- IPv4 and IPv6 alike: the IP header, then `parseUlp`
  iterate 2
    · split at parsed
      · cases parsed
      · rename_i isIp _ _ _ _ _
        obtain ⟨outer, outerAt, etherMeta, ether, wellFormed⟩ :=
          parseUlp_ok (by simp [fresh]) (by simp [freshAt]) (by simp [isIp]) parsed
        exact ⟨outer, outerAt, wellFormed, by simp [etherMeta, isIp], by simp [ether, etherAt],
          by simpa [ether] using within⟩
  · cases parsed

theorem parseOuter_ok {e : Engine} {rdr : PacketReaderMut} {meta : PacketMeta}
    {offsets : HeaderOffsets} {next : PacketReaderMut}
    (parsed : parseOuter e rdr = .ok (meta, offsets, next)) :
    meta.inner = {} ∧ offsets.inner = {} ∧ (PacketInfo.mk meta offsets none).OuterTier true := by
  unfold parseOuter at parsed
  split at parsed
  · cases parsed
  split at parsed
  · split at parsed
    · cases parsed
    · rename_i ipParsed
      obtain ⟨ip6, isIp6⟩ := Packet.parseIp6_ip6 ipParsed
      split at parsed
      · split at parsed
        · cases parsed
        · cases parsed
          exact ⟨rfl, rfl, by simp [PacketInfo.OuterTier, isIp6]⟩
      · cases parsed
  · cases parsed

theorem PacketInfo.outerTier_congr {info info' : PacketInfo} {encapped : Bool}
    (outer : info'.meta.outer = info.meta.outer) (outerAt : info'.offsets.outer = info.offsets.outer) :
    info'.OuterTier encapped ↔ info.OuterTier encapped := by
  simp only [PacketInfo.OuterTier, outer, outerAt]

theorem VpcParser.parseInbound_inv {e : Engine} {parser : VpcParser} {rdr : PacketReaderMut}
    {info : PacketInfo} (parsed : parser.parseInbound e rdr = .ok info) :
    ∃ meta offsets guest, meta.inner = {} ∧ offsets.inner = {} ∧
      (PacketInfo.mk meta offsets none).OuterTier !parser.proxyArpEnable ∧
      (parser.proxyArpEnable = true → guest = rdr) ∧
      parseInner e parser.proxyArpEnable meta offsets guest = .ok info := by
  unfold VpcParser.parseInbound at parsed
  rcases parser with ⟨_ | _⟩
  · rw [if_pos (by rfl)] at parsed
    split at parsed
    · cases parsed
    · rename_i outerParsed
      obtain ⟨fresh, freshAt, tier⟩ := parseOuter_ok outerParsed
      exact ⟨_, _, _, fresh, freshAt, tier, nofun, parsed⟩
  · exact ⟨{}, {}, rdr, rfl, rfl, ⟨rfl, rfl⟩, fun _ => rfl, parsed⟩

/-- Every packet the VPC parser accepts is well formed on the guest side, and has all three
underlay headers when it came in over the underlay and none of them otherwise. -/
theorem vpcParser_packetInfo_wellFormed (e : Engine) (parser : VpcParser) (rdr : PacketReaderMut)
    (info : PacketInfo) :
    (parser.parseOutbound e rdr = .ok info → info.InnerWellFormed ∧ info.OuterTier false) ∧
    (parser.parseInbound e rdr = .ok info →
      info.InnerWellFormed ∧ info.OuterTier !parser.proxyArpEnable) := by
  refine ⟨fun parsed => ?_, fun parsed => ?_⟩
  · obtain ⟨outer, outerAt, wellFormed, -⟩ := parseInner_ok rfl rfl parsed
    exact ⟨wellFormed, outer, outerAt⟩
  · obtain ⟨meta, offsets, guest, fresh, freshAt, tier, -, guestParsed⟩ :=
      VpcParser.parseInbound_inv parsed
    obtain ⟨outer, outerAt, wellFormed, -⟩ := parseInner_ok fresh freshAt guestParsed
    exact ⟨wellFormed, (PacketInfo.outerTier_congr outer outerAt).mpr tier⟩

set_option maxRecDepth 2000 in
theorem vpcParser_packetInfo_wellFormed_wireFrames :
    (∃ info, (VpcParser.mk false).parseOutbound Wire.engine (.new Wire.gatewayRequest) = .ok info ∧
      info.InnerWellFormed ∧ info.OuterTier false) ∧
    (∃ info, (VpcParser.mk false).parseOutbound Wire.engine (.new Wire.guestSyn) = .ok info ∧
      info.meta.inner.ulp.isSome ∧ info.InnerWellFormed ∧ info.OuterTier false) ∧
    (∃ info, (VpcParser.mk false).parseInbound Wire.engine (.new Wire.underlaySynAck) = .ok info ∧
      info.meta.inner.ulp.isSome ∧ info.InnerWellFormed ∧ info.OuterTier true) :=
  ⟨⟨_, rfl, (vpcParser_packetInfo_wellFormed Wire.engine ⟨false⟩ (.new Wire.gatewayRequest) _).1 rfl⟩,
    ⟨_, rfl, rfl, (vpcParser_packetInfo_wellFormed Wire.engine ⟨false⟩ (.new Wire.guestSyn) _).1 rfl⟩,
    ⟨_, rfl, rfl, (vpcParser_packetInfo_wellFormed Wire.engine ⟨false⟩ (.new Wire.underlaySynAck) _).2 rfl⟩⟩

end Opte
