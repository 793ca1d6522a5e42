import Opte.Api
import Opte.Vni

/-!
The packet as the VPC network sees it: the metadata and header offsets a parse records,
the reader that walks the packet's bytes, and the header parsers of the opte engine that
the VPC parser calls. The engine lies outside the modelled sources, so its parsers are
parameters; the one thing assumed of each is that it reads from the bytes in front of it,
never past the end of the packet.
-/

namespace Opte

structure MacAddr where
  bits : BitVec 48
  deriving DecidableEq, Repr, Inhabited

inductive EtherType
  | ipv4
  | arp
  | ipv6
  | other (value : UInt16)
  deriving DecidableEq, Repr, Inhabited

inductive Protocol
  | icmp
  | tcp
  | udp
  | icmpv6
  | other (value : UInt8)
  deriving DecidableEq, Repr

structure EtherMeta where
  dst : MacAddr
  src : MacAddr
  etherType : EtherType
  deriving DecidableEq, Repr, Inhabited

structure Ipv4Meta where
  src : Ipv4Addr
  dst : Ipv4Addr
  proto : Protocol
  deriving DecidableEq

structure Ipv6Meta where
  src : Ipv6Addr
  dst : Ipv6Addr
  proto : Protocol
  deriving DecidableEq

inductive IpMeta
  | ip4 (meta : Ipv4Meta)
  | ip6 (meta : Ipv6Meta)
  deriving DecidableEq

def IpMeta.proto : IpMeta → Protocol
  | .ip4 meta => meta.proto
  | .ip6 meta => meta.proto

structure TcpMeta where
  src : UInt16
  dst : UInt16
  deriving DecidableEq

structure UdpMeta where
  src : UInt16
  dst : UInt16
  deriving DecidableEq

inductive UlpMeta
  | tcp (meta : TcpMeta)
  | udp (meta : UdpMeta)
  deriving DecidableEq

structure GeneveMeta where
  vni : Vni
  deriving DecidableEq

inductive EncapMeta
  | geneve (meta : GeneveMeta)
  deriving DecidableEq

structure Checksum where
  inner : UInt32
  deriving DecidableEq

structure IpHdr where
  pseudoCsum : Checksum

structure UlpHdr where
  csumMinusHdr : Option Checksum

structure HdrOffset where
  pktPos : Nat
  hdrLen : Nat
  deriving DecidableEq, Repr, Inhabited

structure HdrInfo (M : Type) where
  meta : M
  offset : HdrOffset

def HdrInfo.map {M N : Type} (f : M → N) (info : HdrInfo M) : HdrInfo N :=
  ⟨f info.meta, info.offset⟩

structure OuterMeta where
  ether : Option EtherMeta := none
  ip : Option IpMeta := none
  encap : Option EncapMeta := none
  deriving DecidableEq

structure InnerMeta where
  ether : EtherMeta := default
  ip : Option IpMeta := none
  ulp : Option UlpMeta := none
  deriving DecidableEq

structure PacketMeta where
  outer : OuterMeta := {}
  inner : InnerMeta := {}
  deriving DecidableEq

structure OuterHeaderOffsets where
  ether : Option HdrOffset := none
  ip : Option HdrOffset := none
  encap : Option HdrOffset := none
  deriving DecidableEq

structure InnerHeaderOffsets where
  ether : HdrOffset := default
  ip : Option HdrOffset := none
  ulp : Option HdrOffset := none
  deriving DecidableEq

structure HeaderOffsets where
  outer : OuterHeaderOffsets := {}
  inner : InnerHeaderOffsets := {}
  deriving DecidableEq

structure PacketInfo where
  meta : PacketMeta
  offsets : HeaderOffsets
  bodyCsum : Option Checksum
  deriving DecidableEq

inductive ParseError
  | unexpectedEtherType (etherType : EtherType)
  | unexpectedProtocol (proto : Protocol)
  | badHeader (msg : String)
  | badInnerIpLen (expected actual : Nat)
  deriving DecidableEq

structure PacketReaderMut where
  bytes : List UInt8
  pos : Nat
  posLe : pos ≤ bytes.length

def PacketReaderMut.new (bytes : List UInt8) : PacketReaderMut :=
  ⟨bytes, 0, Nat.zero_le _⟩

/-- Modelled from the spec: `PacketReaderMut::seek`, which fails past the end of the packet. -/
def PacketReaderMut.seek (rdr : PacketReaderMut) (amount : Nat) : Option PacketReaderMut :=
  if fits : rdr.pos + amount ≤ rdr.bytes.length then some ⟨rdr.bytes, rdr.pos + amount, fits⟩
  else none

structure HdrParser (M H : Type) where
  read : List UInt8 → Except ParseError (M × H × Nat)
  readLe : ∀ {bytes meta hdr len}, read bytes = .ok (meta, hdr, len) → len ≤ bytes.length

/-- Modelled from the spec: an engine header parse at the reader, which records where the
header starts and its length, and moves past it. -/
def PacketReaderMut.parseHdr {M H : Type} (rdr : PacketReaderMut) (parser : HdrParser M H) :
    Except ParseError (HdrInfo M × H × PacketReaderMut) :=
  match read : parser.read (rdr.bytes.drop rdr.pos) with
  | .error err => .error err
  | .ok (meta, hdr, len) =>
      .ok (⟨meta, ⟨rdr.pos, len⟩⟩, hdr, ⟨rdr.bytes, rdr.pos + len, by
        have := parser.readLe read
        simp only [List.length_drop] at this
        have := rdr.posLe
        omega⟩)

inductive ArpOp
  | request
  | reply
  deriving DecidableEq

structure ArpEthIpv4 where
  htype : UInt16
  ptype : UInt16
  op : ArpOp
  sha : MacAddr
  spa : Ipv4Addr
  tpa : Ipv4Addr
  deriving DecidableEq

structure Engine where
  ether : HdrParser EtherMeta Unit
  ip4 : HdrParser Ipv4Meta IpHdr
  ip6 : HdrParser Ipv6Meta IpHdr
  tcp : HdrParser TcpMeta UlpHdr
  udp : HdrParser UdpMeta UlpHdr
  geneve : HdrParser GeneveMeta Unit
  csumSub : Checksum → Checksum → Checksum
  arpParse : List UInt8 → Option ArpEthIpv4
  genArpReply : MacAddr → Ipv4Addr → MacAddr → Ipv4Addr → List UInt8

namespace Packet

variable (e : Engine) (rdr : PacketReaderMut)

def parseEther : Except ParseError (HdrInfo EtherMeta × Unit × PacketReaderMut) :=
  rdr.parseHdr e.ether

def parseIp4 : Except ParseError (HdrInfo IpMeta × IpHdr × PacketReaderMut) :=
  (rdr.parseHdr e.ip4).map fun (hi, hdr, rdr) => (hi.map .ip4, hdr, rdr)

def parseIp6 : Except ParseError (HdrInfo IpMeta × IpHdr × PacketReaderMut) :=
  (rdr.parseHdr e.ip6).map fun (hi, hdr, rdr) => (hi.map .ip6, hdr, rdr)

def parseTcp : Except ParseError (HdrInfo UlpMeta × UlpHdr × PacketReaderMut) :=
  (rdr.parseHdr e.tcp).map fun (hi, hdr, rdr) => (hi.map .tcp, hdr, rdr)

def parseUdp : Except ParseError (HdrInfo UlpMeta × UlpHdr × PacketReaderMut) :=
  (rdr.parseHdr e.udp).map fun (hi, hdr, rdr) => (hi.map .udp, hdr, rdr)

def parseGeneve : Except ParseError (HdrInfo GeneveMeta × Unit × PacketReaderMut) :=
  rdr.parseHdr e.geneve

end Packet

theorem PacketReaderMut.parseHdr_ok {M H : Type} {rdr : PacketReaderMut} {parser : HdrParser M H}
    {hi : HdrInfo M} {hdr : H} {next : PacketReaderMut}
    (parsed : rdr.parseHdr parser = .ok (hi, hdr, next)) :
    hi.offset.pktPos = rdr.pos ∧ next.bytes = rdr.bytes ∧ next.pos = rdr.pos + hi.offset.hdrLen := by
  unfold PacketReaderMut.parseHdr at parsed
  split at parsed
  · cases parsed
  · cases parsed
    exact ⟨rfl, rfl, rfl⟩

theorem PacketReaderMut.parseHdr_map_ok {M N H : Type} {rdr : PacketReaderMut}
    {parser : HdrParser M H} {f : HdrInfo M × H × PacketReaderMut → HdrInfo N × H × PacketReaderMut}
    {hi : HdrInfo N} {hdr : H} {next : PacketReaderMut}
    (parsed : (rdr.parseHdr parser).map f = .ok (hi, hdr, next))
    (keeps : ∀ hi hdr next, (f (hi, hdr, next)).1.offset = hi.offset ∧ (f (hi, hdr, next)).2.2 = next) :
    hi.offset.pktPos = rdr.pos ∧ next.bytes = rdr.bytes ∧ next.pos = rdr.pos + hi.offset.hdrLen := by
  obtain ⟨⟨hi', hdr', next'⟩, found, same⟩ := exceptMap_eq_ok.mp parsed
  obtain ⟨offset, reader⟩ := keeps hi' hdr' next'
  rw [same] at offset reader
  dsimp only at offset reader
  rw [offset, reader]
  exact PacketReaderMut.parseHdr_ok found

theorem Packet.parseIp6_ip6 {e : Engine} {rdr : PacketReaderMut} {hi : HdrInfo IpMeta}
    {hdr : IpHdr} {next : PacketReaderMut} (parsed : Packet.parseIp6 e rdr = .ok (hi, hdr, next)) :
    ∃ ip6, hi.meta = .ip6 ip6 := by
  unfold Packet.parseIp6 at parsed
  rcases found : rdr.parseHdr e.ip6 with _ | ⟨ip6Hi, _, _⟩ <;> rw [found] at parsed <;> cases parsed
  exact ⟨ip6Hi.meta, rfl⟩

end Opte
