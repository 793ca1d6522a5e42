import Opte.Packet

/-!
A concrete opte engine, to run the VPC network on real frames. It decodes the headers
the VPC parser asks for as the wire lays them out, in network order: Ethernet II, IPv4 and
IPv6, TCP and UDP, UDP carrying Geneve, and the Ethernet/IPv4 ARP payload, and it builds
the reply frame of `gen_arp_reply`. Beside it stand a guest's ARP request, a guest's TCP
segment over IPv4, and the same kind of segment arriving over the underlay in Geneve.
-/

namespace Opte

namespace Wire

def beBytes : Nat → Nat → List UInt8
  | 0, _ => []
  | count + 1, n => beBytes count (n / 256) ++ [UInt8.ofNat n]

def macAddr (bytes : List UInt8) : MacAddr :=
  ⟨BitVec.ofNat 48 (beValue bytes)⟩

def ipv4Addr (bytes : List UInt8) : Ipv4Addr :=
  ⟨BitVec.ofNat 32 (beValue bytes)⟩

def field (bytes : List UInt8) (start count : Nat) : List UInt8 :=
  (bytes.drop start).take count

theorem length_field {bytes : List UInt8} {start count : Nat} (fits : start + count ≤ bytes.length) :
    (field bytes start count).length = count := by
  simp only [field, List.length_take, List.length_drop]
  omega

def etherTypeOf (value : Nat) : EtherType :=
  if value = 0x0800 then .ipv4
  else if value = 0x0806 then .arp
  else if value = 0x86DD then .ipv6
  else .other (UInt16.ofNat value)

def etherRead (bytes : List UInt8) : Except ParseError (EtherMeta × Unit × Nat) :=
  if 14 ≤ bytes.length then
    .ok (⟨macAddr (field bytes 0 6), macAddr (field bytes 6 6),
      etherTypeOf (beValue (field bytes 12 2))⟩, (), 14)
  else .error (.badHeader "ether header too short")

def ether : HdrParser EtherMeta Unit where
  read := etherRead
  readLe := by
    intro bytes _ _ _ read
    unfold etherRead at read
    split at read
    · cases read
      assumption
    · cases read

def ipv6Addr (bytes : List UInt8) : Ipv6Addr :=
  ⟨BitVec.ofNat 128 (beValue bytes)⟩

def protocolOf (value : Nat) : Protocol :=
  if value = 1 then .icmp
  else if value = 6 then .tcp
  else if value = 17 then .udp
  else if value = 58 then .icmpv6
  else .other (UInt8.ofNat value)

def wordSum : List UInt8 → Nat
  | hi :: lo :: rest => hi.toNat * 256 + lo.toNat + wordSum rest
  | [hi] => hi.toNat * 256
  | [] => 0

def ipv4HdrLen (bytes : List UInt8) : Nat :=
  beValue (field bytes 0 1) % 16 * 4

def ip4Read (bytes : List UInt8) : Except ParseError (Ipv4Meta × IpHdr × Nat) :=
  if beValue (field bytes 0 1) / 16 = 4 ∧ 20 ≤ ipv4HdrLen bytes ∧ ipv4HdrLen bytes ≤ bytes.length then
    .ok (⟨ipv4Addr (field bytes 12 4), ipv4Addr (field bytes 16 4),
        protocolOf (beValue (field bytes 9 1))⟩,
      ⟨⟨UInt32.ofNat (wordSum (field bytes 12 8) + beValue (field bytes 9 1) +
        (beValue (field bytes 2 2) - ipv4HdrLen bytes))⟩⟩, ipv4HdrLen bytes)
  else .error (.badHeader "IPv4 header malformed")

def ip6Read (bytes : List UInt8) : Except ParseError (Ipv6Meta × IpHdr × Nat) :=
  if beValue (field bytes 0 1) / 16 = 6 ∧ 40 ≤ bytes.length then
    .ok (⟨ipv6Addr (field bytes 8 16), ipv6Addr (field bytes 24 16),
        protocolOf (beValue (field bytes 6 1))⟩,
      ⟨⟨UInt32.ofNat (wordSum (field bytes 8 32) + beValue (field bytes 6 1) +
        beValue (field bytes 4 2))⟩⟩, 40)
  else .error (.badHeader "IPv6 header malformed")

def csumMinusHdr (bytes : List UInt8) (csumPos len : Nat) : Checksum :=
  ⟨UInt32.ofNat (0xffff - beValue (field bytes csumPos 2)) -
    UInt32.ofNat (wordSum (field bytes 0 csumPos) + wordSum (field bytes (csumPos + 2) (len - csumPos - 2)))⟩

def tcpLen (bytes : List UInt8) : Nat :=
  beValue (field bytes 12 1) / 16 * 4

def tcpRead (bytes : List UInt8) : Except ParseError (TcpMeta × UlpHdr × Nat) :=
  if 20 ≤ tcpLen bytes ∧ tcpLen bytes ≤ bytes.length then
    .ok (⟨UInt16.ofNat (beValue (field bytes 0 2)), UInt16.ofNat (beValue (field bytes 2 2))⟩,
      ⟨some (csumMinusHdr bytes 16 (tcpLen bytes))⟩, tcpLen bytes)
  else .error (.badHeader "TCP header malformed")

def udpRead (bytes : List UInt8) : Except ParseError (UdpMeta × UlpHdr × Nat) :=
  if 8 ≤ bytes.length then
    .ok (⟨UInt16.ofNat (beValue (field bytes 0 2)), UInt16.ofNat (beValue (field bytes 2 2))⟩,
      ⟨if beValue (field bytes 6 2) = 0 then none else some (csumMinusHdr bytes 6 8)⟩, 8)
  else .error (.badHeader "UDP header too short")

def geneveLen (bytes : List UInt8) : Nat :=
  16 + beValue (field bytes 8 1) % 64 * 4

def geneveRead (bytes : List UInt8) : Except ParseError (GeneveMeta × Unit × Nat) :=
  if fits : geneveLen bytes ≤ bytes.length then
    if beValue (field bytes 2 2) = 6081 ∧ beValue (field bytes 8 1) / 64 = 0 ∧
        beValue (field bytes 10 2) = 0x6558 then
      .ok (⟨⟨field bytes 12 3, length_field (by unfold geneveLen at fits; omega)⟩⟩, (),
        geneveLen bytes)
    else .error (.badHeader "not a Geneve header")
  else .error (.badHeader "Geneve header too short")

def ip4 : HdrParser Ipv4Meta IpHdr where
  read := ip4Read
  readLe := by
    intro _ _ _ _ read
    unfold ip4Read at read
    split at read <;> cases read
    omega

def ip6 : HdrParser Ipv6Meta IpHdr where
  read := ip6Read
  readLe := by
    intro _ _ _ _ read
    unfold ip6Read at read
    split at read <;> cases read
    omega

def tcp : HdrParser TcpMeta UlpHdr where
  read := tcpRead
  readLe := by
    intro _ _ _ _ read
    unfold tcpRead at read
    split at read <;> cases read
    omega

def udp : HdrParser UdpMeta UlpHdr where
  read := udpRead
  readLe := by
    intro _ _ _ _ read
    unfold udpRead at read
    split at read <;> cases read
    assumption

def geneve : HdrParser GeneveMeta Unit where
  read := geneveRead
  readLe := by
    intro _ _ _ _ read
    unfold geneveRead at read
    split at read
    · split at read <;> cases read
      assumption
    · cases read

def arpOp (value : Nat) : Option ArpOp :=
  if value = 1 then some .request
  else if value = 2 then some .reply
  else none

def arpParse (bytes : List UInt8) : Option ArpEthIpv4 :=
  if 28 ≤ bytes.length then
    (arpOp (beValue (field bytes 6 2))).map fun op =>
      ⟨UInt16.ofNat (beValue (field bytes 0 2)), UInt16.ofNat (beValue (field bytes 2 2)), op,
        macAddr (field bytes 8 6), ipv4Addr (field bytes 14 4), ipv4Addr (field bytes 24 4)⟩
  else none

def arpFrame (dst src : MacAddr) (op : Nat) (sha : MacAddr) (spa : Ipv4Addr) (tha : MacAddr)
    (tpa : Ipv4Addr) : List UInt8 :=
  let mac := fun (addr : MacAddr) => beBytes 6 addr.bits.toNat
  let ip4 := fun (addr : Ipv4Addr) => beBytes 4 addr.bits.toNat
  mac dst ++ mac src ++ beBytes 2 0x0806 ++ beBytes 2 1 ++ beBytes 2 0x0800 ++ [6, 4] ++
    beBytes 2 op ++ mac sha ++ ip4 spa ++ mac tha ++ ip4 tpa

def genArpReply (ethSrc : MacAddr) (ip : Ipv4Addr) (tha : MacAddr) (tpa : Ipv4Addr) :
    List UInt8 :=
  arpFrame tha ethSrc 2 ethSrc ip tha tpa

/-- Modelled from the spec: an opte engine whose header parsers decode each header as the wire
lays it out, and whose `gen_arp_reply` builds the Ethernet/IPv4 ARP reply frame. -/
def engine : Engine where
  ether := ether
  ip4 := ip4
  ip6 := ip6
  tcp := tcp
  udp := udp
  geneve := geneve
  csumSub := fun sum part => ⟨sum.inner - part.inner⟩
  arpParse := arpParse
  genArpReply := genArpReply

def gatewayRequest : List UInt8 :=
  arpFrame ⟨0xffffffffffff⟩ ⟨0xa84025ff7777⟩ 1 ⟨0xa84025ff7777⟩ ⟨0x0a000005⟩ ⟨0⟩ ⟨0x0a000001⟩

def etherHeader (dst src : MacAddr) (etherType : Nat) : List UInt8 :=
  beBytes 6 dst.bits.toNat ++ beBytes 6 src.bits.toNat ++ beBytes 2 etherType

def tcpFrame (dst src : MacAddr) (ipSrc ipDst : Ipv4Addr) (srcPort dstPort flags : Nat) :
    List UInt8 :=
  etherHeader dst src 0x0800 ++
    [0x45, 0] ++ beBytes 2 40 ++ [0, 0, 0x40, 0, 64, 6, 0, 0] ++
    beBytes 4 ipSrc.bits.toNat ++ beBytes 4 ipDst.bits.toNat ++
    beBytes 2 srcPort ++ beBytes 2 dstPort ++ beBytes 4 1 ++ beBytes 4 0 ++
    [0x50] ++ beBytes 1 flags ++ beBytes 2 0xffff ++ [0, 0, 0, 0]

def geneveFrame (dstMac srcMac : MacAddr) (src dst : Ipv6Addr) (vni : Nat) (inner : List UInt8) :
    List UInt8 :=
  etherHeader dstMac srcMac 0x86DD ++
    [0x60, 0, 0, 0] ++ beBytes 2 (16 + inner.length) ++ [17, 255] ++
    beBytes 16 src.bits.toNat ++ beBytes 16 dst.bits.toNat ++
    beBytes 2 49152 ++ beBytes 2 6081 ++ beBytes 2 (16 + inner.length) ++ [0, 0] ++
    [0, 0, 0x65, 0x58] ++ beBytes 3 vni ++ [0] ++ inner

def guestSyn : List UInt8 :=
  tcpFrame ⟨0xa84025000001⟩ ⟨0xa84025ff7777⟩ ⟨0x0a000005⟩ ⟨0x0a000007⟩ 49152 22 0x02

def underlaySynAck : List UInt8 :=
  geneveFrame ⟨0xa84025000002⟩ ⟨0xa84025000003⟩ ⟨0xfd000000000000000000000000000001⟩
    ⟨0xfd000000000000000000000000000002⟩ 7777
    (tcpFrame ⟨0xa84025ff7777⟩ ⟨0xa84025000001⟩ ⟨0x0a000007⟩ ⟨0x0a000005⟩ 22 49152 0x12)

end Wire

end Opte
